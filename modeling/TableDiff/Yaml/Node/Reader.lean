import TableDiff.Number.Binary64.Reader
import TableDiff.Yaml.Document
import TableDiff.Yaml.Node

/-!
# Nodes from documents

A plain scalar without a tag is a null, a truth value or a number if it looks like one; other
scalars are texts. The tags of the standard kinds demand their kind, and a tag of the document's
own stays at its node.
-/

namespace TableDiff.Yaml

namespace Node

/-! ## Equal nodes -/

mutual

/-- Whether two nodes are the same, so that they cannot both be keys of a mapping. -/
def same : Node → Node → Bool
  | .null, .null => true
  | .boolean a, .boolean b => a == b
  | .number (.integer a), .number (.integer b) => a == b
  | .number (.float a), .number (.float b) => (a.isNaN && b.isNaN) || a.equals b
  | .text a, .text b => a == b
  | .list as, .list bs => sameItems as bs
  | .mapping as, .mapping bs => sameEntries as bs
  | .tagged t a, .tagged u b => t == u && a.same b
  | _, _ => false

def sameItems : List Node → List Node → Bool
  | [], [] => true
  | a :: as, b :: bs => a.same b && sameItems as bs
  | _, _ => false

def sameEntries : List (Node × Node) → List (Node × Node) → Bool
  | [], [] => true
  | (k, v) :: as, (l, w) :: bs => k.same l && v.same w && sameEntries as bs
  | _, _ => false

end

/-- Whether no two keys are the same. -/
def distinctKeys : List (Node × Node) → Bool
  | [] => true
  | (k, _) :: rest => !(rest.any fun e => e.1.same k) && distinctKeys rest

/-! ## Plain scalars -/

def isNull (cs : List Char) : Bool := ["null", "Null", "NULL", "~"].contains (String.ofList cs)

def boolean? (cs : List Char) : Option Bool :=
  let s := String.ofList cs
  if ["true", "True", "TRUE"].contains s then some true
  else if ["false", "False", "FALSE"].contains s then some false
  else none

/-- The number that digits of a base stand for; there is at least one. -/
def magnitude? (base : Nat) (cs : List Char) : Option Nat :=
  let step (acc : Nat) (c : Char) : Option Nat := do
    let d ← Number.hexValue? c
    if d < base then return acc * base + d else none
  if cs = [] then none else cs.foldlM step 0

/-- Whether a text has more digits than a number, as it starts with a zero. -/
def isPadded (cs : List Char) : Bool :=
  match cs with
  | '0' :: rest => rest != [] && rest.all Char.isDigit
  | _ => false

/-- The sign of a number, and its text without the sign. -/
def splitSign : List Char → Bool × List Char
  | '-' :: rest => (true, rest)
  | '+' :: rest => (false, rest)
  | cs => (false, cs)

/-- An integer in decimal, or behind a mark in base 16, 8 or 2. -/
def integer? (cs : List Char) : Option Int :=
  let (negative, ds) := splitSign cs
  let n? :=
    match ds with
    | '0' :: 'x' :: ds => magnitude? 16 ds
    | '0' :: 'o' :: ds => magnitude? 8 ds
    | '0' :: 'b' :: ds => magnitude? 2 ds
    | ds => if isPadded ds then none else magnitude? 10 ds
  n?.map fun n => if negative then -n else n

/-- A binary number; the infinite ones and the one that is not a number start with a dot. -/
def float? (cs : List Char) : Option Binary64 :=
  let (negative, name) := splitSign cs
  if [".inf", ".Inf", ".INF"].contains (String.ofList name) then some (.infinity negative)
  else if [".nan", ".NaN", ".NAN"].contains (String.ofList cs) then some (.nan false)
  else
    match Binary64.read cs with
    | .ok x => if x.isFinite then some x else none
    | .error _ => none

/-- What a number of an integer is: none if it has more than 64 bits and not more than 128. -/
inductive IntegerRange where
  | inside
  | refused
  | beyond

def rangeOf (i : Int) : IntegerRange :=
  if -Number.twoPow 63 ≤ i ∧ i < Number.twoPow 64 then .inside
  else if -Number.twoPow 127 ≤ i ∧ i < Number.twoPow 128 then .refused
  else .beyond

/-- A plain scalar that is no integer. -/
def ofOther (cs : List Char) : Node :=
  if isPadded (splitSign cs).2 then .text (String.ofList cs)
  else
    match float? cs with
    | some x => .number (.float x)
    | none => .text (String.ofList cs)

/-- A plain scalar. An integer of more than 64 bits is refused, unless it has so many that it is
read as a binary number. -/
def ofPlain? (cs : List Char) : Option Node :=
  if cs = [] ∨ isNull cs then some .null
  else
    match boolean? cs with
    | some b => some (.boolean b)
    | none =>
      match integer? cs with
      | none => some (ofOther cs)
      | some i =>
        match rangeOf i with
        | .inside => some (.number (.integer i))
        | .refused => none
        | .beyond => some (ofOther cs)

/-! ## Tags -/

/-- A tag of the document's own, without its exclamation mark. -/
def ownTag? : List Char → Option (List Char)
  | '!' :: name => some name
  | _ => none

/-- A scalar with a tag that is not the document's own. -/
def ofStandardTag? (tag cs : List Char) : Option Node :=
  let tag := String.ofList tag
  if tag = "tag:yaml.org,2002:bool" then (boolean? cs).map .boolean
  else if tag = "tag:yaml.org,2002:int" then
    (integer? cs).bind fun i =>
      match rangeOf i with
      | .inside => some (.number (.integer i))
      | _ => none
  else if tag = "tag:yaml.org,2002:float" then (float? cs).map fun x => .number (.float x)
  else if tag = "tag:yaml.org,2002:null" then if isNull cs then some .null else none
  else some (.text (String.ofList cs))

def ofStyle? (style : ScalarStyle) (cs : List Char) : Option Node :=
  if style = .plain then ofPlain? cs else some (.text (String.ofList cs))

/-- A node with its own tag, which has a name. -/
def withTag? (name : List Char) (n : Node) : Option Node :=
  if name = [] then none else some (.tagged (String.ofList name) n)

def ofScalar? (p : Properties) (style : ScalarStyle) (cs : List Char) : Option Node :=
  match p.tag with
  | none => ofStyle? style cs
  | some tag =>
    match ownTag? tag with
    | some name => (ofStyle? style cs).bind (withTag? name)
    | none => ofStandardTag? tag cs

/-- A collection, with the document's own tag if it has one. -/
def ofCollection? (p : Properties) (n : Node) : Option Node :=
  match p.tag.bind ownTag? with
  | some name => withTag? name n
  | none => some n

end Node

namespace Document

open Node

/-- Reads a node; collections in it may be nested `depth` times. -/
def node (d : Document) : Nat → Tree → Reading Node
  | 0, t => do
    match ← d.follow t with
    | .scalar p style cs => ofScalar? p style cs
    | _ => failure
  | depth + 1, t => do
    match ← d.follow t with
    | .alias _ => failure
    | .scalar p style cs => ofScalar? p style cs
    | .list p items => do
      let nodes ← items.mapM (d.node depth)
      ofCollection? p (.list nodes)
    | .mapping p entries => do
      let nodes ← entries.mapM fun (k, v) => return (← d.node depth k, ← d.node depth v)
      if distinctKeys nodes then ofCollection? p (.mapping nodes) else failure

/-- Whether a node is something other than null. A node with the tag of null must be null. -/
def isPresent (t : Tree) : Reading Bool :=
  match t with
  | .scalar p .plain cs =>
    if p.tag = some "tag:yaml.org,2002:null".toList then
      if isNull cs then return false else failure
    else if p.tag.isSome then return true
    else return !(cs.isEmpty || isNull cs)
  | _ => return true

/-- Null, or what is read. -/
def optional {α : Type} (d : Document) (read : Tree → Reading α) (t : Tree) :
    Reading (Option α) := do
  let t ← d.follow t
  if ← isPresent t then return some (← read t) else return none

/-- A truth value that is not in quotes. -/
def boolean (d : Document) (t : Tree) : Reading Bool := do
  match ← d.follow t with
  | .scalar p style cs =>
    if style = .plain ∨ (style = .literal ∧ p.tag = some "tag:yaml.org,2002:bool".toList) then
      boolean? cs
    else failure
  | _ => failure

end Document

end TableDiff.Yaml
