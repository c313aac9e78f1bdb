import TableDiff.Yaml.Token

/-!
# The tree of a document

The nodes of a document as they are written: scalars are texts, and an alias is the number of the
anchor that it stands for. A tree is read from tokens.
-/

namespace TableDiff.Yaml

/-- What stands before a node: its number as an anchor, and its tag. -/
structure Properties where
  anchor : Option Nat
  tag : Option (List Char)
deriving DecidableEq

namespace Properties

def none : Properties := ⟨.none, .none⟩

/-- The properties of a scalar, of which the exclamation mark alone is no tag. -/
def ofScalar (p : Properties) : Properties :=
  if p.tag = some ['!'] then { p with tag := .none } else p

end Properties

inductive Tree where
  | alias (number : Nat)
  | scalar (p : Properties) (style : ScalarStyle) (text : List Char)
  | list (p : Properties) (items : List Tree)
  | mapping (p : Properties) (entries : List (Tree × Tree))

namespace Tree

/-- The node that is not written. -/
def missing : Tree := .scalar .none .plain []

/-! ## Directives -/

/-- The handles of tags with what they stand for. -/
abbrev Handles := List (List Char × List Char)

def standardHandles : Handles := [(['!'], ['!']), (['!', '!'], "tag:yaml.org,2002:".toList)]

/-- Reads the directives before a document: at most one version, which is 1.1 or 1.2, and handles
that differ. -/
def directives? (version : Bool) (handles : Handles) : List Token → Option (Handles × List Token)
  | .version major minor :: rest =>
    if version ∨ major ≠ 1 ∨ (minor ≠ 1 ∧ minor ≠ 2) then none
    else directives? true handles rest
  | .tagHandle handle expansion :: rest =>
    if (handles.lookup handle).isSome then none
    else directives? version (handles ++ [(handle, expansion)]) rest
  | rest => some (handles ++ standardHandles, rest)

/-! ## Nodes -/

/-- Where a node stands: in a collection in brackets, in a block, or in a block mapping, where a
list needs no indentation of its own. -/
inductive Place where
  | flow
  | block
  | entry
deriving DecidableEq

/-- A tag with its handle replaced. -/
def fullTag? (handles : Handles) (handle suffix : List Char) : Option (List Char) :=
  if handle = [] then some suffix else (handles.lookup handle).map (· ++ suffix)

/-- The anchor and the tag before a node, in either order. -/
def properties? (handles : Handles) : List Token → Option (Properties × List Token)
  | .anchor n :: .tag h s :: rest => (fullTag? handles h s).map fun t => (⟨n, t⟩, rest)
  | .tag h s :: .anchor n :: rest => (fullTag? handles h s).map fun t => (⟨n, t⟩, rest)
  | .anchor n :: rest => some (⟨n, none⟩, rest)
  | .tag h s :: rest => (fullTag? handles h s).map fun t => (⟨none, t⟩, rest)
  | rest => some (.none, rest)

/-- Whether a token starts no node in an indented list. -/
def endsItem : Token → Bool
  | .item | .blockEnd => true
  | _ => false

/-- Whether a token starts no node in a block mapping. -/
def endsEntry : Token → Bool
  | .key | .value | .blockEnd => true
  | _ => false

/-- Whether a token starts no node in a list in brackets. -/
def endsFlowItem : Token → Bool
  | .value | .comma | .flowListEnd => true
  | _ => false

/-- Whether a token starts no node in a mapping in brackets. -/
def endsFlowEntry : Token → Bool
  | .value | .comma | .flowMappingEnd => true
  | _ => false

mutual

/-- Reads a node. No token is passed more than a few times, so the number of tokens bounds the
depth of the readers. -/
def node? (handles : Handles) (place : Place) : Nat → List Token → Option (Tree × List Token)
  | 0, _ => none
  | _, .alias n :: rest => some (.alias n, rest)
  | fuel + 1, tokens => do
    let (p, tokens) ← properties? handles tokens
    match tokens, place with
    -- A list that stands as deep as the mapping around it has no start of its own.
    | .item :: _, .entry => do
      let (items, rest) ← items? handles .entry fuel tokens
      return (.list p items, rest)
    | .scalar style text :: rest, _ => return (.scalar p.ofScalar style text, rest)
    | .flowListStart :: rest, _ => do
      let (items, rest) ← flowItems? handles true fuel rest
      return (.list p items, rest)
    | .flowMappingStart :: rest, _ => do
      let (entries, rest) ← flowEntries? handles true fuel rest
      return (.mapping p entries, rest)
    | .blockListStart :: rest, .block | .blockListStart :: rest, .entry => do
      let (items, rest) ← items? handles .block fuel rest
      return (.list p items, rest)
    | .blockMappingStart :: rest, .block | .blockMappingStart :: rest, .entry => do
      let (entries, rest) ← entries? handles fuel rest
      return (.mapping p entries, rest)
    -- An anchor or a tag alone is an empty scalar.
    | rest, _ => if p = .none then none else return (.scalar p .plain [], rest)

/-- Reads a node, unless one of the tokens that end the place of a node comes first. -/
def nodeOrMissing? (handles : Handles) (place : Place) (ends : Token → Bool) :
    Nat → List Token → Option (Tree × List Token)
  | 0, _ => none
  | fuel + 1, tokens =>
    if tokens.head?.any ends then some (missing, tokens) else node? handles place fuel tokens

/-- The items of a block list. A list without an indentation of its own ends before any token that
is no item. -/
def items? (handles : Handles) (place : Place) : Nat → List Token → Option (List Tree × List Token)
  | 0, _ => none
  | fuel + 1, tokens =>
    match tokens, place with
    | .item :: rest, _ => do
      let ends (t : Token) : Bool := endsItem t || (place == .entry && endsEntry t)
      let (item, rest) ← nodeOrMissing? handles .block ends fuel rest
      let (items, rest) ← items? handles place fuel rest
      return (item :: items, rest)
    | .blockEnd :: rest, .block => some ([], rest)
    | _, .entry => some ([], tokens)
    | _, _ => none

/-- The entries of a block mapping. -/
def entries? (handles : Handles) : Nat → List Token → Option (List (Tree × Tree) × List Token)
  | 0, _ => none
  | fuel + 1, .key :: rest => do
    let (key, rest) ← nodeOrMissing? handles .entry endsEntry fuel rest
    let (value, rest) ← match rest with
      | .value :: rest => nodeOrMissing? handles .entry endsEntry fuel rest
      | rest => some (missing, rest)
    let (entries, rest) ← entries? handles fuel rest
    return ((key, value) :: entries, rest)
  | _, .blockEnd :: rest => some ([], rest)
  | _, _ => none

/-- The items of a list in brackets. A key without brackets makes a mapping of one entry. -/
def flowItems? (handles : Handles) (first : Bool) :
    Nat → List Token → Option (List Tree × List Token)
  | 0, _ => none
  | _, .flowListEnd :: rest => some ([], rest)
  | fuel + 1, tokens => do
    let tokens ← match first, tokens with
      | true, tokens => some tokens
      | false, .comma :: rest => some rest
      | false, _ => none
    match tokens with
    | .flowListEnd :: rest => return ([], rest)
    | .key :: rest =>
      let (key, rest) ←
        if rest.head?.any endsFlowItem then some (missing, rest.tail)
        else node? handles .flow fuel rest
      let (value, rest) ← match rest with
        | .value :: rest =>
          let ends (t : Token) : Bool := t == .comma || t == .flowListEnd
          nodeOrMissing? handles .flow ends fuel rest
        | rest => some (missing, rest)
      let (items, rest) ← flowItems? handles false fuel rest
      return (.mapping .none [(key, value)] :: items, rest)
    | tokens =>
      let (item, rest) ← node? handles .flow fuel tokens
      let (items, rest) ← flowItems? handles false fuel rest
      return (item :: items, rest)

/-- The entries of a mapping in brackets. -/
def flowEntries? (handles : Handles) (first : Bool) :
    Nat → List Token → Option (List (Tree × Tree) × List Token)
  | 0, _ => none
  | _, .flowMappingEnd :: rest => some ([], rest)
  | fuel + 1, tokens => do
    let tokens ← match first, tokens with
      | true, tokens => some tokens
      | false, .comma :: rest => some rest
      | false, _ => none
    match tokens with
    | .flowMappingEnd :: rest => return ([], rest)
    | .key :: rest =>
      let (key, rest) ← nodeOrMissing? handles .flow endsFlowEntry fuel rest
      let (value, rest) ← match rest with
        | .value :: rest =>
          let ends (t : Token) : Bool := t == .comma || t == .flowMappingEnd
          nodeOrMissing? handles .flow ends fuel rest
        | rest => some (missing, rest)
      let (entries, rest) ← flowEntries? handles false fuel rest
      return ((key, value) :: entries, rest)
    | tokens =>
      let (key, rest) ← node? handles .flow fuel tokens
      let (entries, rest) ← flowEntries? handles false fuel rest
      return ((key, missing) :: entries, rest)

end

/-! ## Documents -/

/-- Reads the node of a document. -/
def root? (handles : Handles) (tokens : List Token) : Option (Tree × List Token) :=
  node? handles .block (4 * tokens.length + 4) tokens

/-- Whether a token belongs to the frame of a document. -/
def isFrame : Token → Bool
  | .version _ _ | .tagHandle _ _ | .documentStart | .documentEnd => true
  | _ => false

/-- The tree of the only document among the tokens; a document that is not there is a missing
node. -/
def ofTokens? (tokens : List Token) : Option Tree := do
  if tokens = [] then return missing
  let (tree, rest) ←
    match tokens with
    | .version _ _ :: _ | .tagHandle _ _ :: _ | .documentStart :: _ =>
      let (handles, rest) ← directives? false [] tokens
      match rest with
      | .documentStart :: rest =>
        if rest.head?.all isFrame then some (missing, rest) else root? handles rest
      | _ => none
    | tokens => root? standardHandles tokens
  if rest.dropWhile (· == .documentEnd) = [] then return tree else none

end Tree

end TableDiff.Yaml
