import TableDiff.Number.Binary64.Shortest
import TableDiff.Text.Quoted

/-!
# YAML nodes

The data of a YAML document: scalars resolved to null, truth values, numbers or texts, and
collections of nodes. A node may carry a tag of its own; looking for a text, a list or the like
looks through it.
-/

namespace TableDiff.Yaml

/-- A number of a document: an integer of 64 bits with or without sign, or a binary number. -/
inductive Number where
  | integer (i : Int)
  | float (x : Binary64)
deriving DecidableEq

/-- The text of a number: an integer in digits, another number with a fraction or an exponent. -/
def Number.text : Number → String
  | .integer i => String.ofList (TableDiff.Number.intText i)
  | .float x =>
    if x.isNaN then ".nan"
    else if !x.isFinite then (if x.negative then "-.inf" else ".inf")
    else String.ofList x.scientificText

/-- A node of a document. -/
inductive Node where
  | null
  | boolean (b : Bool)
  | number (n : Number)
  | text (s : String)
  | list (items : List Node)
  | mapping (entries : List (Node × Node))
  | tagged (tag : String) (node : Node)

namespace Node

/-! ## Parts of a node -/

/-- The node behind all tags. -/
def untagged : Node → Node
  | .tagged _ n => n.untagged
  | n => n

def text? (n : Node) : Option String :=
  match n.untagged with
  | .text s => some s
  | _ => none

def list? (n : Node) : Option (List Node) :=
  match n.untagged with
  | .list items => some items
  | _ => none

def mapping? (n : Node) : Option (List (Node × Node)) :=
  match n.untagged with
  | .mapping entries => some entries
  | _ => none

/-- An integer of 64 bits with a sign. -/
def int64? (n : Node) : Option Int64 :=
  match n.untagged with
  | .number (.integer i) => TableDiff.Number.int64? i
  | _ => none

/-- The value of an entry, which is null if there is none. -/
def lookup (name : String) : List (Node × Node) → Node
  | [] => .null
  | (.text s, v) :: rest => if s = name then v else lookup name rest
  | _ :: rest => lookup name rest

/-- The value that a mapping has for a name; it is null if there is none. -/
def field (n : Node) (name : String) : Node :=
  match n.mapping? with
  | some entries => lookup name entries
  | none => .null

/-! ## Sizes

What is found in a node is not larger than the node, so that readers of nodes end. -/

theorem one_le_sizeOf (n : Node) : 1 ≤ sizeOf n := by
  cases n <;> (simp <;> omega)

theorem sizeOf_untagged_le (n : Node) : sizeOf n.untagged ≤ sizeOf n := by
  induction n using untagged.induct with
  | case1 tag n ih => simp only [untagged, tagged.sizeOf_spec]; omega
  | case2 n h => simp [untagged]

theorem sizeOf_lookup_le (name : String) (entries : List (Node × Node)) :
    sizeOf (lookup name entries) ≤ sizeOf entries := by
  induction entries using lookup.induct name with
  | case1 => simp [lookup]
  | case2 v rest =>
    simp only [lookup, if_true, List.cons.sizeOf_spec, Prod.mk.sizeOf_spec]
    omega
  | case3 s v rest h ih =>
    simp only [lookup, if_neg h, List.cons.sizeOf_spec]
    omega
  | case4 rest e h ih =>
    simp only [lookup, List.cons.sizeOf_spec]
    omega

theorem sizeOf_mapping? {n : Node} {entries : List (Node × Node)} (h : n.mapping? = some entries) :
    sizeOf entries < sizeOf n := by
  have hle := sizeOf_untagged_le n
  unfold mapping? at h
  cases hu : n.untagged <;> simp [hu] at h
  subst h
  rw [hu, mapping.sizeOf_spec] at hle
  omega

theorem sizeOf_field_le (n : Node) (name : String) : sizeOf (n.field name) ≤ sizeOf n := by
  unfold field
  cases h : n.mapping? with
  | none => have := one_le_sizeOf n; simpa
  | some entries =>
    have := sizeOf_mapping? h
    have := sizeOf_lookup_le name entries
    simp only
    omega

/-! ## How errors show a node -/

/-- The key of an entry, as errors show it: a plain key without its kind. -/
def keyDescription (full : String) : Node → String
  | .boolean b => if b then "true" else "false"
  | .number n => n.text
  | .text s => Text.quote s
  | _ => full

mutual

/-- A node with the kinds of its parts. -/
def description : Node → String
  | .null => "Null"
  | .boolean b => "Bool(" ++ (if b then "true" else "false") ++ ")"
  | .number n => "Number(" ++ n.text ++ ")"
  | .text s => "String(" ++ Text.quote s ++ ")"
  | .list items => "Sequence [" ++ ", ".intercalate (itemDescriptions items) ++ "]"
  | .mapping entries =>
    "Mapping \x7b" ++ ", ".intercalate (entryDescriptions entries) ++ "\x7d"
  | .tagged tag n =>
    "TaggedValue \x7b tag: !" ++ tag ++ ", value: " ++ n.description ++ " \x7d"

def itemDescriptions : List Node → List String
  | [] => []
  | n :: rest => n.description :: itemDescriptions rest

def entryDescriptions : List (Node × Node) → List String
  | [] => []
  | (k, v) :: rest =>
    (keyDescription k.description k ++ ": " ++ v.description) :: entryDescriptions rest

end

end Node

end TableDiff.Yaml
