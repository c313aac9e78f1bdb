import TableDiff.Yaml.Lexer
import TableDiff.Yaml.Tree

/-!
# Documents

A document is a tree whose aliases stand for other parts of it. What is read from a document is
read through its aliases; how many of them are followed is bounded, so that a document cannot
multiply itself, and so is the depth of collections.
-/

namespace TableDiff.Yaml

namespace Tree

mutual

/-- The anchored nodes of a tree in the order in which they start. -/
def anchored : Tree → List (Nat × Tree)
  | .alias _ => []
  | .scalar p style text => (p.anchor.map fun n => (n, .scalar p style text)).toList
  | .list p items => (p.anchor.map fun n => (n, .list p items)).toList ++ anchoredItems items
  | .mapping p entries =>
    (p.anchor.map fun n => (n, .mapping p entries)).toList ++ anchoredEntries entries

def anchoredItems : List Tree → List (Nat × Tree)
  | [] => []
  | t :: rest => t.anchored ++ anchoredItems rest

def anchoredEntries : List (Tree × Tree) → List (Nat × Tree)
  | [] => []
  | (k, v) :: rest => k.anchored ++ v.anchored ++ anchoredEntries rest

end

mutual

/-- The number of parts of a tree, in which a collection counts twice. -/
def parts : Tree → Nat
  | .alias _ => 1
  | .scalar _ _ _ => 1
  | .list _ items => 2 + itemParts items
  | .mapping _ entries => 2 + entryParts entries

def itemParts : List Tree → Nat
  | [] => 0
  | t :: rest => t.parts + itemParts rest

def entryParts : List (Tree × Tree) → Nat
  | [] => 0
  | (k, v) :: rest => k.parts + v.parts + entryParts rest

end

end Tree

/-- A document. The last of several anchors with one number counts. -/
structure Document where
  root : Tree
  anchors : List (Nat × Tree)

namespace Document

def ofTree (t : Tree) : Document := ⟨t, t.anchored.reverse⟩

/-- Reads the text of a document. -/
def ofText? (text : String) : Option Document := do
  let tokens ← tokens? text.toList
  let tree ← Tree.ofTokens? tokens
  return .ofTree tree

/-- How many aliases may be followed for each part of a document. -/
def aliasesPerPart : Nat := 100

/-- How deep collections may be nested. -/
def greatestDepth : Nat := 128

/-! ## Reading -/

/-- A result that is read while the number of aliases that may still be followed goes down; it
fails if the document does not hold what is wanted. -/
abbrev Reading := StateT Nat Option

/-- Runs a reader on the root of a document. -/
def run? {α : Type} (d : Document) (read : Nat → Tree → Reading α) : Option α :=
  ((read greatestDepth d.root).run (d.root.parts * aliasesPerPart)).map (·.1)

/-- The node itself that a node or an alias stands for. -/
def follow (d : Document) : Tree → Reading Tree
  | .alias n => do
    match ← get with
    | 0 => failure
    | left + 1 =>
      set left
      match d.anchors.lookup n with
      | some t => return t
      | none => failure
  | t => return t

/-- A collection takes one level of the depth. -/
def descend : Nat → Reading Nat
  | 0 => failure
  | depth + 1 => return depth

/-- Whether a collection that is not written stands for an empty one. -/
def isMissing : Tree → Bool
  | .scalar _ .plain [] => true
  | _ => false

/-- The text of a scalar, whatever its tag. -/
def text (d : Document) (t : Tree) : Reading String := do
  match ← d.follow t with
  | .scalar _ _ cs => return String.ofList cs
  | _ => failure

/-- A list of nodes, and the depth that is left for them. -/
def items (d : Document) (depth : Nat) (t : Tree) : Reading (List Tree × Nat) := do
  match ← d.follow t with
  | .list _ items => return (items, ← descend depth)
  | t => if isMissing t then return ([], depth) else failure

/-- The entries of a mapping whose keys are texts, and the depth that is left for them. -/
def entries (d : Document) (depth : Nat) (t : Tree) : Reading (List (String × Tree) × Nat) := do
  match ← d.follow t with
  | .mapping _ entries =>
    let depth ← descend depth
    let named ← entries.mapM fun (k, v) => return (← d.text k, v)
    return (named, depth)
  | t => if isMissing t then return ([], depth) else failure

end Document

end TableDiff.Yaml
