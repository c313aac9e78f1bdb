import TableDiff.Text.Case

/-!
# Globs

A glob is a pattern for whole names: `*` stands for any run of characters, `?` for any one
character, and every other character for itself in either case. No wildcard stands for a line end.
-/

namespace TableDiff

/-- A part of a glob. -/
inductive GlobItem where
  | anyRun
  | anyOne
  | letter (c : Char)
deriving DecidableEq

/-- A pattern for names. -/
abbrev Glob := List GlobItem

namespace Glob

/-- The glob that a text denotes. -/
def ofText (cs : List Char) : Glob :=
  cs.map fun c => if c = '*' then .anyRun else if c = '?' then .anyOne else .letter c

/-- For each suffix of a text, from the text itself to the empty one, whether `item` followed by
what `rest` tells of the suffixes matches it. -/
def prepend (item : GlobItem) : List Char → List Bool → List Bool
  | c :: cs, m :: ms =>
    let shorter := prepend item cs ms
    let here := match item with
      | .anyRun => m || (c ≠ '\n' && shorter.headD false)
      | .anyOne => c ≠ '\n' && ms.headD false
      | .letter a => Text.sameLetter a c && ms.headD false
    here :: shorter
  | _, ms =>
    match item with
    | .anyRun => ms
    | _ => ms.map fun _ => false

/-- For each suffix of a text, from the text itself to the empty one, whether the glob matches it.
The items are taken from the last to the first, so each of them meets each suffix once. -/
def suffixMatches (glob : Glob) (cs : List Char) : List Bool :=
  glob.foldr (fun item ms => prepend item cs ms) (List.replicate cs.length false ++ [true])

/-- Whether the glob matches the whole text. -/
def isMatch (glob : Glob) (cs : List Char) : Bool := (suffixMatches glob cs).headD false

end Glob

end TableDiff
