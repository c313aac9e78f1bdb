import TableDiff.Filter
import TableDiff.Filter.Glob
import TableDiff.Text.Blank

/-!
# Column patterns

A column pattern is a glob for column names, or `TABLE.COLUMN` with a glob for each. A dot that
belongs to a name is written with a backslash before it.
-/

namespace TableDiff

/-- A pattern for the columns of all tables or of those that a glob matches. -/
structure ColumnPattern where
  given : String
  table : Option Glob
  column : Glob
deriving DecidableEq

namespace ColumnPattern

/-- The texts before and after the first dot that no backslash escapes. -/
def splitAtDot (escaped : Bool) : List Char → Option (List Char × List Char)
  | [] => none
  | c :: rest =>
    if c = '\\' ∧ !escaped then (splitAtDot true rest).map fun (l, r) => (c :: l, r)
    else if c = '.' ∧ !escaped then some ([], rest)
    else (splitAtDot false rest).map fun (l, r) => (c :: l, r)

/-- The table part and the column part of a pattern; there is no table part if it would be
empty. -/
def splitQualifier (cs : List Char) : Option (List Char × List Char) :=
  (splitAtDot false cs).filter fun (table, _) => table ≠ []

/-- The text in which every escaped dot is a plain one. -/
def unescapeDots : List Char → List Char
  | '\\' :: '.' :: rest => '.' :: unescapeDots rest
  | c :: rest => c :: unescapeDots rest
  | [] => []

/-- The glob of a part of a pattern. -/
def partGlob (cs : List Char) : Glob := Glob.ofText (unescapeDots (Text.trim cs))

/-- The pattern that a text denotes; blanks around the text and around its parts do not count. -/
def ofText (given : String) : ColumnPattern :=
  let cs := Text.trim given.toList
  match splitQualifier cs with
  | some (table, column) => ⟨String.ofList cs, some (partGlob table), partGlob column⟩
  | none => ⟨String.ofList cs, none, partGlob cs⟩

/-- Whether the pattern matches a column of a table, by their names. -/
def isMatch (p : ColumnPattern) (table column : String) : Bool :=
  (match p.table with
    | some glob => glob.isMatch table.toList
    | none => true) &&
  p.column.isMatch column.toList

end ColumnPattern

/-- A filter by patterns: a column is kept if it matches one of the patterns to include, provided
that there are any, and none of those to exclude. -/
structure PatternFilter where
  includes : List ColumnPattern
  excludes : List ColumnPattern

namespace PatternFilter

/-- The filter without patterns. -/
def empty : PatternFilter := ⟨[], []⟩

def addInclude (f : PatternFilter) (pattern : String) : PatternFilter :=
  { f with includes := f.includes ++ [ColumnPattern.ofText pattern] }

def addExclude (f : PatternFilter) (pattern : String) : PatternFilter :=
  { f with excludes := f.excludes ++ [ColumnPattern.ofText pattern] }

/-- The filter that excludes by the given patterns. -/
def excluding (patterns : List String) : PatternFilter := patterns.foldl addExclude empty

/-- The patterns to exclude, without the blanks around them. -/
def excludedPatterns (f : PatternFilter) : List String := f.excludes.map (·.given)

def isEmpty (f : PatternFilter) : Bool := f.includes.isEmpty && f.excludes.isEmpty

/-- The filter as a comparison uses it. -/
def accepts (f : PatternFilter) : ColumnFilter := fun table column =>
  (f.includes.isEmpty || f.includes.any (·.isMatch table column.name)) &&
    !f.excludes.any (·.isMatch table column.name)

end PatternFilter

end TableDiff
