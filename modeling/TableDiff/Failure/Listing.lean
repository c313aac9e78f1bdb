import TableDiff.Failure
import TableDiff.Text.Blank

/-!
# Listings of failures

Failures as a plain table for a terminal. The columns are as wide as their widest cells, where a
wide character takes two places and the sequences that set colours take none.
-/

namespace TableDiff.Listing

/-- The ranges of characters that take two places. -/
def wideRanges : List (Nat × Nat) :=
  [(0x1100, 0x115F), (0x2E80, 0x303E), (0x3041, 0x33FF), (0x3400, 0x4DBF), (0x4E00, 0x9FFF),
    (0xA000, 0xA4CF), (0xAC00, 0xD7A3), (0xF900, 0xFAFF), (0xFE30, 0xFE4F), (0xFF00, 0xFF60),
    (0xFFE0, 0xFFE6), (0x1F300, 0x1F64F), (0x1F900, 0x1F9FF), (0x20000, 0x3FFFD)]

def isWide (c : Char) : Bool :=
  wideRanges.any fun (first, last) => first ≤ c.toNat && c.toNat ≤ last

/-- The places that a text takes; `escaped` says whether it starts within a colour sequence,
which lasts from an escape character to the letter `m`. -/
def widthFrom (escaped : Bool) : List Char → Nat
  | [] => 0
  | c :: rest =>
    if escaped then widthFrom (c ≠ 'm') rest
    else if c = '\x1b' then widthFrom true rest
    else (if isWide c then 2 else 1) + widthFrom false rest

/-- The places that a text takes. -/
def width (cs : List Char) : Nat := widthFrom false cs

/-- A text on one line: line ends and tabs become spaces. -/
def sanitize (cs : List Char) : List Char :=
  cs.map fun c => if c = '\n' ∨ c = '\r' ∨ c = '\t' then ' ' else c

/-- A text filled up with spaces to a width. -/
def pad (wanted : Nat) (cs : List Char) : List Char :=
  cs ++ List.replicate (wanted - width cs) ' '

/-- A line of the table: the cells with two spaces between them, and no blanks at the end. -/
def line (widths : List Nat) (cells : List (List Char)) : List Char :=
  Text.trimEnd ([' ', ' '].intercalate (List.zipWith (fun w c => pad w (sanitize c)) widths cells))

def header : List (List Char) :=
  ["#".toList, "failure".toList, "expected".toList, "actual".toList]

/-- The cells of a failure; `index` counts from zero. -/
def cells (index : Nat) (f : Failure) : List (List Char) :=
  [(toString (index + 1)).toList, f.message.toList, (f.expected.getD "").toList,
    (f.actual.getD "").toList]

/-- The widths of the columns. -/
def widths (rows : List (List (List Char))) : List Nat :=
  rows.foldl (fun ws row => List.zipWith (fun w c => max w (width (sanitize c))) ws row)
    (header.map width)

/-- The lines of the table: the header, a rule, and the failures with their numbers. -/
def lines (failures : List Failure) : List (List Char) :=
  let rows := failures.mapIdx cells
  let ws := widths rows
  line ws header :: line ws (ws.map fun w => List.replicate (max w 3) '-') :: rows.map (line ws)

/-- The table, every line with its end. -/
def render (failures : List Failure) : String :=
  String.ofList ((lines failures).flatMap (· ++ ['\n']))

end TableDiff.Listing
