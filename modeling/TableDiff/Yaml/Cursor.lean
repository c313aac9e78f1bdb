/-!
# Places in a document

A cursor is a place in the text of a document: what follows, and the number of characters, lines
and columns passed. The end of a line is one of several characters, or a carriage return and a
line feed together.
-/

namespace TableDiff.Yaml

/-! ## Characters -/

/-- Whether a document may hold a character. -/
def isAllowed (c : Char) : Bool :=
  c == '\t' || c == '\n' || c == '\r' || c == '\u0085' || (' ' ≤ c && c ≤ '~') ||
    ('\u00a0' ≤ c && c != '\ufffe' && c != '\uffff')

def isBreak (c : Char) : Bool :=
  c == '\n' || c == '\r' || c == '\u0085' || c == '\u2028' || c == '\u2029'

def isBlank (c : Char) : Bool := c == ' ' || c == '\t'

def isGap (c : Char) : Bool := isBlank c || isBreak c

/-- The characters of anchors and of the handles of tags. -/
def isNameChar (c : Char) : Bool := c.isAlphanum || c == '_' || c == '-'

/-! ## Cursors -/

structure Cursor where
  rest : List Char
  index : Nat
  line : Nat
  column : Nat

namespace Cursor

/-- The start of a text. -/
def ofText (cs : List Char) : Cursor := ⟨cs, 0, 0, 0⟩

/-- The place behind the next character or line end. -/
def next (c : Cursor) : Cursor :=
  match c.rest with
  | [] => c
  | '\r' :: '\n' :: rest => ⟨rest, c.index + 2, c.line + 1, 0⟩
  | x :: rest =>
    if isBreak x then ⟨rest, c.index + 1, c.line + 1, 0⟩
    else ⟨rest, c.index + 1, c.line, c.column + 1⟩

theorem length_next_lt {c : Cursor} (h : c.rest ≠ []) : c.next.rest.length < c.rest.length := by
  unfold next
  split
  · contradiction
  · rename_i rest hr; simp only [hr, List.length_cons]; omega
  · rename_i x rest hx hr
    rw [hr]
    split <;> simp

theorem length_next_le (c : Cursor) : c.next.rest.length ≤ c.rest.length := by
  by_cases h : c.rest = []
  · unfold next
    split <;> simp_all
  · exact Nat.le_of_lt (length_next_lt h)

/-- The place `n` characters ahead. -/
def skip (c : Cursor) : Nat → Cursor
  | 0 => c
  | n + 1 => c.next.skip n

theorem length_skip_le (c : Cursor) (n : Nat) : (c.skip n).rest.length ≤ c.rest.length := by
  induction n generalizing c with
  | zero => exact Nat.le_refl _
  | succ n ih => exact Nat.le_trans (ih c.next) c.length_next_le

/-- Passes the characters of a kind that line ends do not belong to. -/
def skipWhile (p : Char → Bool) (c : Cursor) : Cursor :=
  let n := (c.rest.takeWhile p).length
  ⟨c.rest.drop n, c.index + n, c.line, c.column + n⟩

/-- The text of the line end at the cursor, in which all common line ends are alike. -/
def breakText (c : Cursor) : List Char :=
  match c.rest with
  | [] => []
  | x :: _ => if x == '\u2028' || x == '\u2029' then [x] else if isBreak x then ['\n'] else []

/-- Whether a blank, a line end or the end of the text is `n` characters ahead. -/
def gapAt (c : Cursor) (n : Nat) : Bool :=
  match c.rest[n]? with
  | none => true
  | some x => isGap x

def isAt (c : Cursor) (n : Nat) (x : Char) : Bool := c.rest[n]? == some x

/-- Whether a line starts here that consists of the mark between documents. -/
def atMark (c : Cursor) (mark : String) : Bool :=
  c.column == 0 && mark.toList.isPrefixOf c.rest && c.gapAt 3

def atAnyMark (c : Cursor) : Bool := c.atMark "---" || c.atMark "..."

/-- Passes blanks, a comment, and the end of the line; none if anything else is on the line. -/
def endLine? (c : Cursor) : Option Cursor :=
  let c := c.skipWhile isBlank
  let c := if c.isAt 0 '#' then c.skipWhile fun x => !isBreak x else c
  match c.rest with
  | [] => some c
  | x :: _ => if isBreak x then some c.next else none

end Cursor

end TableDiff.Yaml
