import TableDiff.Number.Digits
import TableDiff.Number.Hex
import TableDiff.Yaml.Cursor

/-!
# Scalars as they are written

The text of a scalar that is plain, in quotes, or a block of lines. White space inside a scalar is
folded: blanks around line ends vanish, a single line end becomes a blank, and of several line ends
the first vanishes.
-/

namespace TableDiff.Yaml

/-! ## Gaps -/

/-- White space between words: the blanks before its first line end, and the line ends. -/
structure Gap where
  blanks : List Char
  breaks : List (List Char)
deriving DecidableEq

namespace Gap

def none : Gap := ⟨[], []⟩

/-- The gap that starts with an escaped line end, which leaves no trace. -/
def escaped : Gap := ⟨[], [[]]⟩

def addBlank (g : Gap) (c : Char) : Gap :=
  if g.breaks = [] then { g with blanks := g.blanks ++ [c] } else g

def addBreak (g : Gap) (text : List Char) : Gap := { g with breaks := g.breaks ++ [text] }

/-- What stands in the scalar for the gap. -/
def folded (g : Gap) : List Char :=
  match g.breaks with
  | [] => g.blanks
  | first :: more =>
    if first = ['\n'] then if more = [] then [' '] else more.flatten
    else first ++ more.flatten

end Gap

/-! ## Scalars in quotes -/

/-- The hexadecimal number of a given width at the start of a text. -/
def hexNumber? (width : Nat) (cs : List Char) : Option Nat :=
  let ds := cs.take width
  if ds.length = width then Number.ofHex? ds else none

/-- The character that an escape with a hexadecimal number of a given width stands for, and how
many characters the escape has behind its backslash. -/
def numericEscape? (width : Nat) (cs : List Char) : Option (Char × Nat) := do
  let n ← hexNumber? width cs
  if n.isValidChar then return (Char.ofNat n, width + 1) else none

/-- The character that an escape stands for, and how many characters it has behind its backslash. -/
def escape? : List Char → Option (Char × Nat)
  | '0' :: _ => some ('\x00', 1)
  | 'a' :: _ => some ('\x07', 1)
  | 'b' :: _ => some ('\x08', 1)
  | 't' :: _ => some ('\t', 1)
  | '\t' :: _ => some ('\t', 1)
  | 'n' :: _ => some ('\n', 1)
  | 'v' :: _ => some ('\x0b', 1)
  | 'f' :: _ => some ('\x0c', 1)
  | 'r' :: _ => some ('\r', 1)
  | 'e' :: _ => some ('\x1b', 1)
  | ' ' :: _ => some (' ', 1)
  | '"' :: _ => some ('"', 1)
  | '/' :: _ => some ('/', 1)
  | '\\' :: _ => some ('\\', 1)
  | 'N' :: _ => some ('\u0085', 1)
  | '_' :: _ => some ('\u00a0', 1)
  | 'L' :: _ => some ('\u2028', 1)
  | 'P' :: _ => some ('\u2029', 1)
  | 'x' :: rest => numericEscape? 2 rest
  | 'u' :: rest => numericEscape? 4 rest
  | 'U' :: rest => numericEscape? 8 rest
  | _ => none

/-- Reads a scalar in single quotes from behind its first quote; `text` is what has been read, and
`gap` the white space since. -/
def singleQuoted? (text : List Char) (gap : Gap) (c : Cursor) : Option (List Char × Cursor) :=
  if c.atAnyMark then none
  else
    match h : c.rest with
    | [] => none
    | x :: more =>
      have _shorter := Cursor.length_next_lt (c := c) (by simp [h])
      have _second := Cursor.length_next_le c.next
      if isBlank x then singleQuoted? text (gap.addBlank x) c.next
      else if isBreak x then singleQuoted? text (gap.addBreak c.breakText) c.next
      else if x != '\'' then singleQuoted? (text ++ gap.folded ++ [x]) .none c.next
      -- A quote within the scalar is written twice.
      else if more.head? = some '\'' then
        singleQuoted? (text ++ gap.folded ++ ['\'']) .none c.next.next
      else some (text ++ gap.folded, c.next)
termination_by c.rest.length
decreasing_by all_goals omega

/-- Reads a scalar in double quotes from behind its first quote; `text` is what has been read, and
`gap` the white space since. -/
def doubleQuoted? (text : List Char) (gap : Gap) (c : Cursor) : Option (List Char × Cursor) :=
  if c.atAnyMark then none
  else
    match h : c.rest with
    | [] => none
    | x :: more =>
      have _shorter := Cursor.length_next_lt (c := c) (by simp [h])
      have _second := Cursor.length_next_le c.next
      if isBlank x then doubleQuoted? text (gap.addBlank x) c.next
      else if isBreak x then doubleQuoted? text (gap.addBreak c.breakText) c.next
      else if x == '"' then some (text ++ gap.folded, c.next)
      else if x != '\\' then doubleQuoted? (text ++ gap.folded ++ [x]) .none c.next
      -- An escaped line end joins the lines, and keeps the blanks before it.
      else if more.head?.any isBreak then doubleQuoted? (text ++ gap.folded) .escaped c.next.next
      else
        match escape? more with
        | none => none
        | some (y, n) =>
          have _third := c.next.length_skip_le n
          doubleQuoted? (text ++ gap.folded ++ [y]) .none (c.next.skip n)
termination_by c.rest.length
decreasing_by all_goals omega

/-! ## Plain scalars -/

/-- Whether a colon in a collection in brackets stands before a sign that it cannot stand before. -/
def misplacedColon (more : List Char) : Bool :=
  match more with
  | [] => false
  | y :: _ => [',', '?', '[', ']', '\x7b', '\x7d'].contains y

/-- A plain scalar that has been read. -/
structure PlainScalar where
  text : List Char
  endsInBreak : Bool
  after : Cursor

/-- Reads a plain scalar, whose lines are indented by at least `indent` columns; `inFlow` says
that it is in a collection in brackets. -/
def plain? (inFlow : Bool) (indent : Nat) (text : List Char) (gap : Gap) (c : Cursor) :
    Option PlainScalar :=
  let stop : PlainScalar := ⟨text, !gap.breaks.isEmpty, c⟩
  match h : c.rest with
  | [] => some stop
  | x :: more =>
    have _shorter := Cursor.length_next_lt (c := c) (by simp [h])
    if isBlank x then
      if gap.breaks != [] && c.column < indent && x == '\t' then none
      else plain? inFlow indent text (gap.addBlank x) c.next
    else if isBreak x then plain? inFlow indent text (gap.addBreak c.breakText) c.next
    -- A word that is not indented enough belongs to what comes next, and a comment ends all.
    else if gap != .none && ((!inFlow && c.column < indent) || x == '#') then some stop
    else if c.atAnyMark then some stop
    else if inFlow && x == ':' && misplacedColon more then none
    else if (x == ':' && c.gapAt 1) || (inFlow && [',', '[', ']', '\x7b', '\x7d'].contains x) then
      some stop
    else plain? inFlow indent (text ++ gap.folded ++ [x]) .none c.next
termination_by c.rest.length
decreasing_by all_goals omega

/-! ## Blocks of lines -/

/-- What becomes of the line ends at the end of a block. -/
inductive Chomping where
  | strip
  | clip
  | keep
deriving DecidableEq

/-- The head of a block: what its first line says. -/
structure BlockHead where
  folds : Bool
  chomping : Chomping
  indent? : Option Nat

/-- A digit other than zero. -/
def increment? (c : Cursor) : Option (Option Nat × Cursor) :=
  match c.rest with
  | x :: _ =>
    if x.isDigit then
      if x == '0' then none else some (some (x.toNat - '0'.toNat), c.next)
    else some (none, c)
  | [] => some (none, c)

def chomping? (c : Cursor) : Option Chomping × Cursor :=
  if c.isAt 0 '+' then (some .keep, c.next)
  else if c.isAt 0 '-' then (some .strip, c.next)
  else (none, c)

/-- Reads the signs on the first line of a block in a collection that is indented by `outer`
columns, in either order, and the rest of that line. -/
def blockHead? (folds : Bool) (outer : Option Nat) (c : Cursor) : Option (BlockHead × Cursor) := do
  let (before, c) := chomping? c
  let (n, c) ← increment? c
  let (after, c) := if before.isNone && n.isSome then chomping? c else (none, c)
  let c ← c.endLine?
  let chomping := (before.orElse fun _ => after).getD .clip
  return (⟨folds, chomping, n.map (outer.getD 0 + ·)⟩, c)

/-- Passes the lines without text before the next line with text, and the indentation of that
line, which is at most `indent?`; answers the line ends, and the widest column reached. -/
def emptyLines? (indent? : Option Nat) (breaks : List (List Char)) (widest : Nat) (c : Cursor) :
    Option (List (List Char) × Nat × Cursor) :=
  let widest := max widest c.column
  match h : c.rest with
  | [] => some (breaks, widest, c)
  | x :: _ =>
    have _shorter := Cursor.length_next_lt (c := c) (by simp [h])
    let inside := indent?.all fun n => c.column < n
    if inside && x == ' ' then emptyLines? indent? breaks widest c.next
    else if inside && x == '\t' then none
    else if isBreak x then emptyLines? indent? (breaks ++ [c.breakText]) widest c.next
    else some (breaks, widest, c)
termination_by c.rest.length
decreasing_by all_goals omega

/-- The text of a block while it is read: `lastBreak` ends the last line, `breaks` are those of the
empty lines since, and `wasBlank` says whether the last line starts with a blank. -/
structure BlockText where
  text : List Char
  lastBreak : List Char
  breaks : List (List Char)
  wasBlank : Bool

namespace BlockText

/-- Adds a line; a folding block joins it to the last one, unless one of them starts with a
blank. -/
def addLine (b : BlockText) (folds : Bool) (line lineBreak : List Char)
    (breaks : List (List Char)) : BlockText :=
  let startsBlank := line.head?.any isBlank
  let joint :=
    if folds && b.lastBreak == ['\n'] && !b.wasBlank && !startsBlank then
      if b.breaks.isEmpty then [' '] else []
    else b.lastBreak
  ⟨b.text ++ joint ++ b.breaks.flatten ++ line, lineBreak, breaks, startsBlank⟩

/-- The text of the block, with the line ends at its end that are to stay. -/
def finish (b : BlockText) : Chomping → List Char
  | .strip => b.text
  | .clip => b.text ++ b.lastBreak
  | .keep => b.text ++ b.lastBreak ++ b.breaks.flatten

end BlockText

/-- Reads the lines of a block with the given indentation. Each round passes a line, so the length
of the text bounds the rounds. -/
def blockLines? (head : BlockHead) (indent : Nat) :
    Nat → BlockText → Cursor → Option (BlockText × Cursor)
  | 0, b, c => some (b, c)
  | fuel + 1, b, c =>
    if c.column != indent || c.rest.isEmpty then some (b, c)
    else do
      let line := c.rest.takeWhile fun x => !isBreak x
      let c := c.skipWhile fun x => !isBreak x
      let (breaks, _, after) ← emptyLines? (some indent) [] 0 c.next
      blockLines? head indent fuel (b.addLine head.folds line c.breakText breaks) after

/-- Reads a block from behind its sign, in a collection that is indented by `outer` columns. -/
def block? (folds : Bool) (outer : Option Nat) (c : Cursor) : Option (List Char × Cursor) := do
  let (head, c) ← blockHead? folds outer c
  let (breaks, widest, c) ← emptyLines? head.indent? [] 0 c
  -- Without an indentation of its own, a block has that of its first line.
  let least := max 1 (outer.elim 0 (· + 1))
  let indent := head.indent?.getD (max widest least)
  let (b, c) ← blockLines? head indent (c.rest.length + 1) ⟨[], [], breaks, false⟩ c
  return (b.finish head.chomping, c)

end TableDiff.Yaml
