import TableDiff.Yaml.Scalar
import TableDiff.Yaml.Token

/-!
# Reading tokens

Splits the text of a document into tokens. A scalar or a collection in brackets may turn out to be
the key of a mapping when a colon follows it on its line; its place is kept until then, and the
tokens that start a mapping entry are put in there.
-/

namespace TableDiff.Yaml

/-! ## Names and tags -/

/-- The name behind the sign of an anchor or an alias. -/
def name? (c : Cursor) : Option (List Char × Cursor) :=
  let c := c.next
  let name := c.rest.takeWhile isNameChar
  let after := c.skipWhile isNameChar
  let ends := after.gapAt 0 ||
    after.rest.head?.any fun x => ['?', ':', ',', ']', '\x7d', '%', '@', '`'].contains x
  if name = [] ∨ !ends then none else some (name, after)

/-- The signs that a tag may hold besides those of names. -/
def isTagSign (listSigns : Bool) (c : Char) : Bool :=
  ";/?:@&=+$.!~*'()".toList.contains c || (listSigns && [',', '[', ']'].contains c)

/-- The bytes of a character that is written as escapes, of which `n` more are to follow. -/
def moreEscapes? : Nat → Nat → List Char → Option (Nat × List Char)
  | 0, acc, cs => some (acc, cs)
  | n + 1, acc, '%' :: a :: b :: rest => do
    let byte ← Number.ofHex? [a, b]
    if byte / 64 = 2 then moreEscapes? n (acc * 64 + byte % 64) rest else none
  | _ + 1, _, _ => none

/-- The character that escapes stand for, from behind the first percent sign, and how many
characters they have. -/
def percentEscape? (cs : List Char) : Option (Char × Nat) :=
  match cs with
  | a :: b :: rest => do
    let byte ← Number.ofHex? [a, b]
    let (more, acc) ←
      if byte < 128 then some (0, byte)
      else if byte / 32 = 6 then some (1, byte % 32)
      else if byte / 16 = 14 then some (2, byte % 16)
      else if byte / 8 = 30 then some (3, byte % 8)
      else none
    let (code, _) ← moreEscapes? more acc rest
    return (Char.ofNat code, 3 * (more + 1))
  | _ => none

/-- The longest text of a tag at the cursor. Each round passes a character. -/
def tagText? (listSigns : Bool) : Nat → List Char → Cursor → Option (List Char × Cursor)
  | 0, text, c => some (text, c)
  | fuel + 1, text, c =>
    match c.rest with
    | [] => some (text, c)
    | '%' :: more => do
      let (x, n) ← percentEscape? more
      tagText? listSigns fuel (text ++ [x]) (c.skip n)
    | x :: _ =>
      if isNameChar x || isTagSign listSigns x then tagText? listSigns fuel (text ++ [x]) c.next
      else some (text, c)

/-- The handle at the start of a tag: an exclamation mark, or a name between two. -/
def tagHandle (c : Cursor) : List Char × Cursor :=
  let name := c.next.rest.takeWhile isNameChar
  let after := c.next.skipWhile isNameChar
  if after.isAt 0 '!' then ('!' :: name ++ ['!'], after.next) else ('!' :: name, after)

/-- A tag. A tag in angle brackets stands for itself and has no handle. -/
def tag? (inFlow : Bool) (c : Cursor) : Option (Token × Cursor) := do
  let (token, after) ←
    if c.isAt 1 '<' then do
      let (text, after) ← tagText? true c.rest.length [] (c.skip 2)
      if text = [] ∨ !after.isAt 0 '>' then none else some (Token.tag [] text, after.next)
    else
      let (handle, after) := tagHandle c
      if 1 < handle.length ∧ handle.getLast? = some '!' then do
        let (text, after) ← tagText? false c.rest.length [] after
        if text = [] then none else some (.tag handle text, after)
      else do
        let (text, after) ← tagText? false c.rest.length handle.tail after
        if text = [] then some (.tag [] ['!'], after) else some (.tag ['!'] text, after)
  if after.gapAt 0 || (inFlow && after.isAt 0 ',') then return (token, after) else none

/-! ## Directives -/

/-- A part of a version: at most nine digits. -/
def versionPart? (c : Cursor) : Option (Nat × Cursor) :=
  let ds := c.rest.takeWhile Char.isDigit
  if ds = [] ∨ 9 < ds.length then none
  else some (Number.ofDigits ds, c.skipWhile Char.isDigit)

/-- A directive, from its percent sign to the end of its line. -/
def directive? (c : Cursor) : Option (Token × Cursor) := do
  let name := c.next.rest.takeWhile isNameChar
  let c := c.next.skipWhile isNameChar
  if !c.gapAt 0 then none
  else
    let c := c.skipWhile isBlank
    if name = "YAML".toList then do
      let (major, c) ← versionPart? c
      if !c.isAt 0 '.' then none
      else
        let (minor, c) ← versionPart? c.next
        let c ← c.endLine?
        return (.version major minor, c)
    else if name = "TAG".toList then do
      if !c.isAt 0 '!' then none
      else
        let (handle, c) := tagHandle c
        if (handle ≠ ['!'] ∧ handle.getLast? ≠ some '!') ∨ !(c.rest.head?.any isBlank) then none
        else
          let c := c.skipWhile isBlank
          let (text, c) ← tagText? true c.rest.length [] c
          if text = [] ∨ !c.gapAt 0 then none
          else
            let c ← c.endLine?
            return (.tagHandle handle text, c)
    else none

/-! ## The lexer -/

/-- A place that may start a key. A required key stands where a block mapping goes on. -/
structure KeyPlace where
  required : Bool
  token : Nat
  index : Nat
  line : Nat
  column : Nat

/-- A lexer within a document. `indents` are the columns of the open block collections, innermost
first. `keys` has an entry for each open collection in brackets, innermost first, and one for
the rest of the document. `anchors` numbers the names of the anchors that were read. -/
structure Lexer where
  cursor : Cursor
  tokens : Array Token
  indents : List Nat
  keyAllowed : Bool
  keys : List (Option KeyPlace)
  anchors : List (List Char × Nat)

namespace Lexer

def ofText (cs : List Char) : Lexer := ⟨.ofText cs, #[], [], true, [none], []⟩

/-- Whether a collection in brackets is open. -/
def inFlow (s : Lexer) : Bool := 1 < s.keys.length

def push (s : Lexer) (t : Token) : Lexer := { s with tokens := s.tokens.push t }

/-- Puts a token in front of the token of a number. -/
def insert (s : Lexer) (n : Nat) (t : Token) : Lexer :=
  { s with tokens := s.tokens.extract 0 n ++ #[t] ++ s.tokens.extract n s.tokens.size }

/-- The column of the innermost block collection. -/
def indent? (s : Lexer) : Option Nat := s.indents.head?

/-- Opens a block collection at a column, if it is deeper than the open ones; its first token goes
in front of the token of a number. -/
def openBlock (s : Lexer) (column number : Nat) (t : Token) : Lexer :=
  if s.inFlow || s.indent?.any fun n => column ≤ n then s
  else { s.insert number t with indents := column :: s.indents }

/-- Closes the block collections that are deeper than a column. -/
def closeBlocks (s : Lexer) (deeper : Nat → Bool) : Lexer :=
  if s.inFlow then s
  else
    { s with
      tokens := s.tokens ++ Array.replicate (s.indents.takeWhile deeper).length .blockEnd
      indents := s.indents.dropWhile deeper }

/-- Gives up the place of a key; a required key cannot be given up. -/
def dropKey? (s : Lexer) : Option Lexer :=
  match s.keys with
  | some k :: outer => if k.required then none else some { s with keys := .none :: outer }
  | _ => some s

/-- Keeps the cursor as a place that may start a key. -/
def saveKey? (s : Lexer) : Option Lexer :=
  if s.keyAllowed then do
    let c := s.cursor
    -- In a block mapping, what starts at its column can be nothing but a key.
    let place : KeyPlace :=
      ⟨!s.inFlow && s.indent? == some c.column, s.tokens.size, c.index, c.line, c.column⟩
    let s ← s.dropKey?
    return { s with keys := some place :: s.keys.tail }
  else some s

/-- Gives up the places of keys that are not on the line of the cursor, or too far away. -/
def dropStaleKeys? (s : Lexer) : Option Lexer := do
  let c := s.cursor
  let stale (k : KeyPlace) : Bool := k.line < c.line || k.index + 1024 < c.index
  if s.keys.any fun k => k.any fun k => stale k && k.required then none
  else return { s with keys := s.keys.map fun k => k.filter fun k => !stale k }

/-- Passes white space and comments before a token. Each round passes a line. -/
def skipGap : Nat → Lexer → Lexer
  | 0, s => s
  | fuel + 1, s =>
    let tabs := s.inFlow || !s.keyAllowed
    -- Where a key may start, a tab is no indentation and is left for the next token to refuse.
    let c := if s.cursor.index = 0 ∧ s.cursor.isAt 0 '\ufeff' then s.cursor.next else s.cursor
    let c := c.skipWhile fun x => x == ' ' || (tabs && x == '\t')
    let c := if c.isAt 0 '#' then c.skipWhile fun x => !isBreak x else c
    if c.rest.head?.any isBreak then
      skipGap fuel { s with cursor := c.next, keyAllowed := s.keyAllowed || !s.inFlow }
    else { s with cursor := c }

/-! ### Tokens by kind -/

/-- A token of one character, behind which a key may start or not. -/
def sign (s : Lexer) (t : Token) (keyAllowed : Bool) : Lexer :=
  { s.push t with cursor := s.cursor.next, keyAllowed }

/-- The start of a collection in brackets, which may itself be a key. -/
def openFlow? (s : Lexer) (t : Token) : Option Lexer := do
  let s ← s.saveKey?
  return { s with keys := .none :: s.keys }.sign t true

def closeFlow? (s : Lexer) (t : Token) : Option Lexer := do
  let s ← s.dropKey?
  return { s with keys := if s.inFlow then s.keys.tail else s.keys }.sign t false

/-- The start of an entry of a block collection, whose first entry opens it. -/
def entry? (s : Lexer) (start sign : Token) (keyAllowed : Bool) : Option Lexer :=
  if !s.inFlow && !s.keyAllowed then none
  else do
    let s := s.openBlock s.cursor.column s.tokens.size start
    let s ← s.dropKey?
    return s.sign sign keyAllowed

/-- A colon: it makes a key of what stands at the place kept for one. -/
def value? (s : Lexer) : Option Lexer :=
  match s.keys with
  | some k :: outer =>
    -- The key comes before the start of the mapping, so that is put in front of it in turn.
    let s := s.insert k.token .key
    let s := s.openBlock k.column k.token .blockMappingStart
    some ({ s with keys := .none :: outer }.sign .value false)
  | _ =>
    if !s.inFlow && !s.keyAllowed then none
    else
      let s := s.openBlock s.cursor.column s.tokens.size .blockMappingStart
      some (s.sign .value !s.inFlow)

/-- A mark or a directive between documents, which closes all block collections. -/
def between? (s : Lexer) (t : Token) (after : Cursor) : Option Lexer := do
  let s ← (s.closeBlocks fun _ => true).dropKey?
  return { s.push t with cursor := after, keyAllowed := false }

/-- A token that may be a key or stand before one. -/
def keyToken? (s : Lexer) (t : Token) (after : Cursor) : Option Lexer := do
  let s ← s.saveKey?
  return { s.push t with cursor := after, keyAllowed := false }

/-- An anchor; its number is that of the distinct names before it. -/
def anchor? (s : Lexer) : Option Lexer := do
  let (name, after) ← name? s.cursor
  let number := s.anchors.length
  let s ← s.keyToken? (.anchor number) after
  return { s with anchors := (name, number) :: s.anchors.filter fun e => e.1 != name }

/-- An alias: it stands for the last anchor before it of the same name. -/
def alias? (s : Lexer) : Option Lexer := do
  let (name, after) ← name? s.cursor
  let number ← s.anchors.lookup name
  s.keyToken? (.alias number) after

def quotedScalar? (s : Lexer) (r : Option (List Char × Cursor)) : Option Lexer := do
  let (text, after) ← r
  s.keyToken? (.scalar .quoted text) after

def blockScalar? (s : Lexer) (style : ScalarStyle) : Option Lexer := do
  let s ← s.dropKey?
  let (text, after) ← block? (style == .folded) s.indent? s.cursor.next
  return { s.push (.scalar style text) with cursor := after, keyAllowed := true }

def plainScalar? (s : Lexer) : Option Lexer := do
  let p ← plain? s.inFlow (s.indent?.elim 0 (· + 1)) [] .none s.cursor
  let s ← s.keyToken? (.scalar .plain p.text) p.after
  return { s with keyAllowed := p.endsInBreak }

/-- Whether a plain scalar may start with a character. -/
def startsPlain (s : Lexer) (x : Char) : Bool :=
  let c := s.cursor
  if x == '-' then !(c.rest[1]?.any isBlank)
  else if x == '?' || x == ':' then !s.inFlow && !c.gapAt 1
  else
    !(isGap x || [',', '[', ']', '\x7b', '\x7d', '#', '&', '*', '!', '|', '>', '\'', '"', '%', '@',
      '`'].contains x)

/-- Reads the token at the cursor, which starts with the given character. -/
def token? (s : Lexer) (x : Char) : Option Lexer :=
  let c := s.cursor
  -- Directives and marks count only at the start of a line.
  if c.column == 0 && x == '%' then do
    let (t, after) ← directive? c
    s.between? t after
  else if c.atMark "---" then s.between? .documentStart (c.skip 3)
  else if c.atMark "..." then s.between? .documentEnd (c.skip 3)
  else if x == '[' then s.openFlow? .flowListStart
  else if x == '\x7b' then s.openFlow? .flowMappingStart
  else if x == ']' then s.closeFlow? .flowListEnd
  else if x == '\x7d' then s.closeFlow? .flowMappingEnd
  else if x == ',' then s.dropKey?.map (·.sign .comma true)
  else if x == '-' && c.gapAt 1 then s.entry? .blockListStart .item true
  else if x == '?' && (s.inFlow || c.gapAt 1) then s.entry? .blockMappingStart .key !s.inFlow
  else if x == ':' && (s.inFlow || c.gapAt 1) then s.value?
  else if x == '*' then s.alias?
  else if x == '&' then s.anchor?
  else if x == '!' then do
    let (t, after) ← tag? s.inFlow c
    s.keyToken? t after
  else if x == '|' && !s.inFlow then s.blockScalar? .literal
  else if x == '>' && !s.inFlow then s.blockScalar? .folded
  else if x == '\'' then s.quotedScalar? (singleQuoted? [] .none c.next)
  else if x == '"' then s.quotedScalar? (doubleQuoted? [] .none c.next)
  else if s.startsPlain x then s.plainScalar?
  else none

/-- Closes what is open at the end of the text. -/
def finish? (s : Lexer) : Option (Array Token) :=
  (s.closeBlocks fun _ => true).dropKey?.map (·.tokens)

/-- Reads all tokens. Each round passes a token, so the length of the text bounds the rounds. -/
def run? : Nat → Lexer → Option (Array Token)
  | 0, _ => none
  | fuel + 1, s => do
    let s ← (s.skipGap (s.cursor.rest.length + 1)).dropStaleKeys?
    -- The next token stands to the left of the collections that it ends.
    let s := s.closeBlocks fun n => s.cursor.column < n
    match s.cursor.rest with
    | [] => s.finish?
    | x :: _ => (s.token? x).bind (run? fuel)

end Lexer

/-- The tokens of a text. -/
def tokens? (cs : List Char) : Option (List Token) :=
  if cs.all isAllowed then (Lexer.run? (cs.length + 1) (.ofText cs)).map Array.toList else none

end TableDiff.Yaml
