import TableDiff.Encoding.CodePage
import TableDiff.Encoding.Multibyte
import TableDiff.Encoding.Unicode

/-!
# Character encodings

The encodings in which texts are read. A text that starts with the mark of a Unicode format is
read in that format, whichever encoding was chosen for it.
-/

namespace TableDiff

/-- A character encoding. The one called a replacement can read nothing but the empty text. -/
inductive Encoding where
  | utf8
  | utf16le
  | utf16be
  | replacement
  | userDefined
  | codePage (p : Encoding.CodePage)
  | gbk
  | gb18030
  | big5
  | eucJp
  | iso2022Jp
  | shiftJis
  | eucKr
deriving DecidableEq

namespace Encoding

def name : Encoding → String
  | .utf8 => "UTF-8"
  | .utf16le => "UTF-16LE"
  | .utf16be => "UTF-16BE"
  | .replacement => "replacement"
  | .userDefined => "x-user-defined"
  | .codePage p => p.name
  | .gbk => "GBK"
  | .gb18030 => "gb18030"
  | .big5 => "Big5"
  | .eucJp => "EUC-JP"
  | .iso2022Jp => "ISO-2022-JP"
  | .shiftJis => "Shift_JIS"
  | .eucKr => "EUC-KR"

/-- A byte that is its own character: ASCII, or one for private use. -/
def userDefinedChar (b : UInt8) : Char :=
  if b < 0x80 then Char.ofNat b.toNat else Char.ofNat (0xF780 + (b.toNat - 0x80))

/-- Decodes bytes that have no mark. -/
def decodeUnmarked? (e : Encoding) (bytes : List UInt8) : Option String :=
  match e with
  | .utf8 => decodeUtf8? bytes
  | .utf16le => (decodeUtf16? littleEndian bytes).map String.ofList
  | .utf16be => (decodeUtf16? bigEndian bytes).map String.ofList
  | .replacement => if bytes = [] then some "" else none
  | .userDefined => some (String.ofList (bytes.map userDefinedChar))
  | .codePage p => (bytes.mapM p.char?).map String.ofList
  | .gbk => (decodeGb18030? bytes).map String.ofList
  | .gb18030 => (decodeGb18030? bytes).map String.ofList
  | .big5 => (decodeBig5? bytes).map String.ofList
  | .eucJp => (decodeEucJp? bytes).map String.ofList
  | .iso2022Jp => (decodeIso2022Jp? .ascii false bytes).map String.ofList
  | .shiftJis => (decodeShiftJis? bytes).map String.ofList
  | .eucKr => (decodeEucKr? bytes).map String.ofList

/-- Decodes bytes; none if one of them is not part of a character. -/
def decode? (e : Encoding) (bytes : List UInt8) : Option String :=
  match bytes with
  | 0xEF :: 0xBB :: 0xBF :: rest => decodeUnmarked? .utf8 rest
  | 0xFE :: 0xFF :: rest => decodeUnmarked? .utf16be rest
  | 0xFF :: 0xFE :: rest => decodeUnmarked? .utf16le rest
  | bytes => e.decodeUnmarked? bytes

end Encoding

end TableDiff
