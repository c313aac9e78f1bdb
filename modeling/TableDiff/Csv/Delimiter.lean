import TableDiff.Path

/-!
# Delimiters

The byte that separates the fields of a record: it is given as a character or by name, or else
follows from the name of the file.
-/

namespace TableDiff.Csv

/-- Why a text is no delimiter. -/
inductive DelimiterError where
  | empty
  | severalCharacters
  | notAscii
deriving DecidableEq

def DelimiterError.message : DelimiterError → String
  | .empty => "Delimiter cannot be empty"
  | .severalCharacters => "Delimiter must be a single character"
  | .notAscii => "Delimiter must be ASCII"

def comma : UInt8 := 44

def tab : UInt8 := 9

/-- The names of the usual delimiters. -/
def delimiterNames : List (String × UInt8) :=
  [("tab", tab), ("comma", comma), ("pipe", 124), ("semicolon", 59)]

/-- Reads a delimiter: the name of a usual one, or an ASCII character. -/
def readDelimiter (given : String) : Except DelimiterError UInt8 :=
  match delimiterNames.lookup given with
  | some byte => .ok byte
  | none =>
    match given.toList with
    | [] => .error .empty
    | [c] => if c.toNat < 0x80 then .ok c.toNat.toUInt8 else .error .notAscii
    | _ => .error .severalCharacters

/-- The delimiter of a file for which none is given: a tab for `.tsv`, otherwise a comma. -/
def delimiterFor (path : String) (given : Option UInt8) : UInt8 :=
  given.getD (if Path.hasExtension path "tsv" then tab else comma)

end TableDiff.Csv
