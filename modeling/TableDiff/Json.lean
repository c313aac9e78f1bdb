import TableDiff.Number.Binary64.Shortest
import TableDiff.Text.Quoted

/-!
# JSON values

Values of the JSON data format. A number written with a fraction or an exponent, or too large for
an integer of 64 bits, is a binary floating-point number; the members of an object keep an order.
-/

namespace TableDiff

/-- A JSON value. -/
inductive Json where
  | null
  | boolean (b : Bool)
  | integer (i : Int)
  | float (x : Binary64)
  | text (s : String)
  | list (items : List Json)
  | object (members : List (String × Json))

namespace Json

/-- What a value is, as an error names it. -/
def kind : Json → String
  | .null => "null"
  | .boolean b => "boolean `" ++ (if b then "true" else "false") ++ "`"
  | .integer i => "integer `" ++ String.ofList (Number.intText i) ++ "`"
  | .float x =>
    let cs := x.positionalText
    "floating point `" ++ String.ofList (if cs.contains '.' then cs else cs ++ ['.', '0']) ++ "`"
  | .text s => "string " ++ Text.quote s
  | .list _ => "sequence"
  | .object _ => "map"

end Json

end TableDiff
