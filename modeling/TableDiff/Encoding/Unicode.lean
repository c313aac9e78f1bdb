/-!
# Unicode transformation formats

Decodes bytes in UTF-8 and UTF-16. A code point that is no character is an error, as is a part of
a code.
-/

namespace TableDiff.Encoding

/-- Decodes UTF-8. -/
def decodeUtf8? (bytes : List UInt8) : Option String := String.fromUTF8? ⟨bytes.toArray⟩

/-- Decodes UTF-16, in which `unit` makes a number of two bytes. -/
def decodeUtf16? (unit : UInt8 → UInt8 → Nat) : List UInt8 → Option (List Char)
  | [] => some []
  | [_] => none
  | a :: b :: rest =>
    let high := unit a b
    if high < 0xD800 ∨ 0xE000 ≤ high then
      (decodeUtf16? unit rest).map (Char.ofNat high :: ·)
    else if 0xDC00 ≤ high then none
    else
      match rest with
      | c :: d :: rest =>
        let low := unit c d
        if 0xDC00 ≤ low ∧ low < 0xE000 then
          let code := 0x10000 + (high - 0xD800) * 0x400 + (low - 0xDC00)
          (decodeUtf16? unit rest).map (Char.ofNat code :: ·)
        else none
      | _ => none

/-- The number of two bytes, the lower one first. -/
def littleEndian (a b : UInt8) : Nat := b.toNat * 256 + a.toNat

/-- The number of two bytes, the higher one first. -/
def bigEndian (a b : UInt8) : Nat := a.toNat * 256 + b.toNat

end TableDiff.Encoding
