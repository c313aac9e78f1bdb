import TableDiff.Number.Digits

/-!
# Dates

Days of the Gregorian calendar, extended to all years from -262143 to 262142.
-/

namespace TableDiff

/-- Whether a year has a 29 February. -/
def isLeapYear (year : Int) : Bool :=
  year % 4 == 0 && (year % 100 != 0 || year % 400 == 0)

/-- The number of days of a month. -/
def daysInMonth (year : Int) (month : Nat) : Nat :=
  if month = 2 then (if isLeapYear year then 29 else 28)
  else if month = 4 ∨ month = 6 ∨ month = 9 ∨ month = 11 then 30
  else 31

/-- The days there are. -/
def isDay (year : Int) (month day : Nat) : Bool :=
  -262143 ≤ year && year ≤ 262142 && 1 ≤ month && month ≤ 12 && 1 ≤ day &&
    day ≤ daysInMonth year month

/-- A day of the calendar. -/
structure Date where
  year : Int
  month : Nat
  day : Nat
  valid : isDay year month day = true
deriving DecidableEq

namespace Date

/-- The day with these numbers, if there is one. -/
def ofParts? (year : Int) (month day : Nat) : Option Date :=
  if h : isDay year month day = true then some ⟨year, month, day, h⟩ else none

theorem ofParts?_parts (d : Date) : ofParts? d.year d.month d.day = some d := by
  simp [ofParts?, d.valid]

/-- The first day of 1970. -/
def epoch : Date := ⟨1970, 1, 1, by decide⟩

def compare (a b : Date) : Ordering :=
  (Ord.compare a.year b.year).then ((Ord.compare a.month b.month).then (Ord.compare a.day b.day))

/-- The days of the year that precede a month. -/
def daysBeforeMonth (year : Int) (month : Nat) : Nat :=
  (List.range (month - 1)).foldl (fun days m => days + daysInMonth year (m + 1)) 0

/-- The number of a day, counted from the first day of the year 1. -/
def dayNumber (d : Date) : Int :=
  let past := d.year - 1
  365 * past + past / 4 - past / 100 + past / 400 + daysBeforeMonth d.year d.month +
    (d.day - 1 : Nat)

/-- A year of four digits; years beyond those have a sign. -/
def yearText (year : Int) : List Char :=
  if 0 ≤ year ∧ year ≤ 9999 then Number.paddedDigits 4 year.natAbs
  else (if year < 0 then '-' else '+') :: Number.paddedDigits 4 year.natAbs

/-- Year, month and day with hyphens. -/
def text (d : Date) : List Char :=
  yearText d.year ++ '-' :: Number.paddedDigits 2 d.month ++ '-' :: Number.paddedDigits 2 d.day

end Date

end TableDiff
