import TableDiff.Calendar.DateTime
import TableDiff.Number.Power
import TableDiff.Text.Blank

/-!
# Layouts of dates and times

A layout says in which order the numbers of a date or time stand and what separates them. Blanks
before a number are passed over; a blank of a layout stands for any number of blanks. Each kind of
cell has a list of layouts, and the first that reads the whole text decides.
-/

namespace TableDiff.Layout

open Text (isBlank trimStart)

/-- A part of a layout. -/
inductive Item where
  | year
  | month
  | day
  | hour
  | minute
  | second
  | fraction
  | blanks
  | mark (c : Char)
deriving DecidableEq

/-- The numbers found so far; a number of another kind than those asked for stays as it was. -/
structure Fields where
  year : Int
  month : Nat
  day : Nat
  hour : Nat
  minute : Nat
  second : Nat
  nanosecond : Nat

/-- What holds before anything is read. -/
def Fields.initial : Fields := ⟨0, 0, 0, 0, 0, 0, 0⟩

/-- Digits at the start of a text, at most `width` of them, and what follows. -/
def digits? (width : Nat) (cs : List Char) : Option (Nat × List Char) :=
  let ds := (cs.take width).takeWhile Char.isDigit
  if ds = [] then none else some (Number.ofDigits ds, cs.drop ds.length)

/-- A number of one or two digits. -/
def number? (cs : List Char) : Option (Nat × List Char) := digits? 2 (trimStart cs)

/-- A year: up to four digits, or a sign and any number of digits. -/
def year? (cs : List Char) : Option (Int × List Char) :=
  match trimStart cs with
  | '-' :: rest => (digits? rest.length rest).map fun (n, more) => (-(n : Int), more)
  | '+' :: rest => (digits? rest.length rest).map fun (n, more) => ((n : Int), more)
  | rest => (digits? 4 rest).map fun (n, more) => ((n : Int), more)

/-- The nanoseconds that the digits after a point stand for; the tenth digit and those after it
do not count. -/
def fraction? (cs : List Char) : Option (Nat × List Char) :=
  match cs with
  | '.' :: rest =>
    let ds := (rest.take 9).takeWhile Char.isDigit
    if ds = [] then none
    else some (Number.ofDigits ds * Number.tenPow (9 - ds.length), rest.dropWhile Char.isDigit)
  | rest => some (0, rest)

/-- Reads one part. -/
def Item.read? (item : Item) (f : Fields) (cs : List Char) : Option (Fields × List Char) :=
  match item with
  | .year => (year? cs).map fun (n, rest) => ({ f with year := n }, rest)
  | .month => (number? cs).map fun (n, rest) => ({ f with month := n }, rest)
  | .day => (number? cs).map fun (n, rest) => ({ f with day := n }, rest)
  | .hour => (number? cs).map fun (n, rest) => ({ f with hour := n }, rest)
  | .minute => (number? cs).map fun (n, rest) => ({ f with minute := n }, rest)
  | .second => (number? cs).map fun (n, rest) => ({ f with second := n }, rest)
  | .fraction => (fraction? cs).map fun (n, rest) => ({ f with nanosecond := n }, rest)
  | .blanks => some (f, trimStart cs)
  | .mark c =>
    match cs with
    | d :: rest => if d = c then some (f, rest) else none
    | [] => none

/-- Reads a whole text by a layout. -/
def read? : List Item → Fields → List Char → Option Fields
  | [], f, [] => some f
  | [], _, _ :: _ => none
  | item :: items, f, cs =>
    match item.read? f cs with
    | some (g, rest) => read? items g rest
    | none => none

/-! ## What the numbers make -/

def Fields.date? (f : Fields) : Option Date := Date.ofParts? f.year f.month f.day

def Fields.time? (f : Fields) : Option TimeOfDay :=
  TimeOfDay.ofParts? f.hour f.minute f.second f.nanosecond

def Fields.dateTime? (f : Fields) : Option DateTime := do
  let date ← f.date?
  let time ← f.time?
  return ⟨date, time⟩

/-! ## The layouts of cells -/

def yearMonthDay (sep : Char) : List Item := [.year, .mark sep, .month, .mark sep, .day]

def dayMonthYear (sep : Char) : List Item := [.day, .mark sep, .month, .mark sep, .year]

def monthDayYear (sep : Char) : List Item := [.month, .mark sep, .day, .mark sep, .year]

def hourMinute : List Item := [.hour, .mark ':', .minute]

def hourMinuteSecond : List Item := hourMinute ++ [.mark ':', .second]

/-- Dates: the day comes before the month if both readings are possible. -/
def dateLayouts : List (List Item) :=
  [yearMonthDay '-', dayMonthYear '/', monthDayYear '/', yearMonthDay '/', dayMonthYear '-']

/-- Dates with a time of day. -/
def dateTimeLayouts : List (List Item) :=
  [yearMonthDay '-' ++ .blanks :: hourMinuteSecond ++ [.fraction],
    yearMonthDay '-' ++ .mark 'T' :: hourMinuteSecond ++ [.fraction],
    dayMonthYear '/' ++ .blanks :: hourMinuteSecond,
    monthDayYear '/' ++ .blanks :: hourMinuteSecond,
    yearMonthDay '-' ++ .blanks :: hourMinute,
    yearMonthDay '-' ++ .mark 'T' :: hourMinute]

/-- Times of day. -/
def timeLayouts : List (List Item) :=
  [hourMinuteSecond ++ [.fraction], hourMinuteSecond, hourMinute]

/-- What the first fitting layout makes of a text. -/
def readBy? {α : Type} (layouts : List (List Item)) (make? : Fields → Option α) (cs : List Char) :
    Option α :=
  layouts.findSome? fun layout => (read? layout Fields.initial cs).bind make?

end TableDiff.Layout

namespace TableDiff

/-- Reads a date in one of its layouts. -/
def Date.read? (cs : List Char) : Option Date :=
  Layout.readBy? Layout.dateLayouts Layout.Fields.date? cs

/-- Reads a date with a time of day in one of its layouts. -/
def DateTime.read? (cs : List Char) : Option DateTime :=
  Layout.readBy? Layout.dateTimeLayouts Layout.Fields.dateTime? cs

/-- Reads a time of day in one of its layouts. -/
def TimeOfDay.read? (cs : List Char) : Option TimeOfDay :=
  Layout.readBy? Layout.timeLayouts Layout.Fields.time? cs

end TableDiff
