import TableDiff.Number.Digits

/-!
# Times of day

A time of day counts whole seconds and nanoseconds. Any second may be followed by a leap second, in
which the count of nanoseconds runs on from one second to two. A time that is read from a text has a
leap second at the end of a minute only.
-/

namespace TableDiff

/-- The nanoseconds of a second. -/
def nanosPerSecond : Nat := 1000000000

/-- A time of day. -/
@[ext]
structure TimeOfDay where
  secondOfDay : Nat
  nanosecond : Nat
  secondOfDay_lt : secondOfDay < 86400
  nanosecond_lt : nanosecond < 2000000000
deriving DecidableEq

namespace TimeOfDay

/-- The first instant of a day. -/
def midnight : TimeOfDay := ⟨0, 0, by decide, by decide⟩

/-- The time with these numbers, if there is one; the sixtieth second is a leap second. -/
def ofParts? (hour minute second nanosecond : Nat) : Option TimeOfDay :=
  if h : hour < 24 ∧ minute < 60 ∧ second ≤ 60 ∧ nanosecond < 1000000000 then
    if leap : second = 60 then
      some ⟨hour * 3600 + minute * 60 + 59, 1000000000 + nanosecond, by omega, by omega⟩
    else
      some ⟨hour * 3600 + minute * 60 + second, nanosecond, by omega, by omega⟩
  else none

def isLeap (t : TimeOfDay) : Bool := nanosPerSecond ≤ t.nanosecond

def hour (t : TimeOfDay) : Nat := t.secondOfDay / 3600

def minute (t : TimeOfDay) : Nat := t.secondOfDay / 60 % 60

/-- The second of the minute. A leap second counts as the one after, so it is 60 at the end of a
minute. -/
def second (t : TimeOfDay) : Nat := t.secondOfDay % 60 + t.nanosecond / nanosPerSecond

def compare (a b : TimeOfDay) : Ordering :=
  (Ord.compare a.secondOfDay b.secondOfDay).then (Ord.compare a.nanosecond b.nanosecond)

/-- The nanoseconds from `b` to `a`. A leap second that lies between the two counts. -/
def nanosSince (a b : TimeOfDay) : Int :=
  let leapSeconds : Int :=
    if b.secondOfDay < a.secondOfDay then (if b.isLeap then 1 else 0)
    else if a.secondOfDay < b.secondOfDay then (if a.isLeap then -1 else 0)
    else 0
  ((a.secondOfDay : Int) - b.secondOfDay + leapSeconds) * nanosPerSecond +
    ((a.nanosecond : Int) - b.nanosecond)

/-- The fraction of a second after a point, in three, six or nine digits; nothing if it is zero. -/
def fractionText (t : TimeOfDay) : List Char :=
  let n := t.nanosecond % nanosPerSecond
  if n = 0 then []
  else if n % 1000000 = 0 then '.' :: Number.paddedDigits 3 (n / 1000000)
  else if n % 1000 = 0 then '.' :: Number.paddedDigits 6 (n / 1000)
  else '.' :: Number.paddedDigits 9 n

/-- Hour, minute and second with colons, and the fraction. -/
def text (t : TimeOfDay) : List Char :=
  Number.paddedDigits 2 t.hour ++ ':' :: Number.paddedDigits 2 t.minute ++
    ':' :: Number.paddedDigits 2 t.second ++ t.fractionText

end TimeOfDay

end TableDiff
