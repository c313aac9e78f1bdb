import TableDiff.Calendar.Date
import TableDiff.Calendar.TimeOfDay

/-!
# Instants

A date with a time of day, without a time zone, and the time that passes between two of them.
-/

namespace TableDiff

/-- An instant of local time. -/
structure DateTime where
  date : Date
  time : TimeOfDay
deriving DecidableEq

namespace DateTime

def compare (a b : DateTime) : Ordering :=
  (a.date.compare b.date).then (a.time.compare b.time)

/-- The nanoseconds from `b` to `a`. -/
def nanosSince (a b : DateTime) : Int :=
  (a.date.dayNumber - b.date.dayNumber) * (86400 * nanosPerSecond : Nat) + a.time.nanosSince b.time

/-- The whole milliseconds from `b` to `a`, toward zero. -/
def millisSince (a b : DateTime) : Int := (a.nanosSince b).tdiv 1000000

/-- The date and the time of day with a space between them. -/
def text (d : DateTime) : List Char := d.date.text ++ ' ' :: d.time.text

end DateTime

end TableDiff
