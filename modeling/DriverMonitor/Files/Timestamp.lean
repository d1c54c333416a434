import DriverMonitor.Number.Decimal

/-! # Points in time

A point in time is a number of seconds since the first day of 1970, and a fraction of the next
second. It is written in the calendar of the Gregorian rule, extended to all years, in the time zone
of Greenwich.
-/

namespace DriverMonitor

structure Timestamp where
  seconds : Int
  nanoseconds : Nat := 0
  deriving DecidableEq, Repr

structure CivilDate where
  year : Int
  month : Nat
  day : Nat
  deriving DecidableEq, Repr

/-- The day that lies so many days after the first of 1970. Days are counted from the first of March
of year zero, in eras of 400 years, so that a leap day is the last day of its year. -/
def CivilDate.ofDays (days : Int) : CivilDate :=
  let shifted := days + 719468
  let era := Int.fdiv shifted 146097
  let dayOfEra := (shifted - era * 146097).toNat
  let yearOfEra := (dayOfEra - dayOfEra / 1460 + dayOfEra / 36524 - dayOfEra / 146096) / 365
  let dayOfYear := dayOfEra - (365 * yearOfEra + yearOfEra / 4 - yearOfEra / 100)
  -- from March on, every five months have 153 days
  let shiftedMonth := (5 * dayOfYear + 2) / 153
  let day := dayOfYear - (153 * shiftedMonth + 2) / 5 + 1
  let month := if shiftedMonth < 10 then shiftedMonth + 3 else shiftedMonth - 9
  ⟨yearOfEra + era * 400 + if month ≤ 2 then 1 else 0, month, day⟩

example : CivilDate.ofDays 0 = ⟨1970, 1, 1⟩ := rfl

example : CivilDate.ofDays 19782 = ⟨2024, 2, 29⟩ := rfl

namespace Timestamp

open Number (padded)

def date (t : Timestamp) : CivilDate := .ofDays (Int.fdiv t.seconds 86400)

def secondOfDay (t : Timestamp) : Nat := (Int.fmod t.seconds 86400).toNat

def dateText (t : Timestamp) : String :=
  s!"{padded 4 t.date.year.toNat}-{padded 2 t.date.month}-{padded 2 t.date.day}"

def minuteText (t : Timestamp) : String :=
  s!"{padded 2 (t.secondOfDay / 3600)}:{padded 2 (t.secondOfDay / 60 % 60)}"

/-- The fraction of a second, in thousandths, millionths or billionths, whichever are whole. -/
def fractionText (t : Timestamp) : String :=
  if t.nanoseconds = 0 then ""
  else if t.nanoseconds % 1000000 = 0 then "." ++ padded 3 (t.nanoseconds / 1000000)
  else if t.nanoseconds % 1000 = 0 then "." ++ padded 6 (t.nanoseconds / 1000)
  else "." ++ padded 9 t.nanoseconds

def brief (t : Timestamp) : String := s!"{t.dateText} {t.minuteText}"

def full (t : Timestamp) : String :=
  s!"{t.dateText}T{t.minuteText}:{padded 2 (t.secondOfDay % 60)}{t.fractionText}+00:00"

example : (Timestamp.mk 1704164645 0).full = "2024-01-02T03:04:05+00:00" := rfl

end Timestamp

end DriverMonitor
