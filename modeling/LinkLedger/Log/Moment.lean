import LinkLedger.Text.Decimal

/-!
# Moments

When something was reported: a number of microseconds since the beginning of 1970, written as a date
and a time of day in coordinated universal time. Every day has the same number of seconds.

Years are counted from March, so that a leap day is the last day of its year; the day of such a year
then says which month it is in by one division.
-/

set_option autoImplicit false

namespace LinkLedger.Log

open LinkLedger.Text

structure Date where
  year : Nat
  month : Nat
  day : Nat
  deriving DecidableEq, Repr

/-- Days from the first of March of the year zero to the beginning of 1970. -/
def daysBefore1970 : Nat := 719468

/-- Days in four hundred years. The calendar repeats after that many. -/
def daysOfEra : Nat := 146097

/-- The date that lies a number of days behind the beginning of 1970. -/
def Date.ofDays (days : Nat) : Date :=
  let shifted := days + daysBefore1970
  let dayOfEra := shifted % daysOfEra
  let yearOfEra := (dayOfEra - dayOfEra / 1460 + dayOfEra / 36524 - dayOfEra / 146096) / 365
  let dayOfYear := dayOfEra - (365 * yearOfEra + yearOfEra / 4 - yearOfEra / 100)
  let fromMarch := (5 * dayOfYear + 2) / 153
  let day := dayOfYear - (153 * fromMarch + 2) / 5 + 1
  let month := if fromMarch < 10 then fromMarch + 3 else fromMarch - 9
  let year := yearOfEra + 400 * (shifted / daysOfEra)
  ⟨if month ≤ 2 then year + 1 else year, month, day⟩

example : Date.ofDays 0 = ⟨1970, 1, 1⟩ := by decide
example : Date.ofDays 11016 = ⟨2000, 2, 29⟩ := by decide
example : Date.ofDays 11017 = ⟨2000, 3, 1⟩ := by decide

structure Moment where
  /-- Microseconds since the beginning of 1970. -/
  microseconds : Nat
  deriving DecidableEq, Repr

/-- A number in base ten with zeros in front up to a width. -/
def padded (width n : Nat) : String :=
  let digits := decimal n
  String.ofList (List.replicate (width - digits.length) '0' ++ digits)

/-- A moment as a date and a time of day. -/
def Moment.text (m : Moment) : String :=
  let seconds := m.microseconds / 1000000
  let date := Date.ofDays (seconds / 86400)
  let hour := padded 2 (seconds / 3600 % 24)
  let minute := padded 2 (seconds / 60 % 60)
  let second := padded 2 (seconds % 60)
  let fraction := padded 6 (m.microseconds % 1000000)
  let day := s!"{padded 4 date.year}-{padded 2 date.month}-{padded 2 date.day}"
  s!"{day}T{hour}:{minute}:{second}.{fraction}Z"

end LinkLedger.Log
