/-!
# Timestamps

A moment is a number of seconds since the beginning of 1970 in universal time, with microseconds.
Its text gives the date of the Gregorian calendar and the time of day.
-/

namespace SlopLint

/-- A moment in universal time. -/
structure Timestamp where
  seconds : Nat
  microseconds : Nat := 0
deriving DecidableEq, Repr

namespace Timestamp

/-- A number with zeros in front of it, to have at least `width` digits. -/
def padded (width n : Nat) : String :=
  let digits := toString n
  String.ofList (List.replicate (width - digits.length) '0') ++ digits

/-- The year, month and day of a day, counted from the beginning of 1970. Years are taken to start
in March, so that a leap day ends its year; every 400 years have the same number of days. -/
def date (day : Nat) : Nat × Nat × Nat :=
  let shifted := day + 719468
  let era := shifted / 146097
  let dayOfEra := shifted % 146097
  let yearOfEra := (dayOfEra - dayOfEra / 1460 + dayOfEra / 36524 - dayOfEra / 146096) / 365
  let dayOfYear := dayOfEra - (365 * yearOfEra + yearOfEra / 4 - yearOfEra / 100)
  let shiftedMonth := (5 * dayOfYear + 2) / 153
  let dayOfMonth := dayOfYear - (153 * shiftedMonth + 2) / 5 + 1
  let month := if shiftedMonth < 10 then shiftedMonth + 3 else shiftedMonth - 9
  (yearOfEra + era * 400 + (if month ≤ 2 then 1 else 0), month, dayOfMonth)

/-- The text of a moment. Microseconds are left out when there are none. -/
def text (moment : Timestamp) : String :=
  let (year, month, day) := date (moment.seconds / 86400)
  let second := moment.seconds % 86400
  let fraction := if moment.microseconds = 0 then "" else s!".{padded 6 moment.microseconds}"
  let clock := s!"{padded 2 (second / 3600)}:{padded 2 (second / 60 % 60)}:{padded 2 (second % 60)}"
  s!"{padded 4 year}-{padded 2 month}-{padded 2 day}T{clock}{fraction}+00:00"

example : text ⟨1709210096, 5⟩ = "2024-02-29T12:34:56.000005+00:00" := by decide +kernel

end Timestamp

end SlopLint
