/-!
# Points in time

A point in time is counted in seconds since the start of 1970 and written as a date of the Gregorian
calendar, extended to all years. The fraction of a second has three, six or nine digits, whichever
suffices, and none if it is zero.
-/

namespace SqlLineage

namespace Report

/-- A point in time. -/
structure Timestamp where
  /-- Seconds since the start of 1970. -/
  seconds : Int
  /-- Nanoseconds on top, where a leap second has more than a second's. -/
  nanoseconds : Nat
deriving DecidableEq, Repr

namespace Timestamp

/-- A number with zeros in front, `width` digits long if it has no more. -/
def padded (width n : Nat) : String :=
  let digits := Nat.toDigits 10 n
  String.ofList (List.replicate (width - digits.length) '0' ++ digits)

/-- The year, month and day that come `days` days after the start of 1970. The calendar repeats
after 146097 days, and a year is counted from March, so that its last day is the leap day. -/
def date (days : Int) : Int × Nat × Nat :=
  let shifted := days + 719468
  let era := Int.fdiv shifted 146097
  let dayOfEra := (Int.fmod shifted 146097).toNat
  let yearOfEra := (dayOfEra - dayOfEra / 1460 + dayOfEra / 36524 - dayOfEra / 146096) / 365
  let dayOfYear := dayOfEra - (365 * yearOfEra + yearOfEra / 4 - yearOfEra / 100)
  let monthFromMarch := (5 * dayOfYear + 2) / 153
  let day := dayOfYear - (153 * monthFromMarch + 2) / 5 + 1
  let month := if monthFromMarch < 10 then monthFromMarch + 3 else monthFromMarch - 9
  let year := (yearOfEra : Int) + era * 400
  (if month ≤ 2 then year + 1 else year, month, day)

/-- A year in four digits; before the first and after the last of those it has a sign. -/
def yearText (year : Int) : String :=
  if year < 0 then "-" ++ padded 4 year.natAbs
  else if 9999 < year then "+" ++ padded 4 year.natAbs
  else padded 4 year.natAbs

/-- The fraction of a second. -/
def fractionText (nanoseconds : Nat) : String :=
  if nanoseconds = 0 then ""
  else if nanoseconds % 1000000 = 0 then "." ++ padded 3 (nanoseconds / 1000000)
  else if nanoseconds % 1000 = 0 then "." ++ padded 6 (nanoseconds / 1000)
  else "." ++ padded 9 nanoseconds

/-- The text of a point in time. -/
def render (time : Timestamp) : String :=
  let (year, month, day) := date (Int.fdiv time.seconds 86400)
  let second := (Int.fmod time.seconds 86400).toNat
  let leap := time.nanoseconds / 1000000000
  yearText year ++ "-" ++ padded 2 month ++ "-" ++ padded 2 day ++ "T" ++
    padded 2 (second / 3600) ++ ":" ++ padded 2 (second / 60 % 60) ++ ":" ++
    padded 2 (second % 60 + leap) ++ fractionText (time.nanoseconds % 1000000000) ++ "Z"

end Timestamp

end Report

end SqlLineage
