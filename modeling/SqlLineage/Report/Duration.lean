import SqlLineage.Report.Timestamp

/-!
# Spans of time

A span of time is written in the largest of four units of which it has at least one, with two decimal
places.
-/

namespace SqlLineage

namespace Report

/-- A number of units, of which `size` parts are one, with two decimal places. -/
def twoPlaces (parts size : Nat) : String :=
  let hundredths := (parts * 100 + size / 2) / size
  toString (hundredths / 100) ++ "." ++ Timestamp.padded 2 (hundredths % 100)

/-- The text of a span of time. -/
def duration (nanoseconds : Nat) : String :=
  if 1000000000 ≤ nanoseconds then twoPlaces nanoseconds 1000000000 ++ "s"
  else if 1000000 ≤ nanoseconds then twoPlaces nanoseconds 1000000 ++ "ms"
  else if 1000 ≤ nanoseconds then twoPlaces nanoseconds 1000 ++ "µs"
  else twoPlaces nanoseconds 1 ++ "ns"

end Report

end SqlLineage
