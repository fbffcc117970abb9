/-!
# Ranges of code points

A Unicode property is given by a list of ranges. A range has a step, because upper and lower case
letters alternate over long stretches of the standard. Membership is decided by scanning the list.
-/

namespace SqlLineage

namespace Text

/-- Every `step`-th code point from `first` to `last`, both included. -/
structure CodeRange where
  /-- The first code point. -/
  first : Nat
  /-- The last code point. -/
  last : Nat
  /-- The distance between neighbours. -/
  step : Nat

namespace CodeRange

/-- Whether `code` is one of the code points of the range. -/
def contains (range : CodeRange) (code : Nat) : Bool :=
  range.first ≤ code && code ≤ range.last && (code - range.first) % range.step == 0

end CodeRange

/-- Whether some range of the list has the code point of `c`. -/
def inRanges (ranges : List CodeRange) (c : Char) : Bool :=
  ranges.any fun range => range.contains c.toNat

@[simp]
theorem inRanges_nil (c : Char) : inRanges [] c = false := rfl

@[simp]
theorem inRanges_cons (range : CodeRange) (ranges : List CodeRange) (c : Char) :
    inRanges (range :: ranges) c = (range.contains c.toNat || inRanges ranges c) := rfl

end Text

end SqlLineage
