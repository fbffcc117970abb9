import SqlLineage.Text.Class

/-!
# Numbers of double precision

A decimal numeral stands for the nearest number that 53 binary digits and a bounded exponent can
hold, of two equally near ones the even. Such a number is shown by the fewest decimal digits that
stand for it, in positions and never with an exponent. All arithmetic is exact.
-/

namespace SqlLineage

/-- A number of double precision that is not negative: `mantissa` times two to the power of
`exponent`. -/
structure Binary64 where
  /-- A number of at most 53 binary digits. -/
  mantissa : Nat
  /-- The power of two, at least -1074. -/
  exponent : Int
deriving DecidableEq, Repr

namespace Binary64

/-- A power of a base, or one for a negative exponent. -/
def power (base : Nat) (exponent : Int) : Nat :=
  Nat.pow base exponent.toNat

/-- The quotient rounded to the nearest number, of two equally near ones to the even. -/
def roundedQuotient (a b : Nat) : Nat :=
  let q := a / b
  let twice := 2 * (a % b)
  if twice < b ∨ twice = b ∧ q % 2 = 0 then q else q + 1

/-- The number nearest to a fraction, unless that is too large. -/
def ofFraction? (numerator denominator : Nat) : Option Binary64 :=
  if numerator = 0 then some ⟨0, -1074⟩
  else
    let size : Int := numerator.log2 - denominator.log2
    let scaled (q : Int) : Nat × Nat := (numerator * power 2 (-q), denominator * power 2 q)
    let least := max (size - 53) (-1074)
    let (a, b) := scaled least
    let q := if a / b < Nat.pow 2 53 then least else least + 1
    let (a, b) := scaled q
    let m := roundedQuotient a b
    let (m, q) := if m = Nat.pow 2 53 then (Nat.pow 2 52, q + 1) else (m, q)
    if 971 < q then none else some ⟨m, q⟩

/-- The number nearest to `digits` times ten to the power of `exponent`, unless that is too
large. -/
def ofDecimal? (digits : Nat) (exponent : Int) : Option Binary64 :=
  let size : Int := (Nat.toDigits 10 digits).length + exponent
  if digits = 0 ∨ size < -400 then some ⟨0, -1074⟩
  else if 400 < size then none
  else ofFraction? (digits * power 10 exponent) (power 10 (-exponent))

/-- Whether `digits` times ten to the power of `exponent` is between the middles to the neighbours
of a number, where the middles count for an even one. -/
def rounds (number : Binary64) (digits : Nat) (exponent : Int) : Bool :=
  let m := number.mantissa
  let below := if m = Nat.pow 2 52 ∧ -1074 < number.exponent then 1 else 2
  let given := 4 * digits * power 10 exponent * power 2 (-number.exponent)
  let unit := power 2 number.exponent * power 10 (-exponent)
  let low := (4 * m - below) * unit
  let high := (4 * m + 2) * unit
  if m % 2 = 0 then low ≤ given && given ≤ high else low < given && given < high

/-- The digits that come next to a number on the grid of a power of ten, from below. -/
def gridFloor (number : Binary64) (exponent : Int) : Nat :=
  number.mantissa * power 2 number.exponent * power 10 (-exponent) /
    (power 2 (-number.exponent) * power 10 exponent)

/-- Whether a number is less than the middle between two neighbours on the grid of a power of
ten. -/
def belowMiddle (number : Binary64) (exponent : Int) (digits : Nat) : Bool :=
  2 * number.mantissa * power 2 number.exponent * power 10 (-exponent) <
    (2 * digits + 1) * (power 2 (-number.exponent) * power 10 exponent)

/-- The first decimal that stands for a number on grids from the power `exponent` of ten down. -/
def firstOnGrid (number : Binary64) (exponent : Int) : Nat → Nat × Int
  | 0 => (gridFloor number exponent, exponent)
  | fuel + 1 =>
    let low := gridFloor number exponent
    match rounds number low exponent, rounds number (low + 1) exponent with
    | true, true =>
      (if belowMiddle number exponent low then low else low + 1, exponent)
    | true, false => (low, exponent)
    | false, true => (low + 1, exponent)
    | false, false => firstOnGrid number (exponent - 1) fuel

/-- The fewest decimal digits that stand for a number, with a power of ten. -/
def shortest (number : Binary64) : Nat × Int :=
  if number.mantissa = 0 then (0, 0)
  else firstOnGrid number 309 700

/-- Digits with a decimal point and a zero behind them. -/
def withPoint (digits : List Char) : List Char :=
  digits ++ ['.', '0']

/-- A number in decimal positions, with at least one digit behind the point. -/
def render (number : Binary64) : String :=
  let (digits, exponent) := shortest number
  let cs := Nat.toDigits 10 digits
  String.ofList <|
    if 0 ≤ exponent then withPoint (cs ++ List.replicate exponent.toNat '0')
    else
      let places := (-exponent).toNat
      let padded := List.replicate (places + 1 - cs.length) '0' ++ cs
      let whole := padded.length - places
      padded.take whole ++ '.' :: padded.drop whole

/-- The number after the sign of a numeral: digits with at most one point, and an exponent. -/
def ofNumeral? (cs : List Char) : Option Binary64 := do
  let value (digits : List Char) : Nat :=
    digits.foldl (fun n c => n * 10 + (c.toNat - '0'.toNat)) 0
  let whole := cs.takeWhile Text.isAsciiDigit
  let rest := cs.drop whole.length
  let (fraction, rest) :=
    if rest.head? = some '.' then
      let fraction := rest.tail.takeWhile Text.isAsciiDigit
      (fraction, rest.tail.drop fraction.length)
    else ([], rest)
  if whole.isEmpty && fraction.isEmpty then failure
  let exponent : Int ←
    match rest with
    | [] => pure 0
    | e :: rest =>
      if e = 'e' ∨ e = 'E' then
        let (negative, digits) := match rest with
          | '-' :: digits => (true, digits)
          | '+' :: digits => (false, digits)
          | digits => (false, digits)
        if digits.isEmpty || !digits.all Text.isAsciiDigit then failure
        else pure (if negative then -(value digits : Int) else value digits)
      else failure
  ofDecimal? (value (whole ++ fraction)) (exponent - fraction.length)

end Binary64

end SqlLineage
