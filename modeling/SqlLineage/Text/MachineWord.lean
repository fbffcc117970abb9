import SqlLineage.Text.Class

/-!
# Numbers that fit a machine word

Decimal numbers below a limit, by default two to the power of 64, with an optional plus sign in
front.
-/

namespace SqlLineage

namespace Text

/-- The first number that does not fit a machine word. -/
def wordLimit : Nat :=
  Nat.pow 2 64

/-- Why a text is no number that fits a machine word. -/
inductive WordFault
  /-- There are no digits. -/
  | empty
  /-- A character is no digit. -/
  | invalidDigit
  /-- The number does not fit. -/
  | tooLarge
deriving DecidableEq, Repr

/-- The message for a user. -/
def WordFault.message : WordFault → String
  | empty => "cannot parse integer from empty string"
  | invalidDigit => "invalid digit found in string"
  | tooLarge => "number too large to fit in target type"

/-- The number below `limit` that begins with the digits of `number` and goes on with a text. -/
def wordFrom (limit number : Nat) : List Char → Except WordFault Nat
  | [] => .ok number
  | c :: cs =>
    if isAsciiDigit c then
      let number := number * 10 + (c.toNat - '0'.toNat)
      if number < limit then wordFrom limit number cs else .error .tooLarge
    else .error .invalidDigit

/-- The number below `limit` that a text stands for. -/
def readBelow (limit : Nat) (text : String) : Except WordFault Nat :=
  match text.toList with
  | [] => .error .empty
  | ['+'] => .error .invalidDigit
  | '+' :: digits => wordFrom limit 0 digits
  | digits => wordFrom limit 0 digits

/-- The number that a text stands for. -/
def readWord (text : String) : Except WordFault Nat :=
  readBelow wordLimit text

end Text

end SqlLineage
