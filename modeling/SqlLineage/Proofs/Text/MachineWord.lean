import SqlLineage.Text.MachineWord

/-!
# Reading numbers that were written

A number that fits is read from its decimal digits.
-/

namespace SqlLineage
namespace Text

theorem isAsciiDigit_of_mem_toDigits
    {number : Nat}
    {c : Char}
    (member : c ∈ Nat.toDigits 10 number) :
    isAsciiDigit c = true :=
  Nat.isDigit_of_mem_toDigits (by decide) (by decide) member

/-- Digits are read to the number that they write, if it fits. -/
theorem wordFrom_eq_ok
    {limit : Nat}
    {digits : List Char}
    (areDigits : ∀ c ∈ digits, isAsciiDigit c = true)
    {number : Nat}
    (fits : Nat.ofDigitChars 10 digits number < limit) :
    wordFrom limit number digits = .ok (Nat.ofDigitChars 10 digits number) := by
  induction digits generalizing number with
  | nil => rfl
  | cons c digits inductionHypothesis =>
      obtain ⟨first, rest⟩ := List.forall_mem_cons.1 areDigits
      rw [Nat.ofDigitChars_cons] at fits ⊢
      have next : number * 10 + (c.toNat - '0'.toNat) = 10 * number + (c.toNat - '0'.toNat) := by
        rw [Nat.mul_comm]
      -- What is read so far is at most the whole number.
      have below : 10 * number + (c.toNat - '0'.toNat) < limit := by
        rw [Nat.ofDigitChars_eq_ofDigitChars_zero] at fits
        have := Nat.le_mul_of_pos_left (10 * number + (c.toNat - '0'.toNat))
          (Nat.pow_pos (n := digits.length) (show 0 < 10 by decide))
        omega
      rw [wordFrom, if_pos first]
      simp only [next]
      rw [if_pos below]
      exact inductionHypothesis rest fits

/-- A number that fits a machine word is read from its decimal digits. -/
theorem readWord_toDigits
    {number : Nat}
    (fits : number < wordLimit) :
    readWord (String.ofList (Nat.toDigits 10 number)) = .ok number := by
  have areDigits : ∀ c ∈ Nat.toDigits 10 number, isAsciiDigit c = true :=
    fun c member => isAsciiDigit_of_mem_toDigits member
  have written : Nat.ofDigitChars 10 (Nat.toDigits 10 number) 0 = number :=
    Nat.ofDigitChars_ten_toDigits
  have read := wordFrom_eq_ok areDigits (written.symm ▸ fits)
  rw [written] at read
  rw [readWord, readBelow, String.toList_ofList]
  cases digits : Nat.toDigits 10 number with
  | nil => exact absurd digits Nat.toDigits_ne_nil
  | cons c rest =>
      rw [digits] at areDigits read
      have noSign : c ≠ '+' := by
        rintro rfl
        exact Bool.false_ne_true (areDigits '+' List.mem_cons_self)
      split
      next => contradiction
      next same => exact absurd (List.cons.inj same).1 noSign
      next same => exact absurd (List.cons.inj same).1 noSign
      next => exact read

end Text
end SqlLineage
