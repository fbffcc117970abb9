import SqlLineage.Text.Case
import SqlLineage.Text.Class

/-!
# Case foldings into ASCII

Only letters become letters of ASCII when their case is folded: those of ASCII itself, and the few
others that the case foldings map to them.
-/

namespace SqlLineage
namespace Text

theorem lt_of_isAsciiLetter
    {c : Char}
    (letter : isAsciiLetter c = true) :
    c.toNat < 128 := by
  simp only [isAsciiLetter, Bool.or_eq_true, Bool.and_eq_true, decide_eq_true_eq, Char.le_def,
    UInt32.le_iff_toNat_le] at letter
  rcases letter with ⟨-, upper⟩ | ⟨-, upper⟩
  · exact Nat.lt_of_le_of_lt upper (by decide)
  · exact Nat.lt_of_le_of_lt upper (by decide)

theorem lt_of_isAsciiLetter_ofNat
    {code : Nat}
    (letter : isAsciiLetter (Char.ofNat code) = true) :
    code < 128 := by
  by_cases valid : code.isValidChar
  · have bound := lt_of_isAsciiLetter letter
    rw [Char.ofNat, dif_pos valid] at bound
    exact bound
  · rw [Char.ofNat, dif_neg valid] at letter
    exact absurd letter (by decide)

theorem isLetter_of_isAsciiLetter_foldChar
    {c : Char}
    (folds : isAsciiLetter (foldChar c) = true) :
    isLetter c = true := by
  rw [foldChar] at folds
  split at folds
  next ascii =>
    have lookup : ∀ code < 128, isAsciiLetter (Char.ofNat code).toLower = true →
        isLetter (Char.ofNat code) = true := by decide +kernel
    simpa using lookup c.toNat ascii (by simpa using folds)
  next wide =>
    rw [mapCase] at folds
    split at folds
    next code found =>
      obtain ⟨range, member, maps⟩ := List.exists_of_findSome?_eq_some found
      -- A range of characters beyond ASCII that folds into ASCII is a single letter.
      have lookup : foldMappings.all (fun range => decide (128 ≤ range.target) ||
          decide (range.source.last < 128) || (range.source.first == range.source.last &&
            isLetter (Char.ofNat range.source.first))) = true := by decide +kernel
      have holds := List.all_eq_true.1 lookup range member
      have bound := lt_of_isAsciiLetter_ofNat folds
      simp only [CaseRange.map?, CodeRange.contains, Bool.and_eq_true, decide_eq_true_eq,
        Option.ite_none_right_eq_some, Option.some.injEq] at maps
      obtain ⟨⟨⟨lower, upper⟩, -⟩, image⟩ := maps
      simp only [Bool.or_eq_true, Bool.and_eq_true, decide_eq_true_eq, beq_iff_eq] at holds
      rcases holds with (noAscii | inAscii) | ⟨single, letter⟩
      · omega
      · omega
      · rw [show range.source.first = c.toNat by omega] at letter
        simpa using letter
    next => exact absurd (lt_of_isAsciiLetter folds) wide

theorem isWordChar_of_isLetter
    {c : Char}
    (letter : isLetter c = true) :
    isWordChar c = true := by
  simp [isWordChar, isAlphabetic, letter]

end Text
end SqlLineage
