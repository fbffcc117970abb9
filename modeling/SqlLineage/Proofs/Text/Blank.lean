import SqlLineage.Text.Trim

/-!
# Blanks

The blanks are few, so that what no blank is can be looked up for each of them. Trimming takes the
blanks around a text that begins and ends with other characters.
-/

namespace SqlLineage
namespace Text

/-- The code points of all blanks. -/
def blankCodes : List Nat :=
  [9, 10, 11, 12, 13, 32, 133, 160, 5760, 8192, 8193, 8194, 8195, 8196, 8197, 8198, 8199, 8200,
    8201, 8202, 8232, 8233, 8239, 8287, 12288]

theorem toNat_mem_blankCodes
    {c : Char}
    (blank : isBlank c = true) :
    c.toNat ∈ blankCodes := by
  simp only [blankCodes, List.mem_cons, List.not_mem_nil, or_false]
  rw [isBlank, classify] at blank
  split at blank
  -- The blanks of ASCII are given as characters, all others as ranges of code points.
  · simp only [Bool.or_eq_true, beq_iff_eq, Bool.and_eq_true, decide_eq_true_eq,
      Char.le_def, UInt32.le_iff_toNat_le] at blank
    obtain rfl | ⟨lower, upper⟩ := blank
    · simp
    · change 9 ≤ c.toNat at lower
      change c.toNat ≤ 13 at upper
      omega
  · simp only [inRanges_cons, inRanges_nil, CodeRange.contains, Bool.or_eq_true,
      Bool.and_eq_true, decide_eq_true_eq, Bool.or_false] at blank
    omega

/-- What holds for the characters of all blank code points holds for every blank. -/
theorem eq_false_of_isBlank
    {c : Char}
    (blank : isBlank c = true)
    (property : Char → Bool)
    (lookup : (blankCodes.all fun code => !property (Char.ofNat code)) = true) :
    property c = false := by
  have absent := List.all_eq_true.1 lookup c.toNat (toNat_mem_blankCodes blank)
  rw [Char.ofNat_toNat] at absent
  simpa using absent

theorem ne_of_isBlank
    {c d : Char}
    (blank : isBlank c = true)
    (visible : isBlank d = false) :
    c ≠ d :=
  ne_of_apply_ne isBlank (by simp [blank, visible])

theorem isWordChar_of_isBlank
    {c : Char}
    (blank : isBlank c = true) :
    isWordChar c = false :=
  eq_false_of_isBlank blank isWordChar (by decide +kernel)

@[simp] theorem allBlank_empty : allBlank "" = true := rfl

@[simp] theorem trimStartList_append
    {front : List Char}
    (blank : ∀ c ∈ front, isBlank c = true)
    (rest : List Char) :
    trimStartList (front ++ rest) = trimStartList rest :=
  List.dropWhile_append_of_pos blank

theorem trimStartList_cons
    {c : Char}
    (visible : isBlank c = false)
    (rest : List Char) :
    trimStartList (c :: rest) = c :: rest :=
  List.dropWhile_cons_of_neg (by simp [visible])

@[simp] theorem trimEndList_append
    (front : List Char)
    {behind : List Char}
    (blank : ∀ c ∈ behind, isBlank c = true) :
    trimEndList (front ++ behind) = trimEndList front := by
  rw [trimEndList, List.reverse_append,
    trimStartList_append fun c member => blank c (List.mem_reverse.1 member)]
  rfl

theorem trimEndList_concat
    (front : List Char)
    {c : Char}
    (visible : isBlank c = false) :
    trimEndList (front ++ [c]) = front ++ [c] := by
  rw [trimEndList, List.reverse_append, List.reverse_singleton, List.singleton_append,
    trimStartList_cons visible]
  simp

end Text
end SqlLineage
