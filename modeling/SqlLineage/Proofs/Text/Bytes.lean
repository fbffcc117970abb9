import SqlLineage.Text.Bytes

/-!
# Offsets in bytes

A text that stands behind another begins at the length of that text in bytes, so that a slice
between two such offsets is the text that stands there. Each byte of a text belongs to one of its
characters.
-/

namespace SqlLineage
namespace Text

@[simp] theorem byteLength_nil : byteLength [] = 0 := rfl

@[simp] theorem byteLength_cons (c : Char) (cs : List Char) :
    byteLength (c :: cs) = c.utf8Size + byteLength cs := rfl

@[simp] theorem byteLength_append (front back : List Char) :
    byteLength (front ++ back) = byteLength front + byteLength back := by
  induction front with
  | nil => simp
  | cons c front inductionHypothesis =>
      simp [inductionHypothesis, Nat.add_assoc]

theorem utf8ByteSize_ofList (cs : List Char) :
    (String.ofList cs).utf8ByteSize = byteLength cs := by
  induction cs with
  | nil => rfl
  | cons c cs inductionHypothesis =>
      rw [← List.singleton_append, String.ofList_append, String.utf8ByteSize_append,
        inductionHypothesis]
      simp

theorem byteLength_toList (s : String) : byteLength s.toList = s.utf8ByteSize := by
  rw [← utf8ByteSize_ofList, String.ofList_toList]

theorem dropBytes_append (front back : List Char) :
    dropBytes (byteLength front) (front ++ back) = back := by
  induction front with
  | nil => cases back <;> simp [dropBytes]
  | cons c front inductionHypothesis =>
      have positive := c.utf8Size_pos
      rw [List.cons_append, dropBytes, byteLength_cons, if_neg (by omega),
        Nat.add_sub_cancel_left, inductionHypothesis]

theorem takeBytes_append (front back : List Char) :
    takeBytes (byteLength front) (front ++ back) = front := by
  induction front with
  | nil => cases back <;> simp [takeBytes]
  | cons c front inductionHypothesis =>
      have positive := c.utf8Size_pos
      rw [List.cons_append, takeBytes, byteLength_cons, if_neg (by omega),
        Nat.add_sub_cancel_left, inductionHypothesis]

/-- A text has only one front of a length in bytes. -/
theorem eq_and_eq_of_append_eq_append
    {front back otherFront otherBack : List Char}
    (same : front ++ back = otherFront ++ otherBack)
    (length : byteLength front = byteLength otherFront) :
    front = otherFront ∧ back = otherBack := by
  have taken := takeBytes_append front back
  have dropped := dropBytes_append front back
  rw [same, length, takeBytes_append] at taken
  rw [same, length, dropBytes_append] at dropped
  exact ⟨taken.symm, dropped.symm⟩

theorem byteSlice_append (front middle back : List Char) :
    byteSlice (byteLength front) (byteLength front + byteLength middle)
      (front ++ (middle ++ back)) = middle := by
  rw [byteSlice, dropBytes_append, Nat.add_sub_cancel_left, takeBytes_append]

/-! ## Bytes of characters -/

/-- A byte of a text belongs to the character `c` of it. -/
def ByteBelongsTo (text : List Char) (byte : Nat) (c : Char) : Prop :=
  ∃ before behind, text = before ++ c :: behind ∧
    byteLength before ≤ byte ∧ byte < byteLength before + c.utf8Size

theorem exists_byteBelongsTo
    {text : List Char}
    {byte : Nat}
    (within : byte < byteLength text) :
    ∃ c ∈ text, ByteBelongsTo text byte c := by
  induction text generalizing byte with
  | nil => simp at within
  | cons c cs inductionHypothesis =>
      by_cases first : byte < c.utf8Size
      · exact ⟨c, List.mem_cons_self, [], cs, rfl, Nat.zero_le _, by simpa using first⟩
      · have withinTail : byte - c.utf8Size < byteLength cs := by
          rw [byteLength_cons] at within
          omega
        obtain ⟨d, member, before, behind, rfl, lower, upper⟩ := inductionHypothesis withinTail
        refine ⟨d, List.mem_cons_of_mem _ member, c :: before, behind, rfl, ?_, ?_⟩ <;>
          rw [byteLength_cons] <;> omega

/-- A byte belongs to the same character in a longer text. -/
theorem ByteBelongsTo.append
    {middle : List Char}
    {byte : Nat}
    {c : Char}
    (belongs : ByteBelongsTo middle byte c)
    (front back : List Char) :
    ByteBelongsTo (front ++ (middle ++ back)) (byteLength front + byte) c := by
  obtain ⟨before, behind, rfl, lower, upper⟩ := belongs
  refine ⟨front ++ before, behind ++ back, by simp, ?_, ?_⟩ <;>
    rw [byteLength_append] <;> omega

end Text
end SqlLineage
