import Mathlib.Data.List.DropRight
import SqlLineage.Proofs.Text.Blank

/-!
# Trimmed texts

A text is its trimmed form with blanks around it, and a trimmed text has no blanks at its ends, so
that trimming it again changes nothing.
-/

namespace SqlLineage
namespace Text

theorem trimEndList_eq_rdropWhile (cs : List Char) :
    trimEndList cs = cs.rdropWhile isBlank := rfl

theorem trimEndList_of_visible
    {cs : List Char}
    (visible : ∀ c ∈ cs, isBlank c = false) :
    trimEndList cs = cs := by
  rw [trimEndList_eq_rdropWhile, List.rdropWhile_eq_self_iff]
  intro nonempty
  simp [visible _ (List.getLast_mem nonempty)]

theorem isBlank_of_trimStartList_eq_cons
    {cs rest : List Char}
    {c : Char}
    (equal : trimStartList cs = c :: rest) :
    isBlank c = false := by
  have head := List.head?_dropWhile_not isBlank cs
  rw [trimStartList] at equal
  rwa [equal] at head

/-- Trimming takes away blanks only. -/
theorem exists_blanks_around (cs : List Char) :
    ∃ before behind, (∀ c ∈ before, isBlank c = true) ∧ (∀ c ∈ behind, isBlank c = true) ∧
      cs = before ++ (trimEndList (trimStartList cs) ++ behind) := by
  refine ⟨cs.takeWhile isBlank, (trimStartList cs).rtakeWhile isBlank,
    fun _ => List.mem_takeWhile_imp, fun _ => List.mem_rtakeWhile_imp, ?_⟩
  rw [trimEndList_eq_rdropWhile, List.rdropWhile_append_rtakeWhile]
  exact List.takeWhile_append_dropWhile.symm

/-- A trimmed text does not begin with a blank. -/
theorem takeWhile_isBlank_trimmed (cs : List Char) :
    (trimEndList (trimStartList cs)).takeWhile isBlank = [] := by
  obtain ⟨behind, split⟩ := List.rdropWhile_prefix isBlank (l := trimStartList cs)
  rw [← trimEndList_eq_rdropWhile] at split
  cases core : trimEndList (trimStartList cs) with
  | nil => rfl
  | cons c core =>
      rw [core, List.cons_append] at split
      simp [isBlank_of_trimStartList_eq_cons split.symm]

theorem trimStartList_trimmed (cs : List Char) :
    trimStartList (trimEndList (trimStartList cs)) = trimEndList (trimStartList cs) := by
  have whole := List.takeWhile_append_dropWhile
    (p := isBlank) (l := trimEndList (trimStartList cs))
  rwa [takeWhile_isBlank_trimmed] at whole

theorem trimEndList_trimEndList (cs : List Char) :
    trimEndList (trimEndList cs) = trimEndList cs :=
  List.rdropWhile_idempotent isBlank cs

theorem trim_trim (s : String) : trim (trim s) = trim s := by
  rw [trim, trim, String.toList_ofList, trimStartList_trimmed, trimEndList_trimEndList]

end Text
end SqlLineage
