import SqlLineage.Proofs.Scan.ListEnds

/-!
# Tables hidden by functions

Inside the arguments of a function that uses `FROM` for something else a scan finds nothing. Two
scans of the same tokens that begin with other open parentheses differ just by what these hide. In
balanced tokens the parentheses in front matter only where no parenthesis of the tokens is open.
-/

namespace SqlLineage
namespace Scan

/-- Wherever a scan is inside a function if it begins with the open parentheses `others`, it is so
if it begins with `parens`. -/
def Hides (parens others : List Bool) (marks : List Mark) : Prop :=
  ∀ front rest, marks = front ++ rest → (front.foldl Mark.nest others).head? = some true →
    (front.foldl Mark.nest parens).head? = some true

/-- Wherever a `FROM` or `JOIN` stands, a scan that begins with the open parentheses `parens` is
inside a function only if it is so if it begins with `others`. -/
def HidesNoList (parens others : List Bool) (marks : List Mark) : Prop :=
  ∀ front head rest, marks = front ++ head :: rest → head.token.isHead = true →
    (front.foldl Mark.nest parens).head? = some true →
    (front.foldl Mark.nest others).head? = some true

section

variable {parens others : List Bool} {front rest : List Mark}

theorem Hides.of_append (hides : Hides parens others (front ++ rest)) :
    Hides (front.foldl Mark.nest parens) (front.foldl Mark.nest others) rest := by
  rintro more behind rfl hidden
  rw [← List.foldl_append] at hidden ⊢
  exact hides (front ++ more) behind (List.append_assoc ..).symm hidden

theorem HidesNoList.of_append (hides : HidesNoList parens others (front ++ rest)) :
    HidesNoList (front.foldl Mark.nest parens) (front.foldl Mark.nest others) rest := by
  rintro more head behind rfl isHead hidden
  rw [← List.foldl_append] at hidden ⊢
  exact hides (front ++ more) head behind (List.append_assoc ..).symm isHead hidden

end

/-- More parentheses of functions hide tables, and do nothing else. -/
theorem Hides.exists_names
    {parens others : List Bool}
    {marks : List Mark}
    (hides : Hides parens others marks) :
    ∃ names more, (∀ found, tablesFrom parens found marks = found.extend names) ∧
      (∀ found, tablesFrom others found marks = found.extend more) ∧ names ⊆ more ∧
      (HidesNoList parens others marks → names = more) := by
  induction others, marks using tables_induction generalizing parens with
  | nil others => exact ⟨[], [], tablesFrom_nil parens, tablesFrom_nil others, by simp, by simp⟩
  | list others head passed rest listed isHead outside listing inductionHypothesis =>
      have unchanged := listing.foldl_nest isHead
      rw [← List.cons_append] at hides
      have hidesRest := hides.of_append
      rw [unchanged, unchanged] at hidesRest
      obtain ⟨names, more, found, foundMore, subset, same⟩ := inductionHypothesis hidesRest
      by_cases hidden : parens.head? = some true
      · -- The list is hidden, and so is all that stands in it. Both scans meet again behind it.
        have noParens : ∀ mark ∈ head :: passed,
            mark.token.kind ≠ .lparen ∧ mark.token.kind ≠ .rparen := by
          have kind := Token.kind_of_isHead isHead
          refine List.forall_mem_cons.2 ⟨by simp [kind], fun mark member => ?_⟩
          exact listing.isPassed.noParens _ (List.mem_map_of_mem member)
        refine ⟨names, listed ++ more, fun start => ?_, fun start => ?_,
          List.subset_append_of_subset_right _ subset, fun none => ?_⟩
        · rw [← List.cons_append, tablesFrom_of_noLists (fun _ _ _ => hidden) noParens, found]
        · rw [tablesFrom_of_listing isHead outside listing, foundMore, UniqueList.extend_append]
        · exact absurd (none [] head _ rfl isHead hidden) outside
      · have both : listed ++ names ⊆ listed ++ more := List.append_subset.2
          ⟨List.subset_append_left _ _, List.subset_append_of_subset_right _ subset⟩
        refine ⟨listed ++ names, listed ++ more, fun start => ?_, fun start => ?_, both,
          fun none => ?_⟩
        · rw [tablesFrom_of_listing isHead hidden listing, found, UniqueList.extend_append]
        · rw [tablesFrom_of_listing isHead outside listing, foundMore, UniqueList.extend_append]
        · rw [← List.cons_append] at none
          have noneBehind := none.of_append
          rw [unchanged, unchanged] at noneBehind
          rw [same noneBehind]
  | token others mark marks noList inductionHypothesis =>
      have noListHidden : mark.token.isHead = true → parens.head? = some true :=
        fun isHead => hides [] (mark :: marks) rfl (noList isHead)
      rw [← List.singleton_append] at hides
      obtain ⟨names, more, found, foundMore, subset, same⟩ := inductionHypothesis hides.of_append
      refine ⟨names, more, fun start => ?_, fun start => ?_, subset, fun none => ?_⟩
      · rw [tablesFrom_of_token noListHidden]
        exact found start
      · rw [tablesFrom_of_token noList, foundMore]
      · rw [← List.singleton_append] at none
        exact same none.of_append

/-! ## Balanced tokens -/

/-- Within balanced tokens the parentheses in front of them stay open. -/
theorem Balanced.foldl_nest_append
    {tokens : List Token}
    (balanced : Balanced tokens)
    {front rest : List Mark}
    (marked : (front ++ rest).map Mark.token = tokens)
    (parens : List Bool) :
    front.foldl Mark.nest parens = front.foldl Mark.nest [] ++ parens := by
  induction balanced generalizing front rest parens with
  | nil =>
      obtain ⟨rfl, -⟩ := List.append_eq_nil_iff.1 (List.map_eq_nil_iff.1 marked)
      rfl
  | token notOpening notClosing _ inductionHypothesis =>
      cases front with
      | nil => rfl
      | cons mark front =>
          obtain ⟨rfl, others⟩ := List.cons.inj marked
          rw [List.foldl_cons, List.foldl_cons, Mark.nest_of_ne notOpening notClosing,
            Mark.nest_of_ne notOpening notClosing, inductionHypothesis others]
  | group opens closes inside _ insideHypothesis inductionHypothesis =>
      cases front with
      | nil => rfl
      | cons opening front =>
          rw [List.cons_append, List.map_cons] at marked
          obtain ⟨rfl, behind⟩ := List.cons.inj marked
          rw [List.map_append] at behind
          rw [List.foldl_cons, List.foldl_cons, Mark.nest_of_lparen opens, Mark.nest_of_lparen opens]
          rcases List.append_eq_append_iff.1 behind with
            ⟨middle, innerSplit, restSplit⟩ | ⟨middle, frontSplit, closed⟩
          · -- The front ends inside of the parentheses.
            obtain ⟨more, _, rfl, rfl, -⟩ := List.map_eq_append_iff.1 restSplit
            have within : (front ++ more).map Mark.token = _ := List.map_append.trans innerSplit.symm
            rw [insideHypothesis within, insideHypothesis within [opening.behindFunction],
              List.append_assoc, List.singleton_append]
          · obtain ⟨innerMarks, more, rfl, rfl, rfl⟩ := List.map_eq_append_iff.1 frontSplit
            rw [List.foldl_append, List.foldl_append, inside.foldl_nest rfl, inside.foldl_nest rfl]
            cases more with
            | nil => rfl
            | cons closing more =>
                obtain ⟨rfl, behindClosing⟩ := List.cons.inj closed
                rw [List.foldl_cons, List.foldl_cons, Mark.nest_of_rparen closes,
                  Mark.nest_of_rparen closes, List.tail_cons, List.tail_cons]
                exact inductionHypothesis (List.map_append.trans behindClosing.symm) parens

/-- A scan of balanced tokens asks just whether a function holds them. -/
theorem tablesFrom_of_balanced
    {marks : List Mark}
    (balanced : Balanced (marks.map Mark.token))
    {parens others : List Bool}
    (same : parens.head? = some true ↔ others.head? = some true)
    (found : UniqueList String) :
    tablesFrom parens found marks = tablesFrom others found marks := by
  have innermost {front rest : List Mark} (split : marks = front ++ rest) :
      (front.foldl Mark.nest parens).head? = some true ↔
        (front.foldl Mark.nest others).head? = some true := by
    rw [balanced.foldl_nest_append (by rw [split]) parens,
      balanced.foldl_nest_append (by rw [split]) others]
    cases front.foldl Mark.nest [] with
    | nil => exact same
    | cons innermost outer => exact Iff.rfl
  have hides : Hides parens others marks := fun _ _ split => (innermost split).2
  have hidesNoList : HidesNoList parens others marks := fun _ _ _ split _ => (innermost split).1
  obtain ⟨names, more, foundNames, foundMore, -, equal⟩ := hides.exists_names
  rw [foundNames, foundMore, equal hidesNoList]

end Scan
end SqlLineage
