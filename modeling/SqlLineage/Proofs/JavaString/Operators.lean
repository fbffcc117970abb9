import Mathlib.Data.List.Induction
import Mathlib.Tactic.SplitIfs
import SqlLineage.Proofs.JavaString.Segments

/-!
# Operands and plus signs

The operands of an expression, put together with plus signs, are the expression. An operand ends at
each plus sign outside of string literals in front of which no parenthesis is open; character
literals count as code, so that a plus sign in one ends an operand and a parenthesis in one counts.
-/

namespace SqlLineage
namespace JavaString

/-- How many more parentheses are opened than closed by characters that count. -/
def openParentheses {Mark : Type} (counts : Mark → Bool) (front : List (Char × Mark)) : Int :=
  (front.countP fun marked => marked.1 == '(' && counts marked.2) -
    (front.countP fun marked => marked.1 == ')' && counts marked.2)

/-- At a position stands a plus sign that counts, and in front of it no parenthesis that counts is
open. -/
def SplitsAt
    {Mark : Type}
    (counts : Mark → Bool)
    (marked : List (Char × Mark))
    (position : Nat) : Prop :=
  (marked[position]?.any fun marked => marked.1 == '+' && counts marked.2) = true ∧
    openParentheses counts (marked.take position) ≤ 0

instance {Mark : Type} (counts : Mark → Bool) (marked : List (Char × Mark)) (position : Nat) :
    Decidable (SplitsAt counts marked position) :=
  inferInstanceAs (Decidable (_ ∧ _))

/-- At a position between the operands of an expression, which is the one of a plus sign, an operand
ends. -/
def EndsOperand (operands : List String) (position : Nat) : Prop :=
  ∃ before after, before ≠ [] ∧ after ≠ [] ∧ operands = before ++ after ∧
    ("+".intercalate before).length = position

/-! ## Counting -/

section

variable {Mark : Type} {counts : Mark → Bool}

theorem openParentheses_concat (front : List (Char × Mark)) (last : Char × Mark) :
    openParentheses counts (front ++ [last]) =
      openParentheses counts front +
        if counts last.2 then
          if last.1 = '(' then 1 else if last.1 = ')' then -1 else 0
        else 0 := by
  obtain ⟨c, mark⟩ := last
  simp only [openParentheses, List.countP_append, List.countP_singleton]
  cases counts mark with
  | false => simp
  | true =>
      by_cases opening : c = '('
      · subst opening
        simp
        omega
      · by_cases closing : c = ')'
        · subst closing
          simp
          omega
        · simp [opening, closing]

theorem openParentheses_map
    {Other : Type}
    (marks : Other → Mark)
    (front : List (Char × Other)) :
    openParentheses counts (front.map (Prod.map id marks)) =
      openParentheses (counts ∘ marks) front := by
  rw [openParentheses, openParentheses, List.countP_map, List.countP_map]
  rfl

theorem splitsAt_map
    {Other : Type}
    (marks : Other → Mark)
    (marked : List (Char × Other))
    (position : Nat) :
    SplitsAt counts (marked.map (Prod.map id marks)) position ↔
      SplitsAt (counts ∘ marks) marked position := by
  rw [SplitsAt, SplitsAt, ← List.map_take, openParentheses_map, List.getElem?_map, Option.any_map]
  rfl

theorem splitsAt_concat (front : List (Char × Mark)) (last : Char × Mark) (position : Nat) :
    SplitsAt counts (front ++ [last]) position ↔
      SplitsAt counts front position ∨
        position = front.length ∧ last.1 = '+' ∧ counts last.2 = true ∧
          openParentheses counts front ≤ 0 := by
  rcases Nat.lt_trichotomy position front.length with within | rfl | behind
  · have found : (front ++ [last])[position]? = front[position]? :=
      List.getElem?_append_left within
    have notLast : position ≠ front.length := Nat.ne_of_lt within
    rw [SplitsAt, SplitsAt, found, List.take_append_of_le_length (Nat.le_of_lt within)]
    simp [notLast]
  · have absent : front[front.length]? = none := List.getElem?_eq_none (Nat.le_refl _)
    rw [SplitsAt, SplitsAt, List.getElem?_concat_length, List.take_left, absent]
    simp [and_assoc]
  · have absent : front[position]? = none := List.getElem?_eq_none (Nat.le_of_lt behind)
    have absentBoth : (front ++ [last])[position]? = none := by
      rw [List.getElem?_eq_none_iff, List.length_append, List.length_singleton]
      exact behind
    have notLast : position ≠ front.length := Nat.ne_of_gt behind
    rw [SplitsAt, SplitsAt, absent, absentBoth]
    simp [notLast]

end

/-! ## Operands -/

/-- An operand that begins with the rest of an expression ends none. -/
theorem endsOperand_concat (operands : List String) (last : String) (position : Nat) :
    EndsOperand (operands ++ [last]) position ↔
      EndsOperand operands position ∨
        operands ≠ [] ∧ ("+".intercalate operands).length = position := by
  constructor
  · rintro ⟨before, after, someBefore, someAfter, equal, length⟩
    rcases List.append_eq_append_iff.1 equal with ⟨more, rfl, split⟩ | ⟨others, rfl, rfl⟩
    · -- The last operand is not in front, so that all others are.
      have none : more = [] := by
        cases more with
        | nil => rfl
        | cons first more =>
            have tail := (List.append_eq_nil_iff.1 (List.cons.inj split).2.symm).2
            exact absurd tail someAfter
      subst none
      rw [List.append_nil] at someBefore length
      exact .inr ⟨someBefore, length⟩
    · cases others with
      | nil =>
          rw [List.append_nil]
          exact .inr ⟨someBefore, length⟩
      | cons first others => exact .inl ⟨before, first :: others, someBefore, by simp, rfl, length⟩
  · rintro (⟨before, after, someBefore, someAfter, rfl, length⟩ | ⟨nonempty, length⟩)
    · exact ⟨before, after ++ [last], someBefore, by simp, List.append_assoc .., length⟩
    · exact ⟨operands, [last], nonempty, by simp, rfl, length⟩

theorem intercalate_concat_append (operands : List String) (last more : String) :
    "+".intercalate (operands ++ [last ++ more]) =
      "+".intercalate (operands ++ [last]) ++ more := by
  cases operands with
  | nil => simp
  | cons first rest =>
      rw [String.intercalate_append_of_ne_nil (by simp) (by simp),
        String.intercalate_append_of_ne_nil (by simp) (by simp)]
      simp [String.append_assoc]

/-! ## Splitting -/

namespace Splitting

/-- The splitting behind a character that stands in a string literal or not. -/
def mark (splitting : Splitting) (marked : Char × Bool) : Splitting :=
  if marked.2 then { splitting with current := marked.1 :: splitting.current }
  else splitting.code marked.1

/-- A splitting takes segments character by character. -/
theorem foldl_segment_eq (segments : List Segment) (splitting : Splitting) :
    segments.foldl segment splitting = (segments.flatMap Segment.marked).foldl mark splitting := by
  induction segments generalizing splitting with
  | nil => rfl
  | cons first rest inductionHypothesis =>
      rw [List.foldl_cons, List.flatMap_cons, List.foldl_append, inductionHypothesis]
      congr 1
      cases first with
      | code text => simp [segment, Segment.marked, Segment.text, Segment.isLiteral, mark,
          List.foldl_map]
      | literal text =>
          have grows (cs : List Char) (splitting : Splitting) :
              cs.foldl (fun splitting c => splitting.mark (c, true)) splitting =
                { splitting with current := cs.reverse ++ splitting.current } := by
            induction cs generalizing splitting with
            | nil => rfl
            | cons c cs inductionHypothesis =>
                rw [List.foldl_cons, inductionHypothesis]
                simp [mark]
          simp [segment, Segment.marked, Segment.text, Segment.isLiteral, List.foldl_map, grows]

/-- What a splitting of the characters `front` has found. -/
structure Found (splitting : Splitting) (front : List (Char × Bool)) : Prop where
  /-- The operands, put together, are the characters. -/
  joined : ("+".intercalate splitting.finish).toList = front.map Prod.fst
  /-- The open parentheses are counted. -/
  depth : splitting.depth = openParentheses (!·) front
  /-- The operands end at the plus signs. -/
  ends : ∀ position, EndsOperand splitting.finish position ↔ SplitsAt (!·) front position

theorem finish_eq (splitting : Splitting) :
    splitting.finish = splitting.operands.reverse ++ [String.ofList splitting.current.reverse] :=
  List.reverse_cons

/-- A character that ends no operand belongs to the last one. -/
theorem Found.grow
    {splitting : Splitting}
    {front : List (Char × Bool)}
    {last : Char × Bool}
    {depth : Int}
    (found : splitting.Found front)
    (counted : depth = openParentheses (!·) (front ++ [last]))
    (inside : ¬ (last.1 = '+' ∧ last.2 = false ∧ openParentheses (!·) front ≤ 0)) :
    Found ⟨splitting.operands, last.1 :: splitting.current, depth⟩ (front ++ [last]) := by
  have finish : finish ⟨splitting.operands, last.1 :: splitting.current, depth⟩ =
      splitting.operands.reverse ++
        [String.ofList splitting.current.reverse ++ String.ofList [last.1]] := by
    rw [finish_eq, List.reverse_cons, String.ofList_append]
  refine ⟨?_, counted, fun position => ?_⟩
  · rw [finish, intercalate_concat_append, ← finish_eq, String.toList_append, found.joined,
      String.toList_ofList, List.map_append]
    rfl
  · have before := found.ends position
    rw [finish_eq, endsOperand_concat] at before
    rw [finish, endsOperand_concat, before, splitsAt_concat]
    have noEnd : ¬ (position = front.length ∧ last.1 = '+' ∧ (!last.2) = true ∧
        openParentheses (!·) front ≤ 0) := by
      rintro ⟨-, plus, code, outside⟩
      exact inside ⟨plus, by simpa using code, outside⟩
    exact (or_iff_left noEnd).symm

/-- A plus sign between operands ends one and begins another. -/
theorem Found.split
    {splitting : Splitting}
    {front : List (Char × Bool)}
    (found : splitting.Found front)
    (outside : splitting.depth ≤ 0) :
    Found ⟨String.ofList splitting.current.reverse :: splitting.operands, [], splitting.depth⟩
      (front ++ [('+', false)]) := by
  have finish :
      finish ⟨String.ofList splitting.current.reverse :: splitting.operands, [], splitting.depth⟩ =
        splitting.finish ++ [""] := by
    rw [finish_eq, List.reverse_cons, ← finish_eq]
    rfl
  have nonempty : splitting.finish ≠ [] := by
    simp [finish_eq]
  refine ⟨?_, ?_, fun position => ?_⟩
  · rw [finish, String.intercalate_append_of_ne_nil nonempty (by simp), String.toList_append,
      String.toList_append, found.joined, List.map_append]
    simp
  · rw [found.depth, openParentheses_concat]
    simp
  · have length : ("+".intercalate splitting.finish).length = front.length := by
      rw [← String.length_toList, found.joined, List.length_map]
    rw [found.depth] at outside
    rw [finish, endsOperand_concat, found.ends, splitsAt_concat, length]
    simp [nonempty, outside, eq_comm]

theorem Found.mark
    {splitting : Splitting}
    {front : List (Char × Bool)}
    (found : splitting.Found front)
    (last : Char × Bool) :
    (splitting.mark last).Found (front ++ [last]) := by
  obtain ⟨c, literal⟩ := last
  cases literal with
  | true =>
      refine found.grow ?_ (by simp)
      rw [found.depth, openParentheses_concat]
      simp
  | false =>
      rw [Splitting.mark, if_neg (by simp), code]
      split
      next splits =>
        obtain ⟨rfl, outside⟩ := splits
        exact found.split outside
      next keeps =>
        rw [found.depth] at keeps
        refine found.grow ?_ (by simpa using keeps)
        rw [found.depth, openParentheses_concat]
        simp only [Bool.not_false, if_true]
        split_ifs <;> omega

theorem found_foldl (marked : List (Char × Bool)) :
    (marked.foldl mark ⟨[], [], 0⟩).Found marked := by
  induction marked using List.reverseRecOn with
  | nil =>
      refine ⟨by decide, rfl, fun position => ⟨?_, ?_⟩⟩
      · rintro ⟨before, after, someBefore, someAfter, equal, -⟩
        have lengths := congrArg List.length equal
        rw [List.length_append] at lengths
        have := List.length_pos_iff.2 someBefore
        have := List.length_pos_iff.2 someAfter
        exact absurd lengths (by simp [finish]; omega)
      · rintro ⟨none, -⟩
        cases none
  | append_singleton front last inductionHypothesis =>
      rw [List.foldl_append]
      exact inductionHypothesis.mark last

theorem found_operands (expression : String) :
    (((segments expression).foldl segment ⟨[], [], 0⟩)).Found (marked expression) := by
  rw [foldl_segment_eq]
  exact found_foldl (marked expression)

end Splitting

theorem intercalate_operands (expression : String) :
    "+".intercalate (operands expression) = expression := by
  rw [← String.toList_inj, operands, (Splitting.found_operands expression).joined, marked,
    List.map_flatMap]
  have texts (segment : Segment) : segment.marked.map Prod.fst = segment.text.toList := by
    simp [Segment.marked, Function.comp_def]
  simp only [texts]
  exact flatMap_text_segmentsFrom [] expression.toList

/-- An operand ends at the plus signs outside of string literals and of the parentheses that stand
outside of string literals. -/
theorem endsOperand_iff (expression : String) (position : Nat) :
    EndsOperand (operands expression) position ↔
      SplitsAt (· != .string) (placed expression) position := by
  rw [operands, (Splitting.found_operands expression).ends, marked_eq, splitsAt_map]
  rfl

/-- The operators of an expression are the plus signs in code with no parenthesis of code open in
front of them. -/
def IsOperator (expression : String) (position : Nat) : Prop :=
  SplitsAt (· == .code) (placed expression) position

instance (expression : String) (position : Nat) : Decidable (IsOperator expression position) :=
  inferInstanceAs (Decidable (SplitsAt _ _ _))

/-- **Operands end at plus signs outside of string literals and parentheses.** Put together with
plus signs, the operands of an expression are the expression, and they end at the plus signs outside
of string literals with no parenthesis open in front, where the parentheses of character literals
count. So they end exactly at the operators of the expression if and only if each plus sign in a
character literal has an open parenthesis in front of it, and at each plus sign in code it makes no
difference whether the parentheses of character literals count. -/
theorem operands_end_at_operators_iff (expression : String) :
    "+".intercalate (operands expression) = expression ∧
      (∀ position, EndsOperand (operands expression) position ↔
        SplitsAt (· != .string) (placed expression) position) ∧
      ((∀ position,
          EndsOperand (operands expression) position ↔ IsOperator expression position) ↔
        ∀ position,
          ((placed expression)[position]? = some ('+', .character) →
            0 < openParentheses (· != .string) ((placed expression).take position)) ∧
          ((placed expression)[position]? = some ('+', .code) →
            (openParentheses (· != .string) ((placed expression).take position) ≤ 0 ↔
              openParentheses (· == .code) ((placed expression).take position) ≤ 0))) := by
  refine ⟨intercalate_operands expression, endsOperand_iff expression,
    forall_congr' fun position => ?_⟩
  rw [endsOperand_iff, IsOperator, SplitsAt, SplitsAt]
  rcases (placed expression)[position]? with _ | ⟨c, place⟩
  · simp
  · by_cases plus : c = '+'
    · cases place <;> simp [plus]
    · simp [plus]

/-- If no character literal holds a plus sign or a parenthesis, operands end at the operators. -/
theorem endsOperand_iff_isOperator_of_plain
    {expression : String}
    (plain : ∀ c, (c, .character) ∈ placed expression → c ≠ '+' ∧ c ≠ '(' ∧ c ≠ ')')
    (position : Nat) :
    EndsOperand (operands expression) position ↔ IsOperator expression position := by
  have same {c d : Char} {place : Place} (member : (d, place) ∈ placed expression)
      (mark : c = '+' ∨ c = '(' ∨ c = ')') :
      (d == c && place != .string) = (d == c && place == .code) := by
    by_cases equal : d = c
    · subst equal
      cases place with
      | code | string => rfl
      | character =>
          obtain ⟨notPlus, notOpening, notClosing⟩ := plain d member
          exact absurd mark (by simp [notPlus, notOpening, notClosing])
    · rw [beq_eq_false_iff_ne.2 equal, Bool.false_and, Bool.false_and]
  have counted (c : Char) (mark : c = '+' ∨ c = '(' ∨ c = ')') :
      ((placed expression).take position).countP (fun marked => marked.1 == c &&
          marked.2 != .string) =
        ((placed expression).take position).countP fun marked => marked.1 == c &&
          marked.2 == .code := by
    refine List.countP_congr fun marked member => ?_
    rw [same (List.mem_of_mem_take member) mark]
  have found : ((placed expression)[position]?.any fun marked => marked.1 == '+' &&
      marked.2 != .string) = (placed expression)[position]?.any fun marked => marked.1 == '+' &&
        marked.2 == .code := by
    cases here : (placed expression)[position]? with
    | none => rfl
    | some marked => exact same (List.mem_of_getElem? here) (.inl rfl)
  rw [endsOperand_iff, IsOperator, SplitsAt, SplitsAt, openParentheses, openParentheses, found,
    counted '(' (by simp), counted ')' (by simp)]

/-- A plus sign in a character literal ends an operand, and a parenthesis in one keeps the operators
behind it from ending one. -/
theorem characters_split_operands :
    (operands "a + '+' + b" = ["a ", " '", "' ", " b"] ∧
        EndsOperand (operands "a + '+' + b") 5 ∧ ¬ IsOperator "a + '+' + b" 5) ∧
      operands "'(' + b" = ["'(' + b"] ∧
        ¬ EndsOperand (operands "'(' + b") 4 ∧ IsOperator "'(' + b" 4 := by
  rw [endsOperand_iff, endsOperand_iff]
  decide +kernel

end JavaString
end SqlLineage
