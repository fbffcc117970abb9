import SqlLineage.Proofs.Context.Concatenation

/-!
# Evaluation of concatenations

A concatenation of literals is evaluated by splitting it into operands. No character of a value ends
its literal or its operand, so that each operand is the literal of one value. Together with the
replacement of references this makes the evaluation of concatenations exact.
-/

namespace SqlLineage
namespace Context

variable {context : Context}

/-- Terms without the blanks in front of the first. -/
def withoutBefore : List (Term context) → List (Term context)
  | [] => []
  | first :: rest => { first with before := "", blankBefore := rfl } :: rest

/-- Terms without the blanks behind the last. -/
def withoutBehind : List (Term context) → List (Term context)
  | [] => []
  | [term] => [{ term with behind := "", blankBehind := rfl }]
  | first :: second :: rest => first :: withoutBehind (second :: rest)

@[simp] theorem map_operand_withoutBefore (terms : List (Term context)) :
    (withoutBefore terms).map Term.operand = terms.map Term.operand := by
  cases terms <;> rfl

@[simp] theorem map_operand_withoutBehind (terms : List (Term context)) :
    (withoutBehind terms).map Term.operand = terms.map Term.operand := by
  fun_induction withoutBehind terms with
  | case1 => rfl
  | case2 => rfl
  | case3 first second rest inductionHypothesis => simpa using inductionHypothesis

/-- Whether all operands are literals. -/
def AllLiteral (terms : List (Term context)) : Prop :=
  ∀ operand ∈ terms.map Term.operand, operand = .literal operand.value

theorem AllLiteral.of_map_operand_eq
    {terms others : List (Term context)}
    (literals : AllLiteral terms)
    (equal : others.map Term.operand = terms.map Term.operand) :
    AllLiteral others := by
  rw [AllLiteral, equal]
  exact literals

theorem ne_nil_of_map_operand_eq
    {terms others : List (Term context)}
    (nonempty : terms ≠ [])
    (equal : others.map Term.operand = terms.map Term.operand) :
    others ≠ [] := by
  rintro rfl
  exact nonempty (List.map_eq_nil_iff.1 equal.symm)

/-- The values of terms are those of their operands. -/
theorem map_value_eq_of_map_operand_eq
    {terms others : List (Term context)}
    (equal : others.map Term.operand = terms.map Term.operand) :
    others.map Term.value = terms.map Term.value := by
  have values := congrArg (List.map Operand.value) equal
  rwa [List.map_map, List.map_map] at values

/-- All operands are literals after an evaluation. -/
theorem allLiteral_evaluations (terms : List (Term context)) (other : Context) :
    AllLiteral (evaluations terms other) := by
  intro operand member
  simp only [evaluations, List.map_map, List.mem_map, Function.comp_apply] at member
  obtain ⟨term, _, rfl⟩ := member
  rfl

@[simp] theorem map_value_evaluations (terms : List (Term context)) (other : Context) :
    (evaluations terms other).map Term.value = terms.map Term.value := by
  rw [evaluations, List.map_map]
  rfl

theorem AllLiteral.head
    {first : Term context}
    {rest : List (Term context)}
    (literals : AllLiteral (first :: rest)) :
    first.operand = .literal first.value :=
  literals _ List.mem_cons_self

theorem AllLiteral.tail
    {first : Term context}
    {rest : List (Term context)}
    (literals : AllLiteral (first :: rest)) :
    AllLiteral rest :=
  fun operand member => literals operand (List.mem_cons_of_mem _ member)

namespace Term

theorem toList_text
    {term : Term context}
    (literal : term.operand = .literal term.value) :
    term.text.toList =
      term.before.toList ++ (JavaString.literalOf term.value).toList ++ term.behind.toList := by
  rw [text, literal, Operand.text, String.toList_append, String.toList_append]

/-- The text of a term is its value. -/
theorem textOfLiteral?_text
    {term : Term context}
    (literal : term.operand = .literal term.value) :
    JavaString.textOfLiteral? term.text = some term.value := by
  rw [← String.ofList_toList (s := term.text), toList_text literal]
  exact JavaString.textOfLiteral?_padded (List.all_eq_true.1 term.blankBefore)
    (List.all_eq_true.1 term.blankBehind) term.value

/-- A term belongs as a whole to the operand that has not ended. -/
theorem foldl_segment_text
    {term : Term context}
    (literal : term.operand = .literal term.value)
    (splitting : JavaString.Splitting)
    (rest : List Char) :
    (JavaString.segmentsFrom [] (term.text.toList ++ rest)).foldl
        JavaString.Splitting.segment splitting =
      (JavaString.segmentsFrom [] rest).foldl JavaString.Splitting.segment
        { splitting with current := term.text.toList.reverse ++ splitting.current } := by
  rw [toList_text literal, List.append_assoc, List.append_assoc,
    JavaString.foldl_segment_append (unquoted_of_isGlue term.isGlue_before),
    JavaString.foldl_code_of_isBlank (List.all_eq_true.1 term.blankBefore),
    JavaString.foldl_segment_literalOf,
    JavaString.foldl_segment_append (unquoted_of_isGlue term.isGlue_behind),
    JavaString.foldl_code_of_isBlank (List.all_eq_true.1 term.blankBehind)]
  simp

end Term

/-- The plus signs between terms end their operands, and nothing in a term does. -/
theorem operands_concatenation
    {terms : List (Term context)}
    (literals : AllLiteral terms)
    (nonempty : terms ≠ []) :
    JavaString.operands (concatenation terms) = terms.map Term.text := by
  have splitBehind (ended : List String) :
      ((JavaString.segments (concatenation terms)).foldl JavaString.Splitting.segment
        ⟨ended, [], 0⟩).finish = ended.reverse ++ terms.map Term.text := by
    -- At the beginning of a term all operands before it have ended and no parenthesis is open.
    induction terms generalizing ended with
    | nil => exact absurd rfl nonempty
    | cons first rest inductionHypothesis =>
        have read := first.foldl_segment_text literals.head ⟨ended, [], 0⟩
        cases rest with
        | nil =>
            specialize read []
            rw [List.append_nil] at read
            rw [concatenation_singleton, JavaString.segments, read]
            simp [JavaString.segmentsFrom, JavaString.codeSegment, JavaString.Splitting.finish]
        | cons second rest =>
            have remaining := inductionHypothesis literals.tail (by simp) (first.text :: ended)
            rw [JavaString.segments] at remaining
            rw [concatenation_cons_cons, JavaString.segments, String.toList_append,
              String.toList_append, List.append_assoc, read]
            simp only [String.reduceToSingleton, String.toList_singleton, List.singleton_append]
            rw [JavaString.foldl_segment_plus (Int.le_refl 0)]
            simpa using remaining
  exact splitBehind []

theorem concatenation_withoutBefore (terms : List (Term context)) :
    ∃ blanks, (∀ c ∈ blanks, Text.isBlank c = true) ∧
      (concatenation terms).toList = blanks ++ (concatenation (withoutBefore terms)).toList := by
  cases terms with
  | nil => exact ⟨[], by simp, rfl⟩
  | cons first rest =>
      refine ⟨first.before.toList, List.all_eq_true.1 first.blankBefore, ?_⟩
      cases rest with
      | nil => simp [withoutBefore, Term.text]
      | cons second rest => simp [withoutBefore, concatenation_cons_cons, Term.text]

/-- A concatenation of literals ends with a quote and blanks. -/
theorem concatenation_withoutBehind
    {terms : List (Term context)}
    (literals : AllLiteral terms)
    (nonempty : terms ≠ []) :
    ∃ front blanks, (∀ c ∈ blanks, Text.isBlank c = true) ∧
      (concatenation (withoutBehind terms)).toList = front ++ ['"'] ∧
      (concatenation terms).toList = front ++ ['"'] ++ blanks := by
  fun_induction withoutBehind terms with
  | case1 => exact absurd rfl nonempty
  | case2 term =>
      obtain ⟨inner, literal⟩ : ∃ inner,
          (JavaString.literalOf term.value).toList = inner ++ ['"'] :=
        ⟨_, (JavaString.toList_literalOf term.value).trans List.cons_append.symm⟩
      refine ⟨term.before.toList ++ inner, term.behind.toList,
        List.all_eq_true.1 term.blankBehind, ?_, ?_⟩
      · have stripped : AllLiteral [{ term with behind := "", blankBehind := rfl }] := literals
        rw [concatenation_singleton, Term.toList_text stripped.head]
        change term.before.toList ++ (JavaString.literalOf term.value).toList ++ [] = _
        rw [literal, List.append_nil, List.append_assoc]
      · rw [concatenation_singleton, Term.toList_text literals.head, literal]
        simp
  | case3 first second rest inductionHypothesis =>
      obtain ⟨front, blanks, blank, stripped, whole⟩ :=
        inductionHypothesis literals.tail (by simp)
      refine ⟨first.text.toList ++ '+' :: front, blanks, blank, ?_, ?_⟩
      · have more : withoutBehind (second :: rest) ≠ [] :=
          ne_nil_of_map_operand_eq (by simp) (map_operand_withoutBehind (second :: rest))
        rw [concatenation_cons first more, String.toList_append, String.toList_append, stripped]
        simp
      · rw [concatenation_cons_cons, String.toList_append, String.toList_append, whole]
        simp

/-- Without the blanks in front a concatenation of literals begins with a quote. -/
theorem head?_concatenation_withoutBefore
    {terms : List (Term context)}
    (literals : AllLiteral terms)
    (nonempty : terms ≠ []) :
    (concatenation (withoutBefore terms)).toList.head? = some '"' := by
  cases terms with
  | nil => exact absurd rfl nonempty
  | cons first rest =>
      have stripped : AllLiteral (withoutBefore (first :: rest)) :=
        literals.of_map_operand_eq (map_operand_withoutBefore _)
      have text := Term.toList_text stripped.head
      cases rest with
      | nil =>
          rw [withoutBefore, concatenation_singleton, text, JavaString.toList_literalOf]
          rfl
      | cons second rest =>
          rw [withoutBefore, concatenation_cons_cons, String.toList_append, String.toList_append,
            text, JavaString.toList_literalOf]
          rfl

/-- Trimming a concatenation of literals removes the blanks in front of its first term and behind
its last one, and leaves a quote in front. -/
theorem trim_concatenation
    {terms : List (Term context)}
    (literals : AllLiteral terms)
    (nonempty : terms ≠ []) :
    Text.trim (concatenation terms) = concatenation (withoutBehind (withoutBefore terms)) ∧
      (concatenation (withoutBehind (withoutBefore terms))).toList.head? = some '"' := by
  have strippedLiterals : AllLiteral (withoutBefore terms) :=
    literals.of_map_operand_eq (map_operand_withoutBefore terms)
  have strippedNonempty : withoutBefore terms ≠ [] :=
    ne_nil_of_map_operand_eq nonempty (map_operand_withoutBefore terms)
  obtain ⟨before, blankBefore, split⟩ := concatenation_withoutBefore terms
  obtain ⟨front, behind, blankBehind, stripped, whole⟩ :=
    concatenation_withoutBehind strippedLiterals strippedNonempty
  have quote := head?_concatenation_withoutBefore literals nonempty
  have quoteStripped : (front ++ ['"']).head? = some '"' := by
    rw [whole] at quote
    cases front with
    | nil => rfl
    | cons c front => simpa using quote
  obtain ⟨inner, begins⟩ := List.head?_eq_some_iff.1 quoteStripped
  constructor
  · rw [Text.trim, split, Text.trimStartList_append blankBefore, whole, begins, List.cons_append,
      Text.trimStartList_cons (by decide), ← List.cons_append, ← begins,
      Text.trimEndList_append _ blankBehind, Text.trimEndList_concat _ (by decide), ← stripped,
      String.ofList_toList]
  · rw [stripped, quoteStripped]

/-- A concatenation of literals evaluates to the concatenation of its values, and each of its
operands to the value of its term. -/
theorem textOfExpression_concatenation
    {terms : List (Term context)}
    (literals : AllLiteral terms)
    (nonempty : terms ≠ []) :
    (JavaString.operands (Text.trim (concatenation terms))).map JavaString.textOfLiteral? =
        (terms.map Term.value).map some ∧
      Normalize.textOfExpression (concatenation terms) = String.join (terms.map Term.value) := by
  obtain ⟨trimmed, quote⟩ := trim_concatenation literals nonempty
  have sameOperands : (withoutBehind (withoutBefore terms)).map Term.operand =
      terms.map Term.operand := by simp
  have strippedLiterals : AllLiteral (withoutBehind (withoutBefore terms)) :=
    literals.of_map_operand_eq sameOperands
  have strippedNonempty : withoutBehind (withoutBefore terms) ≠ [] :=
    ne_nil_of_map_operand_eq nonempty sameOperands
  have sameValues := map_value_eq_of_map_operand_eq sameOperands
  have operands : JavaString.operands (Text.trim (concatenation terms)) =
      (withoutBehind (withoutBefore terms)).map Term.text := by
    rw [trimmed, operands_concatenation strippedLiterals strippedNonempty]
  have texts (term : Term context) (member : term ∈ withoutBehind (withoutBefore terms)) :
      JavaString.textOfLiteral? term.text = some term.value :=
    Term.textOfLiteral?_text (strippedLiterals _ (List.mem_map_of_mem member))
  constructor
  · rw [operands, ← sameValues, List.map_map, List.map_map]
    exact List.map_congr_left texts
  · rw [Normalize.textOfExpression]
    rw [trimmed] at operands ⊢
    simp only [operands, quote, beq_self_eq_true, if_true]
    rw [← sameValues, List.map_map]
    refine congrArg String.join (List.map_congr_left fun term member => ?_)
    simp [texts term member]

/-- **Substitution and evaluation are exact.** In a context, a concatenation of literals and of
references that have values is replaced without an error, and what is put in the places of its
references evaluates to the concatenation of the values, whatever characters the values hold: every
literal is read back as its value, every operand of the result is the literal of one value, and the
result has no reference that could be replaced again. -/
theorem concatenation_evaluates_to_values
    (context : Context)
    (first : Term context)
    (rest : List (Term context)) :
    (∀ value, JavaString.textOfLiteral? (JavaString.literalOf value) = some value) ∧
      ∃ code, context.replace (concatenation (first :: rest)) = .ok code ∧
        Normalize.textOfExpression code = String.join ((first :: rest).map Term.value) ∧
        (JavaString.operands (Text.trim code)).map JavaString.textOfLiteral? =
          ((first :: rest).map Term.value).map some ∧
        ∀ other : Context, other.replace code = .ok code := by
  refine ⟨JavaString.textOfLiteral?_literalOf,
    concatenation (evaluations (first :: rest) context), replace_concatenation _ context, ?_⟩
  obtain ⟨operands, text⟩ := textOfExpression_concatenation
    (allLiteral_evaluations (first :: rest) context) (by simp [evaluations])
  rw [map_value_evaluations] at operands text
  refine ⟨text, operands, fun other => ?_⟩
  -- The result is a concatenation in every context, and all its operands are literals already.
  rw [concatenation_evaluations _ context other]
  have again := replace_concatenation (evaluations (first :: rest) other) other
  rwa [evaluations_evaluations] at again

example :
    ∃ terms : List (Term (empty.bind "n" "a\"+b")),
      concatenation terms = "\"x\\\\\" + context.n" ∧ terms.map Term.value = ["x\\", "a\"+b"] := by
  refine ⟨[⟨"", .literal "x\\", " ", rfl, rfl⟩, ⟨" ", .reference "n" _ ?_ rfl, "", rfl, rfl⟩],
    ?_, ?_⟩
  · decide
  · decide
  · decide

end Context
end SqlLineage
