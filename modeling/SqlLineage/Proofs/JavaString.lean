import Mathlib.Data.List.Induction
import SqlLineage.JavaString
import SqlLineage.Proofs.Text.Blank

/-!
# String literals in expressions

The literal of a text is read back as one segment, whatever the text holds and whatever follows, and
its text is the text it was made of. Code in front of an expression adds to the code that the
expression begins with and leaves its other segments alone.
-/

namespace SqlLineage
namespace JavaString

/-- Nothing is lost where a quoted text is taken off. -/
theorem quotedRest_append (quote : Char) (cs : List Char) :
    (quotedRest quote cs).1 ++ (quotedRest quote cs).2 = cs := by
  fun_induction quotedRest quote cs <;> simp_all

theorem flatMap_text_codeSegment (code : List Char) :
    (codeSegment code).flatMap (·.text.toList) = code.reverse := by
  cases code <;> simp [codeSegment, Segment.text]

/-- The segments of an expression, put together, are the expression. -/
theorem flatMap_text_segmentsFrom (code expression : List Char) :
    (segmentsFrom code expression).flatMap (·.text.toList) = code.reverse ++ expression := by
  fun_induction segmentsFrom code expression with
  | case1 code => rw [flatMap_text_codeSegment, List.append_nil]
  | case2 code cs quoted inductionHypothesis =>
      rw [inductionHypothesis]
      simp [quoted, quotedRest_append]
  | case3 code cs quoted _ inductionHypothesis =>
      rw [List.flatMap_append, List.flatMap_cons, flatMap_text_codeSegment, inductionHypothesis]
      simp [quoted, Segment.text, quotedRest_append]
  | case4 code c cs _ _ inductionHypothesis =>
      rw [inductionHypothesis]
      simp

/-- A character inside a literal stands for itself, or a backslash and another character stand for
it. -/
theorem escapeChar_cases (c : Char) :
    escapeChar c = [c] ∧ c ≠ '"' ∧ c ≠ '\\' ∨
      ∃ d, escapeChar c = ['\\', d] ∧
        ∀ rest, decodeList ('\\' :: d :: rest) = c :: decodeList rest := by
  fun_cases escapeChar c
  case case6 notQuote notBackslash _ _ _ => exact .inl ⟨rfl, notQuote, notBackslash⟩
  all_goals exact .inr ⟨_, rfl, fun _ => by simp [decodeList]⟩

theorem quotedRest_cons
    {quote c : Char}
    (notQuote : c ≠ quote)
    (notBackslash : c ≠ '\\')
    {rest : List Char}
    (more : rest ≠ []) :
    quotedRest quote (c :: rest) =
      (c :: (quotedRest quote rest).1, (quotedRest quote rest).2) := by
  cases rest with
  | nil => exact absurd rfl more
  | cons d rest => simp [quotedRest, notQuote, notBackslash]

/-- A literal ends at the quote behind its text: no character of the text ends it. -/
theorem quotedRest_flatMap_escapeChar (cs rest : List Char) :
    quotedRest '"' (cs.flatMap escapeChar ++ '"' :: rest) =
      (cs.flatMap escapeChar ++ ['"'], rest) := by
  induction cs with
  | nil => cases rest <;> simp [quotedRest]
  | cons c cs inductionHypothesis =>
      obtain ⟨itself, notQuote, notBackslash⟩ | ⟨d, escaped, _⟩ := escapeChar_cases c
      · rw [List.flatMap_cons, itself, List.append_assoc, List.singleton_append,
          quotedRest_cons notQuote notBackslash (by simp), inductionHypothesis]
        rfl
      · rw [List.flatMap_cons, escaped]
        simp [quotedRest, inductionHypothesis]

/-- Escaping is undone by decoding. -/
theorem decodeList_flatMap_escapeChar (cs : List Char) :
    decodeList (cs.flatMap escapeChar) = cs := by
  induction cs with
  | nil => rfl
  | cons c cs inductionHypothesis =>
      obtain ⟨itself, _, notBackslash⟩ | ⟨d, escaped, decoded⟩ := escapeChar_cases c
      · rw [List.flatMap_cons, itself, List.singleton_append]
        cases tail : cs.flatMap escapeChar with
        | nil =>
            rw [tail] at inductionHypothesis
            simp [decodeList, ← inductionHypothesis]
        | cons d rest =>
            rw [tail] at inductionHypothesis
            simp [decodeList, notBackslash, inductionHypothesis]
      · rw [List.flatMap_cons, escaped]
        simp [decoded, inductionHypothesis]

/-- The text inside a literal does not end with half of an escape sequence. -/
theorem endsWithEscape_flatMap_escapeChar (cs : List Char) :
    endsWithEscape (cs.flatMap escapeChar) = false := by
  induction cs using List.reverseRecOn with
  | nil => rfl
  | append_singleton cs c inductionHypothesis =>
      rw [List.flatMap_append, List.flatMap_singleton]
      obtain ⟨itself, _, notBackslash⟩ | ⟨d, escaped, _⟩ := escapeChar_cases c
      · simp [endsWithEscape, itself, notBackslash]
      · by_cases backslash : d = '\\'
        · simp only [endsWithEscape, beq_eq_false_iff_ne] at inductionHypothesis
          simp [endsWithEscape, escaped, backslash]
          omega
        · simp [endsWithEscape, escaped, backslash]

theorem toList_literalOf (text : String) :
    (literalOf text).toList = '"' :: (text.toList.flatMap escapeChar ++ ['"']) := by
  simp [literalOf]

/-- Between the quotes of a literal stands its text with escape sequences. -/
theorem literalBody_literalOf (text : String) :
    literalBody (literalOf text).toList = text.toList.flatMap escapeChar := by
  simp [literalBody, toList_literalOf, endsWithEscape_flatMap_escapeChar]

/-- A literal is one segment, whatever stands behind it. -/
theorem segmentsFrom_literalOf
    (code : List Char)
    (text : String)
    (rest : List Char) :
    segmentsFrom code ((literalOf text).toList ++ rest) =
      codeSegment code ++ .literal (literalOf text) :: segmentsFrom [] rest := by
  rw [toList_literalOf, List.cons_append, List.append_assoc, List.singleton_append, segmentsFrom]
  simp only [quotedRest_flatMap_escapeChar]
  simp [literalOf]

/-- A character that no literal begins with goes to the code that was read. -/
theorem segmentsFrom_cons
    {c : Char}
    (notApostrophe : c ≠ '\'')
    (notQuote : c ≠ '"')
    (code rest : List Char) :
    segmentsFrom code (c :: rest) = segmentsFrom (c :: code) rest := by
  rw [segmentsFrom, if_neg notApostrophe, if_neg notQuote]

theorem segmentsFrom_append
    {front : List Char}
    (unquoted : ∀ c ∈ front, c ≠ '\'' ∧ c ≠ '"')
    (code rest : List Char) :
    segmentsFrom code (front ++ rest) = segmentsFrom (front.reverse ++ code) rest := by
  induction front generalizing code with
  | nil => rfl
  | cons c front inductionHypothesis =>
      obtain ⟨⟨notApostrophe, notQuote⟩, unquotedTail⟩ := List.forall_mem_cons.1 unquoted
      rw [List.cons_append, segmentsFrom_cons notApostrophe notQuote,
        inductionHypothesis unquotedTail, List.reverse_cons, List.append_assoc,
        List.singleton_append]

/-- Code that was read goes in front of the code that an expression begins with. -/
theorem segmentsFrom_eq_codeSegment_append (expression : List Char) :
    ∃ front segments, ∀ code,
      segmentsFrom code expression = codeSegment (front ++ code) ++ segments := by
  match expression with
  | [] => exact ⟨[], [], fun code => by simp [segmentsFrom]⟩
  | c :: cs =>
      by_cases apostrophe : c = '\''
      · have shorter := length_quotedRest_le '\'' cs
        obtain ⟨front, segments, equal⟩ :=
          segmentsFrom_eq_codeSegment_append (quotedRest '\'' cs).2
        refine ⟨front ++ ((quotedRest '\'' cs).1.reverse ++ [c]), segments, fun code => ?_⟩
        rw [segmentsFrom, if_pos apostrophe]
        simp [equal]
      · by_cases quote : c = '"'
        · refine ⟨[], .literal (String.ofList (c :: (quotedRest '"' cs).1)) ::
            segmentsFrom [] (quotedRest '"' cs).2, fun code => ?_⟩
          rw [segmentsFrom, if_neg apostrophe, if_pos quote]
          rfl
        · obtain ⟨front, segments, equal⟩ := segmentsFrom_eq_codeSegment_append cs
          refine ⟨front ++ [c], segments, fun code => ?_⟩
          rw [segmentsFrom_cons apostrophe quote, equal, List.append_assoc,
            List.singleton_append]
termination_by expression.length
decreasing_by
  · simp
    omega
  · simp

theorem foldl_segment_codeSegment (splitting : Splitting) (code : List Char) :
    (codeSegment code).foldl Splitting.segment splitting =
      code.reverse.foldl Splitting.code splitting := by
  cases code <;> simp [codeSegment, Splitting.segment]

/-- A splitting takes code without quotes character by character. -/
theorem foldl_segment_append
    {code : List Char}
    (unquoted : ∀ c ∈ code, c ≠ '\'' ∧ c ≠ '"')
    (splitting : Splitting)
    (rest : List Char) :
    (segmentsFrom [] (code ++ rest)).foldl Splitting.segment splitting =
      (segmentsFrom [] rest).foldl Splitting.segment (code.foldl Splitting.code splitting) := by
  obtain ⟨front, segments, equal⟩ := segmentsFrom_eq_codeSegment_append rest
  rw [segmentsFrom_append unquoted, equal, equal, List.foldl_append, List.foldl_append,
    foldl_segment_codeSegment, foldl_segment_codeSegment]
  simp

/-- A splitting takes a literal as a whole. -/
theorem foldl_segment_literalOf
    (splitting : Splitting)
    (text : String)
    (rest : List Char) :
    (segmentsFrom [] ((literalOf text).toList ++ rest)).foldl Splitting.segment splitting =
      (segmentsFrom [] rest).foldl Splitting.segment
        { splitting with current := (literalOf text).toList.reverse ++ splitting.current } := by
  rw [segmentsFrom_literalOf, List.foldl_append, List.foldl_cons, foldl_segment_codeSegment]
  rfl

/-- A plus sign outside of parentheses ends an operand. -/
theorem foldl_segment_plus
    {splitting : Splitting}
    (outside : splitting.depth ≤ 0)
    (rest : List Char) :
    (segmentsFrom [] ('+' :: rest)).foldl Splitting.segment splitting =
      (segmentsFrom [] rest).foldl Splitting.segment
        ⟨String.ofList splitting.current.reverse :: splitting.operands, [], splitting.depth⟩ := by
  have plus : ∀ c ∈ ['+'], c ≠ '\'' ∧ c ≠ '"' := by simp
  have read := foldl_segment_append plus splitting rest
  rw [List.singleton_append] at read
  simp [read, Splitting.code, outside]

/-- Blanks belong to the operand that has not ended. -/
theorem foldl_code_of_isBlank
    {blanks : List Char}
    (blank : ∀ c ∈ blanks, Text.isBlank c = true)
    (splitting : Splitting) :
    blanks.foldl Splitting.code splitting =
      { splitting with current := blanks.reverse ++ splitting.current } := by
  induction blanks generalizing splitting with
  | nil => rfl
  | cons c blanks inductionHypothesis =>
      obtain ⟨head, tail⟩ := List.forall_mem_cons.1 blank
      have notPlus : c ≠ '+' := Text.ne_of_isBlank head (by decide)
      have notOpening : c ≠ '(' := Text.ne_of_isBlank head (by decide)
      have notClosing : c ≠ ')' := Text.ne_of_isBlank head (by decide)
      rw [List.foldl_cons, inductionHypothesis tail]
      simp [Splitting.code, notPlus, notOpening, notClosing]

/-- The text of a literal is the text it was made of, also with blanks around the literal. -/
theorem textOfLiteral?_padded
    {before behind : List Char}
    (blankBefore : ∀ c ∈ before, Text.isBlank c = true)
    (blankBehind : ∀ c ∈ behind, Text.isBlank c = true)
    (text : String) :
    textOfLiteral? (String.ofList (before ++ (literalOf text).toList ++ behind)) = some text := by
  have trimmed : Text.trim (String.ofList (before ++ (literalOf text).toList ++ behind)) =
      literalOf text := by
    rw [Text.trim, String.toList_ofList, List.append_assoc,
      Text.trimStartList_append blankBefore, toList_literalOf, List.cons_append,
      Text.trimStartList_cons (by decide), ← List.cons_append,
      Text.trimEndList_append _ blankBehind, ← List.cons_append,
      Text.trimEndList_concat _ (by decide), List.cons_append, ← toList_literalOf,
      String.ofList_toList]
  have notEnclosed : ∀ fuel, bare fuel (literalOf text).toList = (literalOf text).toList := by
    intro fuel
    rw [toList_literalOf]
    cases fuel <;> simp [bare]
  have oneSegment : segmentsFrom [] (literalOf text).toList = [.literal (literalOf text)] := by
    simpa [codeSegment, segmentsFrom] using segmentsFrom_literalOf [] text []
  rw [textOfLiteral?]
  simp only [trimmed, notEnclosed, oneSegment, literalBody_literalOf,
    decodeList_flatMap_escapeChar, String.ofList_toList]

/-- The text of a literal is the text it was made of. -/
theorem textOfLiteral?_literalOf (text : String) :
    textOfLiteral? (literalOf text) = some text := by
  have noBlanks : ∀ c ∈ ([] : List Char), Text.isBlank c = true := by simp
  simpa using textOfLiteral?_padded noBlanks noBlanks text

end JavaString
end SqlLineage
