import SqlLineage.Context
import SqlLineage.Proofs.JavaString

/-!
# What a replacement gives

A replacement fails with the first reference that has no value, and otherwise puts literals in place
of the references. The parts of an expression are computed from its front: blanks and plus signs,
literals and references each give their own parts, whatever stands behind them.
-/

namespace SqlLineage
namespace Context

namespace Part

/-- The name of a reference without a value. -/
def unbound? (context : Context) : Part → Option String
  | .plain _ => none
  | .reference name => if (context.get? name).isSome then none else some name

/-- The text of a part, where a reference without a value has none. -/
def filled (context : Context) : Part → String
  | .plain text => text
  | .reference name => ((context.get? name).map JavaString.literalOf).getD ""

end Part

theorem partText_eq (context : Context) (part : Part) :
    context.partText part =
      match part.unbound? context with
      | some name => .error ⟨name⟩
      | none => .ok (part.filled context) := by
  cases part with
  | plain text => rfl
  | reference name =>
      cases found : context.get? name <;> simp [partText, Part.unbound?, Part.filled, found]

/-- The first part without a text decides about all of them. -/
theorem mapM_partText (context : Context) (parts : List Part) :
    parts.mapM context.partText =
      match parts.findSome? (Part.unbound? context) with
      | some name => .error ⟨name⟩
      | none => .ok (parts.map (Part.filled context)) := by
  induction parts with
  | nil => rfl
  | cons part parts inductionHypothesis =>
      rw [List.mapM_cons, partText_eq, inductionHypothesis, List.findSome?_cons]
      cases part.unbound? context with
      | some name => rfl
      | none => cases parts.findSome? (Part.unbound? context) <;> rfl

/-- The name of the first reference of an expression that has no value. -/
def unbound? (context : Context) (expression : String) : Option String :=
  (parts expression).findSome? (Part.unbound? context)

/-- The expression with literals in place of the references that have values. -/
def filled (context : Context) (expression : String) : String :=
  String.join ((parts expression).map (Part.filled context))

/-- A replacement fails exactly with the first reference that has no value. -/
theorem replace_eq (context : Context) (expression : String) :
    context.replace expression =
      match context.unbound? expression with
      | some name => .error ⟨name⟩
      | none => .ok (context.filled expression) := by
  rw [replace, mapM_partText, unbound?, filled]
  cases (parts expression).findSome? (Part.unbound? context) <;> rfl

/-- A resolution fails exactly with the first reference that has no value. -/
theorem resolve_eq (context : Context) (value : String) :
    context.resolve value =
      match context.unbound? value with
      | some name => .error ⟨name⟩
      | none => .ok (Text.trim (Normalize.textOfExpression (context.filled value))) := by
  rw [resolve, replace_eq]
  cases context.unbound? value <;> rfl

/-! ## Parts in order -/

/-- The text of a part in its expression. -/
def Part.source : Part → String
  | .plain text => text
  | .reference name => "context." ++ name

theorem eq_append_of_reference?
    {cs name rest : List Char}
    (found : reference? cs = some (name, rest)) :
    cs = "context.".toList ++ (name ++ rest) := by
  rw [reference?] at found
  split at found
  next starts =>
    obtain ⟨tail, rfl⟩ := List.isPrefixOf_iff_prefix.1 starts
    rw [← String.length_toList, List.drop_left] at found
    split at found
    next c others =>
      split at found
      next =>
        cases found
        rw [List.cons_append, List.takeWhile_append_dropWhile]
      next => cases found
    next => cases found
  next => cases found

theorem flatMap_source_codeParts (inWord : Bool) (code : List Char) :
    (codeParts inWord code).flatMap (·.source.toList) = code := by
  fun_induction codeParts inWord code with
  | case1 => rfl
  | case2 inWord c cs name rest found inductionHypothesis =>
      split at found
      next => cases found
      next =>
        rw [List.flatMap_cons, inductionHypothesis, eq_append_of_reference? found]
        simp [Part.source]
  | case3 inWord c cs _ inductionHypothesis =>
      rw [List.flatMap_cons, inductionHypothesis]
      simp [Part.source]

theorem flatMap_source_segmentParts (segment : JavaString.Segment) :
    (segmentParts segment).flatMap (·.source.toList) = segment.text.toList := by
  cases segment with
  | literal text => simp [segmentParts, Part.source, JavaString.Segment.text]
  | code text => exact flatMap_source_codeParts false text.toList

/-- The parts of an expression, put together, are the expression, so that the first part is the
leftmost. -/
theorem join_source_parts (expression : String) :
    String.join ((parts expression).map Part.source) = expression := by
  rw [← String.toList_inj, String.toList_join, List.flatMap_map, parts, List.flatMap_assoc]
  simp only [flatMap_source_segmentParts]
  exact JavaString.flatMap_text_segmentsFrom [] expression.toList

/-! ## Parts from the front -/

/-- The parts of an expression, as characters. -/
def partsOf (expression : List Char) : List Part :=
  (JavaString.segmentsFrom [] expression).flatMap segmentParts

theorem parts_eq_partsOf (expression : String) : parts expression = partsOf expression.toList := rfl

@[simp] theorem partsOf_nil : partsOf [] = [] := by
  simp [partsOf, JavaString.segmentsFrom, JavaString.codeSegment]

@[simp] theorem partsOf_literalOf (text : String) (rest : List Char) :
    partsOf ((JavaString.literalOf text).toList ++ rest) =
      .plain (JavaString.literalOf text) :: partsOf rest := by
  rw [partsOf, JavaString.segmentsFrom_literalOf]
  rfl

theorem flatMap_codeSegment (read : List Char) :
    (JavaString.codeSegment read).flatMap segmentParts = codeParts false read.reverse := by
  cases read <;> simp [JavaString.codeSegment, segmentParts, codeParts]

/-- Code whose parts do not depend on what is behind it gives these parts in front of any
expression. -/
theorem partsOf_append
    {code : List Char}
    {parts : List Part}
    (unquoted : ∀ c ∈ code, c ≠ '\'' ∧ c ≠ '"')
    (separate : ∀ rest, codeParts false (code ++ rest) = parts ++ codeParts false rest)
    (rest : List Char) :
    partsOf (code ++ rest) = parts ++ partsOf rest := by
  obtain ⟨front, segments, equal⟩ := JavaString.segmentsFrom_eq_codeSegment_append rest
  rw [partsOf, partsOf, JavaString.segmentsFrom_append unquoted, equal, equal, List.append_nil,
    List.append_nil, List.flatMap_append, List.flatMap_append, flatMap_codeSegment,
    flatMap_codeSegment, List.reverse_append, List.reverse_reverse, separate, List.append_assoc]

/-! ## Glue and references -/

/-- Whether a text is the name that a reference can have: a letter or an underscore, then letters,
numbers and underscores. -/
def isIdentifier : List Char → Bool
  | [] => false
  | c :: rest => (Text.isLetter c || c == '_') && rest.all isNameChar

/-- What stands between the operands of a concatenation. -/
def isGlue (c : Char) : Bool :=
  Text.isBlank c || c == '+'

theorem isWordChar_of_isGlue
    {c : Char}
    (glue : isGlue c = true) :
    Text.isWordChar c = false := by
  rcases Bool.or_eq_true_iff.1 glue with blank | plus
  · exact Text.isWordChar_of_isBlank blank
  · rw [beq_iff_eq.1 plus]
    decide +kernel

theorem isNameChar_of_isGlue
    {c : Char}
    (glue : isGlue c = true) :
    isNameChar c = false := by
  rcases Bool.or_eq_true_iff.1 glue with blank | plus
  · exact Text.eq_false_of_isBlank blank isNameChar (by decide +kernel)
  · rw [beq_iff_eq.1 plus]
    decide +kernel

theorem ne_of_isGlue
    {c d : Char}
    (glue : isGlue c = true)
    (notGlue : isGlue d = false) :
    c ≠ d :=
  ne_of_apply_ne isGlue (by simp [glue, notGlue])

theorem codeParts_cons_of_isGlue
    (inWord : Bool)
    {c : Char}
    (glue : isGlue c = true)
    (rest : List Char) :
    codeParts inWord (c :: rest) = .plain (String.singleton c) :: codeParts false rest := by
  have different : c ≠ 'c' := ne_of_isGlue glue (by decide)
  have noReference : reference? (c :: rest) = none := by
    simp [reference?, different.symm]
  rw [codeParts]
  split
  next found => simp [noReference] at found
  next => rw [isWordChar_of_isGlue glue]

/-- Blanks and plus signs are parts of their own. -/
theorem codeParts_append_of_isGlue
    {glue : List Char}
    (allGlue : ∀ c ∈ glue, isGlue c = true)
    (rest : List Char) :
    codeParts false (glue ++ rest) =
      glue.map (fun c => .plain (String.singleton c)) ++ codeParts false rest := by
  induction glue with
  | nil => rfl
  | cons c glue inductionHypothesis =>
      obtain ⟨head, tail⟩ := List.forall_mem_cons.1 allGlue
      rw [List.cons_append, codeParts_cons_of_isGlue false head, inductionHypothesis tail]
      rfl

/-- A reference ends where no character of a name follows. -/
theorem reference?_append
    {name : List Char}
    (identifier : isIdentifier name = true)
    {rest : List Char}
    (ends : ∀ c ∈ rest.head?, isNameChar c = false) :
    reference? ("context.".toList ++ (name ++ rest)) = some (name, rest) := by
  cases name with
  | nil => simp [isIdentifier] at identifier
  | cons c tail =>
      obtain ⟨start, nameChars⟩ := Bool.and_eq_true_iff.1 identifier
      rw [List.all_eq_true] at nameChars
      have dropped : ("context.".toList ++ (c :: tail ++ rest)).drop "context.".length =
          c :: (tail ++ rest) := by
        rw [← String.length_toList, List.drop_left]
        rfl
      have taken : (tail ++ rest).takeWhile isNameChar = tail := by
        rw [List.takeWhile_append_of_pos nameChars]
        cases rest with
        | nil => simp
        | cons d rest => simp [ends d rfl]
      have left : (tail ++ rest).dropWhile isNameChar = rest := by
        rw [List.dropWhile_append_of_pos nameChars]
        cases rest with
        | nil => simp
        | cons d rest => simp [ends d rfl]
      rw [reference?, if_pos (by simp), dropped]
      simp only [start, if_true, taken, left]

/-- A reference is one part, if a blank or a plus sign follows or nothing. -/
theorem codeParts_reference
    {name : String}
    (identifier : isIdentifier name.toList = true)
    {rest : List Char}
    (ends : ∀ c ∈ rest.head?, isGlue c = true) :
    codeParts false ("context.".toList ++ (name.toList ++ rest)) =
      .reference name :: codeParts false rest := by
  have found := reference?_append identifier fun c member => isNameChar_of_isGlue (ends c member)
  -- The name ends in a word, but what follows it cannot begin a reference anyway.
  have outsideWord (inWord : Bool) : codeParts inWord rest = codeParts false rest := by
    cases rest with
    | nil => simp [codeParts]
    | cons c rest =>
        rw [codeParts_cons_of_isGlue inWord (ends c rfl),
          codeParts_cons_of_isGlue false (ends c rfl)]
  obtain ⟨c, tail, shape⟩ : ∃ c tail, "context.".toList ++ (name.toList ++ rest) = c :: tail :=
    ⟨_, _, rfl⟩
  rw [shape] at found
  rw [shape, codeParts]
  split
  next otherName otherRest same =>
    simp only [Bool.false_eq_true, if_false, found, Option.some.injEq, Prod.mk.injEq] at same
    rw [← same.1, ← same.2, String.ofList_toList, outsideWord]
  next none => simp [found] at none

theorem unquoted_of_isGlue
    {glue : List Char}
    (allGlue : ∀ c ∈ glue, isGlue c = true) :
    ∀ c ∈ glue, c ≠ '\'' ∧ c ≠ '"' := by
  intro c member
  exact ⟨ne_of_isGlue (allGlue c member) (by decide), ne_of_isGlue (allGlue c member) (by decide)⟩

theorem partsOf_append_of_isGlue
    {glue : List Char}
    (allGlue : ∀ c ∈ glue, isGlue c = true)
    (rest : List Char) :
    partsOf (glue ++ rest) =
      glue.map (fun c => .plain (String.singleton c)) ++ partsOf rest :=
  partsOf_append (unquoted_of_isGlue allGlue) (codeParts_append_of_isGlue allGlue) rest

theorem isNameChar_of_isIdentifier
    {name : List Char}
    (identifier : isIdentifier name = true) :
    ∀ c ∈ name, isNameChar c = true := by
  cases name with
  | nil => simp
  | cons c tail =>
      obtain ⟨start, nameChars⟩ := Bool.and_eq_true_iff.1 identifier
      rw [List.all_eq_true] at nameChars
      refine List.forall_mem_cons.2 ⟨?_, nameChars⟩
      rcases Bool.or_eq_true_iff.1 start with letter | underscore
      · simp [isNameChar, letter]
      · simp [isNameChar, underscore]

theorem unquoted_of_isIdentifier
    {name : List Char}
    (identifier : isIdentifier name = true) :
    ∀ c ∈ name, c ≠ '\'' ∧ c ≠ '"' := by
  have nameChars := isNameChar_of_isIdentifier identifier
  have ne {c d : Char} (member : c ∈ name) (notNameChar : isNameChar d = false) : c ≠ d :=
    ne_of_apply_ne isNameChar (by simp [nameChars c member, notNameChar])
  intro c member
  exact ⟨ne member (by decide), ne member (by decide)⟩

theorem partsOf_reference
    {name : String}
    (identifier : isIdentifier name.toList = true)
    {rest : List Char}
    (ends : ∀ c ∈ rest.head?, isGlue c = true) :
    partsOf ("context.".toList ++ (name.toList ++ rest)) = .reference name :: partsOf rest := by
  -- Only with the character behind it are the parts of a reference the same whatever follows.
  have unquoted : ∀ c ∈ "context.".toList ++ name.toList, c ≠ '\'' ∧ c ≠ '"' := by
    rw [List.forall_mem_append]
    exact ⟨by simp, unquoted_of_isIdentifier identifier⟩
  cases rest with
  | nil =>
      have parts := codeParts_reference identifier ends
      rw [List.append_nil] at parts ⊢
      have read := JavaString.segmentsFrom_append unquoted [] []
      rw [List.append_nil, List.append_nil] at read
      rw [partsOf_nil, partsOf, read, JavaString.segmentsFrom, flatMap_codeSegment,
        List.reverse_reverse, parts, codeParts]
  | cons c rest =>
      have glue : ∀ d ∈ [c], isGlue d = true := by simpa using ends
      have follows (behind : List Char) : ∀ d ∈ ([c] ++ behind).head?, isGlue d = true := by
        simpa using ends
      have separate (behind : List Char) :
          codeParts false ("context.".toList ++ name.toList ++ [c] ++ behind) =
            [.reference name, .plain (String.singleton c)] ++ codeParts false behind := by
        rw [List.append_assoc, List.append_assoc, codeParts_reference identifier (follows behind),
          codeParts_append_of_isGlue glue]
        rfl
      have whole := partsOf_append
        (List.forall_mem_append.2 ⟨unquoted, unquoted_of_isGlue glue⟩) separate rest
      have single := partsOf_append_of_isGlue glue rest
      rw [List.singleton_append] at single
      rw [single]
      simpa using whole

end Context
end SqlLineage
