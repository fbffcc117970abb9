import SqlLineage.Proofs.Context.Replacement

/-!
# Concatenations of literals and references

A concatenation is an expression of operands that have values in a context: literals, and references
to variables with values. A replacement puts literals of these values in the places of the operands
and leaves the blanks and plus signs between them.
-/

namespace SqlLineage
namespace Context

/-- An operand that has a value in `context`. -/
inductive Operand (context : Context)
  /-- The literal of a value. -/
  | literal (value : String)
  /-- A reference to a variable. -/
  | reference
      (name value : String)
      (identifier : isIdentifier name.toList = true)
      (bound : context.get? name = some value)

namespace Operand

variable {context : Context}

/-- The value of an operand. -/
def value : Operand context → String
  | literal value => value
  | reference _ value _ _ => value

/-- The text of an operand. -/
def text : Operand context → String
  | literal value => JavaString.literalOf value
  | reference name _ _ _ => "context." ++ name

end Operand

/-- An operand with blanks around it. -/
structure Term (context : Context) where
  /-- The blanks in front. -/
  before : String
  /-- The operand. -/
  operand : Operand context
  /-- The blanks behind. -/
  behind : String
  /-- Nothing else is in front. -/
  blankBefore : Text.allBlank before = true
  /-- Nothing else is behind. -/
  blankBehind : Text.allBlank behind = true

namespace Term

variable {context : Context}

/-- The value of a term. -/
def value (term : Term context) : String :=
  term.operand.value

/-- The text of a term. -/
def text (term : Term context) : String :=
  term.before ++ term.operand.text ++ term.behind

/-- The term with the literal of its value as its operand, in any context. -/
def evaluated (term : Term context) (other : Context) : Term other :=
  { term with operand := .literal term.value }

end Term

/-- The text of terms with plus signs between them. -/
def concatenation {context : Context} (terms : List (Term context)) : String :=
  "+".intercalate (terms.map Term.text)

variable {context : Context}

theorem join_map_singleton (text : String) :
    String.join (text.toList.map String.singleton) = text := by
  rw [← String.toList_inj, String.toList_join, List.flatMap_map]
  simp

namespace Term

/-- The parts of a term. -/
def parts (term : Term context) : List Part :=
  term.before.toList.map (fun c => .plain (String.singleton c)) ++
    (match term.operand with
      | .literal value => .plain (JavaString.literalOf value)
      | .reference name _ _ _ => .reference name) ::
    term.behind.toList.map (fun c => .plain (String.singleton c))

theorem isGlue_before (term : Term context) : ∀ c ∈ term.before.toList, isGlue c = true := by
  intro c member
  rw [isGlue, List.all_eq_true.1 term.blankBefore c member, Bool.true_or]

theorem isGlue_behind (term : Term context) : ∀ c ∈ term.behind.toList, isGlue c = true := by
  intro c member
  rw [isGlue, List.all_eq_true.1 term.blankBehind c member, Bool.true_or]

/-- A term gives its own parts, if nothing or a plus sign is behind it. -/
theorem partsOf_append
    (term : Term context)
    {rest : List Char}
    (ends : ∀ c ∈ rest.head?, isGlue c = true) :
    partsOf (term.text.toList ++ rest) = term.parts ++ partsOf rest := by
  have behind := partsOf_append_of_isGlue term.isGlue_behind rest
  rw [text, String.toList_append, String.toList_append, List.append_assoc, List.append_assoc,
    partsOf_append_of_isGlue term.isGlue_before, parts]
  cases operand : term.operand with
  | literal value =>
      rw [Operand.text, partsOf_literalOf, behind]
      simp
  | reference name value identifier bound =>
      have endsBehind : ∀ c ∈ (term.behind.toList ++ rest).head?, isGlue c = true := by
        rw [List.head?_append]
        cases first : term.behind.toList.head? with
        | none => simpa using ends
        | some c => simpa using term.isGlue_behind c (List.mem_of_head? first)
      rw [Operand.text, String.toList_append, List.append_assoc,
        partsOf_reference identifier endsBehind, behind]
      simp

/-- Every reference of a term has a value. -/
theorem unbound?_parts (term : Term context) :
    term.parts.findSome? (Part.unbound? context) = none := by
  have plain (text : String) :
      (text.toList.map fun c => Part.plain (String.singleton c)).findSome?
        (Part.unbound? context) = none := by
    simp [List.findSome?_eq_none_iff, Part.unbound?]
  rw [parts, List.findSome?_append, plain, List.findSome?_cons, plain]
  cases term.operand with
  | literal value => rfl
  | reference name value identifier bound => simp [Part.unbound?, bound]

/-- The literal of its value takes the place of a term's operand. -/
theorem filled_parts (term : Term context) (other : Context) :
    String.join (term.parts.map (Part.filled context)) = (term.evaluated other).text := by
  have plain (text : String) :
      (text.toList.map fun c => Part.plain (String.singleton c)).map (Part.filled context) =
        text.toList.map String.singleton := by
    simp [Part.filled, Function.comp_def]
  rw [parts, List.map_append, List.map_cons, plain, plain, String.join_append, String.join_cons,
    join_map_singleton, join_map_singleton, ← String.append_assoc]
  rw [text, evaluated, Operand.text, value]
  cases operand : term.operand with
  | literal value => rfl
  | reference name value identifier bound => simp [Part.filled, bound, Operand.value]

end Term

@[simp] theorem concatenation_singleton (term : Term context) :
    concatenation [term] = term.text := by
  simp [concatenation]

theorem concatenation_cons
    (first : Term context)
    {rest : List (Term context)}
    (more : rest ≠ []) :
    concatenation (first :: rest) = first.text ++ "+" ++ concatenation rest := by
  rw [concatenation, List.map_cons, String.intercalate_cons_of_ne_nil (by simpa using more)]
  rfl

theorem concatenation_cons_cons (first second : Term context) (rest : List (Term context)) :
    concatenation (first :: second :: rest) =
      first.text ++ "+" ++ concatenation (second :: rest) :=
  concatenation_cons first (by simp)

theorem parts_concatenation_singleton (term : Term context) :
    parts (concatenation [term]) = term.parts := by
  have noRest : ∀ c ∈ ([] : List Char).head?, isGlue c = true := by simp
  simpa [parts_eq_partsOf] using term.partsOf_append noRest

theorem parts_concatenation_cons_cons (first second : Term context) (rest : List (Term context)) :
    parts (concatenation (first :: second :: rest)) =
      first.parts ++ .plain "+" :: parts (concatenation (second :: rest)) := by
  have plus : ∀ c ∈ ['+'], isGlue c = true := by simp [isGlue]
  have remaining := partsOf_append_of_isGlue plus (concatenation (second :: rest)).toList
  rw [concatenation_cons_cons, parts_eq_partsOf, String.toList_append, String.toList_append,
    List.append_assoc, first.partsOf_append (by simpa using plus)]
  exact congrArg _ remaining

/-- The terms with the literals of their values as operands. -/
def evaluations (terms : List (Term context)) (other : Context) : List (Term other) :=
  terms.map fun term => term.evaluated other

/-- Every reference of a concatenation has a value. -/
theorem unbound?_concatenation (terms : List (Term context)) :
    context.unbound? (concatenation terms) = none := by
  induction terms with
  | nil => simp [unbound?, concatenation, parts_eq_partsOf]
  | cons first rest inductionHypothesis =>
      cases rest with
      | nil => rw [unbound?, parts_concatenation_singleton, first.unbound?_parts]
      | cons second rest =>
          rw [unbound?] at inductionHypothesis
          rw [unbound?, parts_concatenation_cons_cons, List.findSome?_append,
            first.unbound?_parts, List.findSome?_cons, inductionHypothesis]
          rfl

/-- The literals of their values take the places of the operands of a concatenation. -/
theorem filled_concatenation (terms : List (Term context)) (other : Context) :
    context.filled (concatenation terms) = concatenation (evaluations terms other) := by
  induction terms with
  | nil => simp [filled, concatenation, evaluations, parts_eq_partsOf]
  | cons first rest inductionHypothesis =>
      cases rest with
      | nil =>
          rw [filled, parts_concatenation_singleton, first.filled_parts other]
          simp [evaluations]
      | cons second rest =>
          rw [filled] at inductionHypothesis
          rw [filled, parts_concatenation_cons_cons, List.map_append, List.map_cons,
            String.join_append, String.join_cons, first.filled_parts other, inductionHypothesis]
          simp [evaluations, concatenation_cons_cons, Part.filled, String.append_assoc]

theorem evaluations_evaluations (terms : List (Term context)) (other another : Context) :
    evaluations (evaluations terms other) another = evaluations terms another := by
  rw [evaluations, evaluations, List.map_map]
  rfl

/-- The texts of literals do not depend on a context. -/
theorem concatenation_evaluations (terms : List (Term context)) (other another : Context) :
    concatenation (evaluations terms other) = concatenation (evaluations terms another) := by
  rw [concatenation, concatenation, evaluations, evaluations, List.map_map, List.map_map]
  rfl

/-- In place of the references of a concatenation stand the literals of their values. -/
theorem replace_concatenation
    (terms : List (Term context))
    (other : Context) :
    context.replace (concatenation terms) = .ok (concatenation (evaluations terms other)) := by
  rw [replace_eq, unbound?_concatenation, filled_concatenation terms other]

end Context
end SqlLineage
