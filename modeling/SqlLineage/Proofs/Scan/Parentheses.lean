import Mathlib.Data.List.Basic
import SqlLineage.Scan.Tables

/-!
# Open parentheses

A scan remembers for each open parenthesis whether a function whose arguments use `FROM` stands in
front of it. Whether the innermost one is such a parenthesis can be told from the tokens: behind the
function and its parenthesis every other parenthesis is closed. A closing parenthesis that closes
nothing is passed over.
-/

namespace SqlLineage
namespace Scan

/-! ## Arguments of functions -/

/-- Tokens in which each parenthesis is closed, and none is closed that is not opened. -/
inductive Balanced : List Token → Prop
  | nil : Balanced []
  | token {token : Token} {others : List Token}
      (notOpening : token.kind ≠ .lparen)
      (notClosing : token.kind ≠ .rparen)
      (balanced : Balanced others) :
      Balanced (token :: others)
  | group {opening closing : Token} {inner others : List Token}
      (opens : opening.kind = .lparen)
      (closes : closing.kind = .rparen)
      (inside : Balanced inner)
      (balanced : Balanced others) :
      Balanced (opening :: (inner ++ closing :: others))

theorem Balanced.append
    {front back : List Token}
    (balancedFront : Balanced front)
    (balancedBack : Balanced back) :
    Balanced (front ++ back) := by
  induction balancedFront with
  | nil => exact balancedBack
  | token notOpening notClosing _ inductionHypothesis =>
      exact .token notOpening notClosing inductionHypothesis
  | group opens closes inside _ _ inductionHypothesis =>
      rw [List.cons_append, List.append_assoc, List.cons_append]
      exact .group opens closes inside inductionHypothesis

theorem Balanced.of_noParens
    {tokens : List Token}
    (noParens : ∀ token ∈ tokens, token.kind ≠ .lparen ∧ token.kind ≠ .rparen) :
    Balanced tokens := by
  induction tokens with
  | nil => exact .nil
  | cons token tokens inductionHypothesis =>
      obtain ⟨head, tail⟩ := List.forall_mem_cons.1 noParens
      exact .token head.1 head.2 (inductionHypothesis tail)

/-- Behind the tokens `before`, the innermost open parenthesis holds the arguments of a function
that uses `FROM` for something else, and `inner` stands behind that parenthesis. -/
def ArgumentsOpen (before inner : List Token) : Prop :=
  ∃ front function opening, before = front ++ function :: opening :: inner ∧
    Mark.isFunction function = true ∧ opening.kind = .lparen ∧ Balanced inner

/-- What stands behind the tokens is directly in the parentheses of a function that uses `FROM` for
something else. -/
def InsideFunction (before : List Token) : Prop :=
  ∃ inner, ArgumentsOpen before inner

/-! ## The parentheses that a scan remembers -/

namespace Mark

theorem isFunction_of_kind_ne
    {token : Token}
    (noWord : token.kind ≠ .word) :
    isFunction token = false := by
  simp [isFunction, fromArgumentFunctions, Token.isKeyword, noWord]

/-- Whether what stands behind `front` stands behind a function that uses `FROM` for something else;
`behindFunction` is about the front itself. -/
def endsInFunction (behindFunction : Bool) (front : List Token) : Bool :=
  (front.getLast?.map isFunction).getD behindFunction

theorem ofTokens_append (behindFunction : Bool) (front back : List Token) :
    ofTokens behindFunction (front ++ back) =
      ofTokens behindFunction front ++ ofTokens (endsInFunction behindFunction front) back := by
  induction front generalizing behindFunction with
  | nil => rfl
  | cons token front inductionHypothesis =>
      rw [List.cons_append, ofTokens, inductionHypothesis]
      cases front with
      | nil => rfl
      | cons next front => simp [ofTokens, endsInFunction, List.getLast?_cons]

@[simp] theorem map_token_ofTokens (behindFunction : Bool) (tokens : List Token) :
    (ofTokens behindFunction tokens).map token = tokens := by
  induction tokens generalizing behindFunction with
  | nil => rfl
  | cons first tokens inductionHypothesis => simp [ofTokens, inductionHypothesis]

/-- The marks at the front of a text are those of the front. -/
theorem ofTokens_map_token_of_append
    {behindFunction : Bool}
    {tokens : List Token}
    {before marks : List Mark}
    (split : ofTokens behindFunction tokens = before ++ marks) :
    ofTokens behindFunction (before.map token) = before := by
  obtain rfl : tokens = before.map token ++ marks.map token := by
    rw [← List.map_append, ← split, map_token_ofTokens]
  rw [ofTokens_append] at split
  refine (List.append_inj split ?_).1
  rw [← List.length_map token, map_token_ofTokens, List.length_map]

/-- The open parentheses behind a mark, innermost first, if `parens` are open in front of it. -/
def nest (parens : List Bool) (mark : Mark) : List Bool :=
  match mark.token.kind with
  | .lparen => mark.behindFunction :: parens
  | .rparen => parens.tail
  | _ => parens

theorem nest_of_lparen
    {mark : Mark}
    (opens : mark.token.kind = .lparen)
    (parens : List Bool) :
    nest parens mark = mark.behindFunction :: parens := by
  simp [nest, opens]

theorem nest_of_rparen
    {mark : Mark}
    (closes : mark.token.kind = .rparen)
    (parens : List Bool) :
    nest parens mark = parens.tail := by
  simp [nest, closes]

theorem nest_of_ne
    {mark : Mark}
    (notOpening : mark.token.kind ≠ .lparen)
    (notClosing : mark.token.kind ≠ .rparen)
    (parens : List Bool) :
    nest parens mark = parens := by
  unfold nest
  split <;> simp_all

end Mark

/-- Behind balanced tokens the parentheses are open that were open in front of them. -/
theorem Balanced.foldl_nest
    {tokens : List Token}
    (balanced : Balanced tokens)
    {marks : List Mark}
    (marked : marks.map Mark.token = tokens)
    (parens : List Bool) :
    marks.foldl Mark.nest parens = parens := by
  induction balanced generalizing marks parens with
  | nil =>
      obtain rfl := List.map_eq_nil_iff.1 marked
      rfl
  | token notOpening notClosing _ inductionHypothesis =>
      obtain ⟨mark, marks, rfl, rfl, others⟩ := List.map_eq_cons_iff.1 marked
      rw [List.foldl_cons, Mark.nest_of_ne notOpening notClosing, inductionHypothesis others]
  | group opens closes _ _ insideHypothesis inductionHypothesis =>
      obtain ⟨opening, marks, rfl, rfl, behind⟩ := List.map_eq_cons_iff.1 marked
      obtain ⟨inner, marks, rfl, inside, behind⟩ := List.map_eq_append_iff.1 behind
      obtain ⟨closing, marks, rfl, rfl, others⟩ := List.map_eq_cons_iff.1 behind
      rw [List.foldl_cons, Mark.nest_of_lparen opens, List.foldl_append, insideHypothesis inside,
        List.foldl_cons, Mark.nest_of_rparen closes, List.tail_cons, inductionHypothesis others]

/-- The open parentheses behind tokens, innermost first. -/
def openParens (tokens : List Token) : List Bool :=
  (Mark.ofTokens false tokens).foldl Mark.nest []

theorem openParens_concat (tokens : List Token) (token : Token) :
    openParens (tokens ++ [token]) =
      Mark.nest (openParens tokens) ⟨token, Mark.endsInFunction false tokens⟩ := by
  rw [openParens, Mark.ofTokens_append, List.foldl_append]
  rfl

/-- An open parenthesis has only balanced tokens behind it, and those that were opened earlier are
open in front of it. -/
theorem exists_of_openParens_eq_cons
    {tokens : List Token}
    {isFunction : Bool}
    {parens : List Bool}
    (opened : openParens tokens = isFunction :: parens) :
    ∃ front opening inner, tokens = front ++ opening :: inner ∧ opening.kind = .lparen ∧
      Balanced inner ∧ Mark.endsInFunction false front = isFunction ∧
      openParens front = parens := by
  match List.eq_nil_or_concat' tokens with
  | .inl empty => simp [empty, openParens, Mark.ofTokens] at opened
  | .inr ⟨before, token, ends⟩ =>
      have shorter : before.length < tokens.length := by simp [ends]
      rw [ends, openParens_concat] at opened
      by_cases opens : token.kind = .lparen
      · rw [Mark.nest_of_lparen opens] at opened
        obtain ⟨function, others⟩ := List.cons.inj opened
        exact ⟨before, token, [], ends, opens, .nil, function, others⟩
      by_cases closes : token.kind = .rparen
      · -- The parenthesis that is closed here was the innermost one, so the next one is looked for
        -- in front of it.
        rw [Mark.nest_of_rparen closes] at opened
        obtain ⟨closed, others⟩ : ∃ closed, openParens before = closed :: isFunction :: parens := by
          cases outer : openParens before with
          | nil => simp [outer] at opened
          | cons closed others => exact ⟨closed, by rw [← opened, outer]; rfl⟩
        obtain ⟨front, opening, inner, split, isOpening, balanced, -, still⟩ :=
          exists_of_openParens_eq_cons others
        have shorterFront : front.length < tokens.length := by
          rw [split] at shorter
          simp at shorter
          omega
        obtain ⟨outerFront, outer, outerInner, outerSplit, isOuter, outerBalanced, function,
          outerStill⟩ := exists_of_openParens_eq_cons still
        refine ⟨outerFront, outer, outerInner ++ opening :: (inner ++ [token]), ?_, isOuter,
          outerBalanced.append (.group isOpening closes balanced .nil), function, outerStill⟩
        rw [ends, split, outerSplit]
        simp
      · rw [Mark.nest_of_ne opens closes] at opened
        obtain ⟨front, opening, inner, split, isOpening, balanced, function, still⟩ :=
          exists_of_openParens_eq_cons opened
        refine ⟨front, opening, inner ++ [token], ?_, isOpening,
          balanced.append (.token opens closes .nil), function, still⟩
        rw [ends, split, List.append_assoc, List.cons_append]
termination_by tokens.length

/-- A scan is inside a function just if its innermost open parenthesis is the function's. -/
theorem head?_openParens_eq_true_iff {tokens : List Token} :
    (openParens tokens).head? = some true ↔ InsideFunction tokens := by
  constructor
  · intro innermost
    obtain ⟨parens, opened⟩ := List.head?_eq_some_iff.1 innermost
    obtain ⟨front, opening, inner, split, opens, balanced, function, -⟩ :=
      exists_of_openParens_eq_cons opened
    match List.eq_nil_or_concat' front with
    | .inl empty =>
        rw [empty] at function
        exact absurd function Bool.false_ne_true
    | .inr ⟨before, last, ends⟩ =>
        refine ⟨inner, before, last, opening, ?_, ?_, opens, balanced⟩
        · rw [split, ends, List.append_assoc]
          rfl
        · simpa [ends, Mark.endsInFunction] using function
  · rintro ⟨inner, front, function, opening, rfl, isFunction, opens, balanced⟩
    have split : front ++ function :: opening :: inner =
        (front ++ [function]) ++ [opening] ++ inner := by simp
    rw [split, openParens, Mark.ofTokens_append, List.foldl_append,
      balanced.foldl_nest (Mark.map_token_ofTokens _ _), ← openParens, openParens_concat,
      Mark.nest_of_lparen opens]
    simp [Mark.endsInFunction, isFunction]

instance (tokens : List Token) : Decidable (InsideFunction tokens) :=
  decidable_of_iff _ head?_openParens_eq_true_iff

end Scan
end SqlLineage
