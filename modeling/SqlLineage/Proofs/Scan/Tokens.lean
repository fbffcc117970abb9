import Mathlib.Data.List.Forall2
import SqlLineage.Proofs.Scan.FirstToken
import SqlLineage.Proofs.Text.Bytes
import SqlLineage.Proofs.Text.Trim

/-!
# The tokens of a text

A text is read token by token, and blanks between tokens are passed over. What stands in front of a
text moves its tokens, and what stands behind it does not change those that end in it. Blanks at the
end of a text add nothing but to the literal of the last token.
-/

namespace SqlLineage
namespace Scan

@[simp] theorem tokensFrom_nil (offset : Nat) : tokensFrom offset [] = [] := by
  rw [tokensFrom]

theorem tokensFrom_of_isBlank
    {c : Char}
    (blank : Text.isBlank c = true)
    (offset : Nat)
    (cs : List Char) :
    tokensFrom offset (c :: cs) = tokensFrom (offset + c.utf8Size) cs := by
  rw [tokensFrom, if_pos blank]

theorem tokensFrom_of_visible
    {c : Char}
    (visible : Text.isBlank c = false)
    (offset : Nat)
    (cs : List Char) :
    tokensFrom offset (c :: cs) =
      ⟨(measure c cs).1, String.ofList (c :: cs.take (measure c cs).2), offset⟩ ::
        tokensFrom (offset + Text.byteLength (c :: cs.take (measure c cs).2))
          (cs.drop (measure c cs).2) := by
  rw [tokensFrom, if_neg (by simp [visible])]

/-- The first token of a text and the tokens behind it. -/
theorem tokensFrom_cons_append
    {c : Char}
    {more rest : List Char}
    (visible : Text.isBlank c = false)
    (ends : (measure c (more ++ rest)).2 = more.length)
    (offset : Nat) :
    tokensFrom offset (c :: (more ++ rest)) =
      ⟨(measure c (more ++ rest)).1, String.ofList (c :: more), offset⟩ ::
        tokensFrom (offset + Text.byteLength (c :: more)) rest := by
  rw [tokensFrom_of_visible visible, ends, List.take_left, List.drop_left]

/-- What goes from behind a blank, and from behind the first token, to a text holds of all texts. -/
theorem tokens_induction
    {motive : List Char → Prop}
    (nil : motive [])
    (blank : ∀ c cs, Text.isBlank c = true → motive cs → motive (c :: cs))
    (token : ∀ c more rest, Text.isBlank c = false →
      (measure c (more ++ rest)).2 = more.length → motive rest → motive (c :: (more ++ rest)))
    (text : List Char) :
    motive text := by
  match text with
  | [] => exact nil
  | c :: cs =>
      cases visible : Text.isBlank c with
      | true => exact blank c cs visible (tokens_induction nil blank token cs)
      | false =>
          have ends : (measure c cs).2 = (cs.take (measure c cs).2).length := by
            rw [List.length_take, Nat.min_eq_left (measure_le c cs)]
          have whole := token c (cs.take (measure c cs).2) (cs.drop (measure c cs).2) visible
            (by rwa [List.take_append_drop])
            (tokens_induction nil blank token (cs.drop (measure c cs).2))
          rwa [List.take_append_drop] at whole
termination_by text.length
decreasing_by
  · rw [List.length_drop, List.length_cons]
    omega
  · exact Nat.lt_succ_self _

/-- A word does not end in a blank. -/
theorem trimEnd_literal_of_word
    {offset : Nat}
    {text : List Char}
    {token : Token}
    (member : token ∈ tokensFrom offset text)
    (word : token.kind = .word) :
    Text.trimEnd token.literal = token.literal := by
  induction text using tokens_induction generalizing offset with
  | nil => simp at member
  | blank c cs blank inductionHypothesis =>
      rw [tokensFrom_of_isBlank blank] at member
      exact inductionHypothesis member
  | token c more rest visible ends inductionHypothesis =>
      rw [tokensFrom_cons_append visible ends] at member
      rcases List.mem_cons.1 member with rfl | member
      · have inWord (d : Char) (inMore : d ∈ more) : continuesWord d = true :=
          continuesWord_of_measure word (by rwa [ends, List.take_left])
        have solid : ∀ d ∈ c :: more, Text.isBlank d = false := by
          refine List.forall_mem_cons.2 ⟨visible, fun d inMore => ?_⟩
          rw [Bool.eq_false_iff]
          intro blank
          exact absurd (inWord d inMore) (by simp [continuesWord_of_isBlank blank])
        rw [Text.trimEnd, String.toList_ofList, Text.trimEndList_of_visible solid]
      · exact inductionHypothesis member

/-- Only the last token of a text can be a quoted name that ends in a blank. -/
theorem trimEnd_literal_of_quotedIdent
    {offset : Nat}
    {text : List Char}
    (last : ∀ token ∈ (tokensFrom offset text).getLast?, token.kind = .quotedIdent →
      Text.trimEnd token.literal = token.literal) :
    ∀ token ∈ tokensFrom offset text, token.kind = .quotedIdent →
      Text.trimEnd token.literal = token.literal := by
  induction text using tokens_induction generalizing offset with
  | nil => simp
  | blank c cs blank inductionHypothesis =>
      rw [tokensFrom_of_isBlank blank] at last ⊢
      exact inductionHypothesis last
  | token c more rest visible ends inductionHypothesis =>
      rw [tokensFrom_cons_append visible ends] at last ⊢
      cases behind : tokensFrom (offset + Text.byteLength (c :: more)) rest with
      | nil =>
          rw [behind] at last
          exact List.forall_mem_singleton.2 (last _ rfl)
      | cons next others =>
          rw [behind, List.getLast?_cons_cons, ← behind] at last
          refine List.forall_mem_cons.2 ⟨fun quoted => ?_, behind ▸ inductionHypothesis last⟩
          have closes : (measure c (more ++ rest)).2 < (more ++ rest).length := by
            have nonempty : rest ≠ [] := by
              rintro rfl
              simp at behind
            have positive := List.length_pos_iff.2 nonempty
            rw [ends, List.length_append]
            omega
          obtain ⟨inner, closer, solid, taken⟩ := exists_visible_of_measure quoted closes
          rw [ends, List.take_left] at taken
          rw [Text.trimEnd, String.toList_ofList, taken, ← List.cons_append,
            Text.trimEndList_concat _ solid]

namespace Token

/-- The token behind `distance` more bytes. -/
def shift (distance : Nat) (token : Token) : Token :=
  { token with offset := distance + token.offset }

@[simp] theorem isComment_shift (distance : Nat) (token : Token) :
    (token.shift distance).isComment = token.isComment := rfl

/-- Another token is the same but for its place and for blanks at the end of its literal. -/
structure PaddedTo (token padded : Token) : Prop where
  /-- The token keeps its kind. -/
  kind : padded.kind = token.kind
  /-- The literal has more blanks. -/
  literal : ∃ blanks, (∀ c ∈ blanks, Text.isBlank c = true) ∧
    padded.literal.toList = token.literal.toList ++ blanks

end Token

/-- Bytes in front of a text move its tokens and change nothing else. -/
theorem tokensFrom_add (distance offset : Nat) (text : List Char) :
    tokensFrom (distance + offset) text = (tokensFrom offset text).map (Token.shift distance) := by
  induction text using tokens_induction generalizing offset with
  | nil => simp
  | blank c cs blank inductionHypothesis =>
      rw [tokensFrom_of_isBlank blank, tokensFrom_of_isBlank blank, Nat.add_assoc,
        inductionHypothesis]
  | token c more rest visible ends inductionHypothesis =>
      rw [tokensFrom_cons_append visible ends, tokensFrom_cons_append visible ends,
        Nat.add_assoc, inductionHypothesis]
      rfl

theorem tokensFrom_eq_map_shift (offset : Nat) (text : List Char) :
    tokensFrom offset text = (tokensFrom 0 text).map (Token.shift offset) :=
  tokensFrom_add offset 0 text

/-- Blanks in front of a text move its tokens. -/
theorem tokensFrom_blank_append
    {blanks : List Char}
    (blank : ∀ c ∈ blanks, Text.isBlank c = true)
    (offset : Nat)
    (text : List Char) :
    tokensFrom offset (blanks ++ text) =
      tokensFrom (offset + Text.byteLength blanks) text := by
  induction blanks generalizing offset with
  | nil => simp
  | cons c blanks inductionHypothesis =>
      obtain ⟨head, tail⟩ := List.forall_mem_cons.1 blank
      rw [List.cons_append, tokensFrom_of_isBlank head, inductionHypothesis tail,
        Text.byteLength_cons, Nat.add_assoc]

theorem tokensFrom_of_blank
    {blanks : List Char}
    (blank : ∀ c ∈ blanks, Text.isBlank c = true)
    (offset : Nat) :
    tokensFrom offset blanks = [] := by
  have read := tokensFrom_blank_append blank offset []
  rwa [List.append_nil, tokensFrom_nil] at read

/-- Blanks behind a text add nothing to its tokens but blanks at the end of a literal. -/
theorem paddedTo_tokensFrom_append
    {blanks : List Char}
    (blank : ∀ c ∈ blanks, Text.isBlank c = true)
    (offset moved : Nat)
    (text : List Char) :
    List.Forall₂ Token.PaddedTo (tokensFrom offset text) (tokensFrom moved (text ++ blanks)) := by
  induction text using tokens_induction generalizing offset moved with
  | nil =>
      rw [List.nil_append, tokensFrom_of_blank blank, tokensFrom_nil]
      exact .nil
  | blank c cs blankHead inductionHypothesis =>
      rw [List.cons_append, tokensFrom_of_isBlank blankHead, tokensFrom_of_isBlank blankHead]
      exact inductionHypothesis _ _
  | token c more rest visible ends inductionHypothesis =>
      have alone := measure_front_of_blank c (more ++ rest) blank
      have cut := congrArg Prod.snd alone
      rw [ends] at cut
      by_cases within : (measure c (more ++ rest ++ blanks)).2 ≤ (more ++ rest).length
      · have same := measure_front_of_le within
        rw [List.append_assoc] at same
        rw [List.cons_append, List.append_assoc, tokensFrom_cons_append visible ends,
          tokensFrom_cons_append visible (same ▸ ends), same]
        exact .cons ⟨rfl, [], by simp, by simp⟩ (inductionHypothesis _ _)
      · -- The token takes blanks, so that nothing but blanks stands behind it.
        obtain rfl : rest = [] := by
          rw [← List.length_eq_zero_iff]
          simp only [List.length_append] at cut within
          omega
        rw [List.append_nil] at alone cut within ends ⊢
        obtain ⟨taken, left, rfl, length⟩ : ∃ taken left, blanks = taken ++ left ∧
            (measure c (more ++ blanks)).2 = (more ++ taken).length := by
          have bound := measure_le c (more ++ blanks)
          refine ⟨blanks.take ((measure c (more ++ blanks)).2 - more.length), blanks.drop _,
            (List.take_append_drop _ _).symm, ?_⟩
          simp only [List.length_append, List.length_take] at bound ⊢
          omega
        obtain ⟨blankTaken, blankLeft⟩ := List.forall_mem_append.1 blank
        rw [← List.append_assoc] at length
        rw [List.cons_append, ← List.append_assoc, tokensFrom_cons_append visible length,
          tokensFrom_of_blank blankLeft]
        have whole : tokensFrom offset (c :: (more ++ [])) = _ :: tokensFrom _ [] :=
          tokensFrom_cons_append visible (by simpa using ends) offset
        rw [List.append_nil, tokensFrom_nil] at whole
        rw [whole, alone, List.append_assoc]
        exact .cons ⟨rfl, taken, blankTaken, by simp⟩ .nil

end Scan
end SqlLineage
