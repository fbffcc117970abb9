import SqlLineage.Proofs.Scan.Tokens
import SqlLineage.Scan.Script

/-!
# The parts of a script

The semicolon tokens of a script divide it into parts, and each part has the tokens by itself that
it has in the script. No part holds a semicolon token, so that dividing it again gives the part
itself.
-/

namespace SqlLineage
namespace Scan

/-! ## Parts and their tokens -/

/-- The tokens of parts with semicolons between them, behind `offset` bytes. -/
def tokensOfParts (offset : Nat) : List (List Char) → List Token
  | [] => []
  | [part] => tokensFrom offset part
  | part :: next :: parts =>
    tokensFrom offset part ++
      ⟨.semicolon, ";", offset + Text.byteLength part⟩ ::
        tokensOfParts (offset + Text.byteLength part + 1) (next :: parts)

/-- A text without semicolon tokens. -/
def Undivided (text : List Char) : Prop :=
  ∀ token ∈ tokensFrom 0 text, token.kind ≠ .semicolon

/-- Parts are what the semicolon tokens of a text leave of it. -/
structure Divides (parts : List (List Char)) (text : List Char) : Prop where
  /-- There is a part behind the last semicolon. -/
  nonempty : parts ≠ []
  /-- With semicolons between them the parts are the text. -/
  joined : [';'].intercalate parts = text
  /-- The tokens of the text are those of the parts and the semicolons between them. -/
  tokens_eq : tokensFrom 0 text = tokensOfParts 0 parts
  /-- No part has a semicolon token. -/
  undivided : ∀ part ∈ parts, Undivided part

theorem Undivided.of_offset
    {text : List Char}
    (undivided : Undivided text)
    {offset : Nat}
    {token : Token}
    (member : token ∈ tokensFrom offset text) :
    token.kind ≠ .semicolon := by
  rw [tokensFrom_eq_map_shift] at member
  obtain ⟨unmoved, inText, rfl⟩ := List.mem_map.1 member
  exact undivided unmoved inText

theorem Divides.singleton
    {text : List Char}
    (undivided : Undivided text) :
    Divides [text] text where
  nonempty := List.cons_ne_nil _ _
  joined := by simp
  tokens_eq := rfl
  undivided := by simpa using undivided

theorem tokensOfParts_add (distance offset : Nat) (parts : List (List Char)) :
    tokensOfParts (distance + offset) parts =
      (tokensOfParts offset parts).map (Token.shift distance) := by
  fun_induction tokensOfParts offset parts with
  | case1 => rfl
  | case2 offset part => exact tokensFrom_add distance offset part
  | case3 offset part next parts inductionHypothesis =>
      rw [tokensOfParts, tokensFrom_add, Nat.add_assoc, Nat.add_assoc, inductionHypothesis]
      simp [Token.shift]

/-- What is read in front of the first part is read in front of all. -/
theorem tokensOfParts_append
    {front part : List Char}
    {read : List Token}
    {offset : Nat}
    (extends_ : tokensFrom offset (front ++ part) =
      read ++ tokensFrom (offset + Text.byteLength front) part)
    (parts : List (List Char)) :
    tokensOfParts offset ((front ++ part) :: parts) =
      read ++ tokensOfParts (offset + Text.byteLength front) (part :: parts) := by
  cases parts with
  | nil => exact extends_
  | cons next parts => simp [tokensOfParts, extends_, Nat.add_assoc]

/-- Characters that end where a token ends, or are a blank, go to the first part. -/
theorem Divides.append
    {part rest : List Char}
    {parts : List (List Char)}
    (divides : Divides (part :: parts) rest)
    (front : List Char)
    (read : List Token)
    (inText : tokensFrom 0 (front ++ rest) =
      read ++ tokensFrom (Text.byteLength front) rest)
    (inPart : tokensFrom 0 (front ++ part) =
      read ++ tokensFrom (Text.byteLength front) part)
    (noSemicolon : ∀ token ∈ read, token.kind ≠ .semicolon) :
    Divides ((front ++ part) :: parts) (front ++ rest) where
  nonempty := List.cons_ne_nil _ _
  joined := by
    rw [← divides.joined]
    cases parts <;> simp
  tokens_eq := by
    have shifted := tokensOfParts_add (Text.byteLength front) 0 (part :: parts)
    rw [inText, tokensOfParts_append (by simpa using inPart), Nat.zero_add,
      tokensFrom_eq_map_shift, divides.tokens_eq, ← shifted]
    rfl
  undivided := by
    have ⟨head, tail⟩ := List.forall_mem_cons.1 divides.undivided
    refine List.forall_mem_cons.2 ⟨fun token member => ?_, tail⟩
    rw [inPart] at member
    exact (List.mem_append.1 member).elim (noSemicolon token) head.of_offset

/-- A semicolon in front of a text divides it from an empty part. -/
theorem Divides.cons_semicolon
    {part rest : List Char}
    {parts : List (List Char)}
    (divides : Divides (part :: parts) rest) :
    Divides ([] :: part :: parts) (';' :: rest) where
  nonempty := List.cons_ne_nil _ _
  joined := by
    rw [← divides.joined]
    simp
  tokens_eq := by
    have shifted := tokensOfParts_add 1 0 (part :: parts)
    rw [tokensFrom_of_visible (by decide), measure_semicolon, tokensOfParts, tokensFrom_nil]
    simp only [List.take_zero, List.drop_zero, List.nil_append]
    rw [tokensFrom_eq_map_shift, divides.tokens_eq, List.cons.injEq]
    exact ⟨rfl, shifted.symm⟩
  undivided := List.forall_mem_cons.2 ⟨by simp [Undivided], divides.undivided⟩

theorem Divides.exists_append
    {part text : List Char}
    {parts : List (List Char)}
    (divides : Divides (part :: parts) text) :
    ∃ rest, text = part ++ rest := by
  rw [← divides.joined]
  cases parts <;> simp

theorem exists_divides (text : List Char) : ∃ parts, Divides parts text := by
  induction text using tokens_induction with
  | nil => exact ⟨[[]], .singleton (by simp [Undivided])⟩
  | blank c cs blank inductionHypothesis =>
      obtain ⟨parts, divides⟩ := inductionHypothesis
      obtain ⟨part, parts, rfl⟩ := List.exists_cons_of_ne_nil divides.nonempty
      refine ⟨_, divides.append [c] [] ?_ ?_ (by simp)⟩ <;>
        simp [tokensFrom_of_isBlank blank]
  | token c more rest visible ends inductionHypothesis =>
      obtain ⟨parts, divides⟩ := inductionHypothesis
      obtain ⟨part, parts, rfl⟩ := List.exists_cons_of_ne_nil divides.nonempty
      by_cases semicolon : c = ';'
      · subst semicolon
        obtain rfl : more = [] := by
          rw [← List.length_eq_zero_iff, ← ends, measure_semicolon]
        exact ⟨_, divides.cons_semicolon⟩
      · obtain ⟨behind, rfl⟩ := divides.exists_append
        have alone : measure c (more ++ part) = measure c (more ++ (part ++ behind)) := by
          rw [← List.append_assoc] at ends ⊢
          apply measure_front_of_le
          rw [ends, List.length_append]
          omega
        have inText := tokensFrom_cons_append visible ends 0
        have inPart := tokensFrom_cons_append visible (alone ▸ ends) 0
        refine ⟨_, divides.append (c :: more) [_]
          (by simpa using inText) (by simpa [alone] using inPart) ?_⟩
        rw [List.forall_mem_singleton]
        exact mt measure_fst_eq_semicolon semicolon

end Scan
end SqlLineage
