import SqlLineage.Proofs.Scan.Layout

/-!
# Where a scan may start again

A scan remembers nothing between two tokens, and a token does not depend on what stands behind it.
So a text may be cut wherever no token is cut: its tokens are those of the front and behind them
those of the back. In particular it may be cut behind each of its tokens, and a token is read alone
as it is read in the text.
-/

namespace SqlLineage
namespace Scan

/-- The first token of a text is that of a front in which it ends. -/
theorem tokensFrom_cons_front
    {c : Char}
    {more front back : List Char}
    (visible : Text.isBlank c = false)
    (ends : (measure c (more ++ (front ++ back))).2 = more.length)
    (offset : Nat) :
    tokensFrom offset (c :: (more ++ front)) =
      ⟨(measure c (more ++ (front ++ back))).1, String.ofList (c :: more), offset⟩ ::
        tokensFrom (offset + Text.byteLength (c :: more)) front := by
  have same : measure c (more ++ front) = measure c (more ++ (front ++ back)) := by
    rw [← List.append_assoc] at ends ⊢
    apply measure_front_of_le
    rw [ends, List.length_append]
    exact Nat.le_add_right _ _
  rw [tokensFrom_cons_append visible (same ▸ ends), same]

/-- A token is read alone as it is read in a text. -/
theorem tokensFrom_literal
    {offset : Nat}
    {text : List Char}
    {token : Token}
    (member : token ∈ tokensFrom offset text)
    (moved : Nat) :
    tokensFrom moved token.literal.toList = [{ token with offset := moved }] := by
  induction text using tokens_induction generalizing offset with
  | nil => simp at member
  | blank c cs blank inductionHypothesis =>
      rw [tokensFrom_of_isBlank blank] at member
      exact inductionHypothesis member
  | token c more rest visible ends inductionHypothesis =>
      rw [tokensFrom_cons_append visible ends] at member
      rcases List.mem_cons.1 member with rfl | member
      · have alone : tokensFrom moved (c :: (more ++ [])) = _ :=
          tokensFrom_cons_front visible ends moved
        rw [List.append_nil, tokensFrom_nil] at alone
        rw [String.toList_ofList, alone, List.nil_append]
      · exact inductionHypothesis member

/-! ## Boundaries -/

/-- `Boundary front back`: no token of `front ++ back` goes on from `front` into `back`. -/
inductive Boundary : List Char → List Char → Prop
  /-- The beginning of a text. -/
  | start (back : List Char) : Boundary [] back
  /-- A boundary behind a blank. -/
  | blank {c : Char} {front back : List Char}
      (isBlank : Text.isBlank c = true)
      (boundary : Boundary front back) :
      Boundary (c :: front) back
  /-- A boundary behind a token. -/
  | token {c : Char} {more front back : List Char}
      (visible : Text.isBlank c = false)
      (ends : (measure c (more ++ (front ++ back))).2 = more.length)
      (boundary : Boundary front back) :
      Boundary (c :: (more ++ front)) back

/-- A scan may start again at a boundary. -/
theorem Boundary.tokensFrom_append
    {front back : List Char}
    (boundary : Boundary front back)
    (offset : Nat) :
    tokensFrom offset (front ++ back) =
      tokensFrom offset front ++ tokensFrom (offset + Text.byteLength front) back := by
  induction boundary generalizing offset with
  | start back => simp
  | blank isBlank boundary inductionHypothesis =>
      rw [List.cons_append, tokensFrom_of_isBlank isBlank, tokensFrom_of_isBlank isBlank,
        inductionHypothesis, Text.byteLength_cons, Nat.add_assoc]
  | @token c more front back visible ends boundary inductionHypothesis =>
      have length : Text.byteLength (c :: (more ++ front)) =
          Text.byteLength (c :: more) + Text.byteLength front :=
        Text.byteLength_append (c :: more) front
      rw [List.cons_append, List.append_assoc, tokensFrom_cons_append visible ends,
        tokensFrom_cons_front visible ends, inductionHypothesis, length, Nat.add_assoc,
        List.cons_append]

/-- There is a boundary behind each token of a text. -/
theorem exists_boundary_of_mem
    {offset : Nat}
    {text : List Char}
    {token : Token}
    (member : token ∈ tokensFrom offset text) :
    ∃ front back, text = front ++ back ∧ token.stop = offset + Text.byteLength front ∧
      Boundary front back := by
  induction text using tokens_induction generalizing offset with
  | nil => simp at member
  | blank c cs blank inductionHypothesis =>
      rw [tokensFrom_of_isBlank blank] at member
      obtain ⟨front, back, rfl, stop, boundary⟩ := inductionHypothesis member
      refine ⟨c :: front, back, rfl, ?_, .blank blank boundary⟩
      rw [stop, Text.byteLength_cons, Nat.add_assoc]
  | token c more rest visible ends inductionHypothesis =>
      rw [tokensFrom_cons_append visible ends] at member
      rcases List.mem_cons.1 member with rfl | member
      · refine ⟨c :: (more ++ []), rest, by simp, ?_, .token visible ends (.start rest)⟩
        rw [Token.stop, Text.utf8ByteSize_ofList, List.append_nil]
      · obtain ⟨front, back, rfl, stop, boundary⟩ := inductionHypothesis member
        refine ⟨c :: (more ++ front), back, by simp, ?_, .token visible ends boundary⟩
        rw [stop, Nat.add_assoc, ← Text.byteLength_append, List.cons_append]

/-- **A scan may start again behind each token.** The offset behind a token is a position of the
text. If the text is cut there, its tokens are those of the front, and behind them those of the back
moved by the length of the front. The token alone is read as a single token of its kind. -/
theorem tokens_restart_behind_token
    {text : String}
    {token : Token}
    (member : token ∈ tokens text) :
    (String.Pos.Raw.mk token.stop).IsValid text ∧
      (∀ front back, text = front ++ back → front.utf8ByteSize = token.stop →
        tokens text = tokens front ++ (tokens back).map (Token.shift token.stop)) ∧
      tokens token.literal = [{ token with offset := 0 }] := by
  obtain ⟨front, back, split, stop, boundary⟩ := exists_boundary_of_mem member
  rw [Nat.zero_add] at stop
  have whole : text = String.ofList front ++ String.ofList back := by
    rw [← String.ofList_append, ← split, String.ofList_toList]
  refine ⟨?_, ?_, tokensFrom_literal member 0⟩
  · rw [String.Pos.Raw.isValid_iff_exists_append]
    refine ⟨_, _, whole, ?_⟩
    rw [stop, ← Text.utf8ByteSize_ofList]
    rfl
  · intro first second cut size
    have same : first.toList ++ second.toList = front ++ back := by
      rw [← String.toList_append, ← cut, split]
    have length : Text.byteLength first.toList = Text.byteLength front := by
      rw [Text.byteLength_toList, size, stop]
    obtain ⟨rfl, rfl⟩ := Text.eq_and_eq_of_append_eq_append same length
    rw [tokens, split, boundary.tokensFrom_append, Nat.zero_add, ← stop,
      tokensFrom_eq_map_shift token.stop]
    rfl

/-- A text whose tokens stand close together. -/
def tightText : String :=
  "a-/*;*/#t--x\n[y]]z]@"

theorem tokens_restart_behind_quotedIdent_of_tightText :
    let token : Token := ⟨.quotedIdent, "[y]]z]", 13⟩
    token ∈ tokens tightText ∧
      tokens tightText = tokens "a-/*;*/#t--x\n[y]]z]" ++ (tokens "@").map (Token.shift 19) ∧
      tokens "[y]]z]" = [⟨.quotedIdent, "[y]]z]", 0⟩] := by
  intro token
  have member : token ∈ tokens tightText := by decide +kernel
  obtain ⟨-, restart, alone⟩ := tokens_restart_behind_token member
  exact ⟨member, restart _ _ rfl rfl, alone⟩

end Scan
end SqlLineage
