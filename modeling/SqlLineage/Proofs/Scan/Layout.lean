import SqlLineage.Proofs.Scan.Tokens

/-!
# The layout of the tokens in a text

The tokens of a text stand in it one behind the other, none of them empty, with nothing but blanks
around them. So no character gets lost: the text is the literals of its tokens with the gaps between
them. Offsets count bytes, and all of them fall between two characters.
-/

namespace SqlLineage
namespace Scan

namespace Token

/-- The offset behind the token. -/
def stop (token : Token) : Nat :=
  token.offset + token.literal.utf8ByteSize

/-- A token stands in a text: its ends are positions of the text, each between two characters or at
an end, and its literal is what the text has between them. -/
structure StandsIn (token : Token) (text : String) : Prop where
  /-- The token begins at a position of the text. -/
  start_valid : (String.Pos.Raw.mk token.offset).IsValid text
  /-- The token ends at a position of the text. -/
  stop_valid : (String.Pos.Raw.mk token.stop).IsValid text
  /-- The bytes of the literal are those of the text between the two positions. -/
  bytes : text.toByteArray.extract token.offset token.stop = token.literal.toByteArray

theorem StandsIn.of_split
    {token : Token}
    {text : String}
    {before behind : List Char}
    (split : text.toList = before ++ (token.literal.toList ++ behind))
    (begins : token.offset = Text.byteLength before) :
    token.StandsIn text := by
  have whole : text = String.ofList before ++ token.literal ++ String.ofList behind := by
    rw [← String.ofList_toList (s := text), split, String.ofList_append, String.ofList_append,
      String.ofList_toList, String.append_assoc]
  have start : token.offset = (String.ofList before).utf8ByteSize := by
    rw [begins, Text.utf8ByteSize_ofList]
  have stop : token.stop = (String.ofList before ++ token.literal).utf8ByteSize := by
    rw [Token.stop, start, String.utf8ByteSize_append]
  constructor
  · rw [String.Pos.Raw.isValid_iff_exists_append]
    exact ⟨_, _, by rw [whole, String.append_assoc], congrArg String.Pos.Raw.mk start⟩
  · rw [String.Pos.Raw.isValid_iff_exists_append]
    exact ⟨_, _, whole, congrArg String.Pos.Raw.mk stop⟩
  · rw [stop, whole, String.toByteArray_append, ← String.size_toByteArray,
      ByteArray.extract_append_size_left, String.toByteArray_append,
      ByteArray.extract_append_eq_right start ByteArray.size_append]

end Token

/-- Tokens are laid out in a text that stands behind `front`: they are not empty, each stands at its
offset, and what is around them is blank. -/
inductive LaidOut : List Char → List Token → List Char → Prop
  /-- A text without tokens is blank. -/
  | nil {front gap : List Char}
      (blank : ∀ c ∈ gap, Text.isBlank c = true) :
      LaidOut front [] gap
  /-- Behind blanks stands a token, and behind it the other tokens. -/
  | cons {front gap literal rest : List Char} {others : List Token}
      (kind : Kind)
      (blank : ∀ c ∈ gap, Text.isBlank c = true)
      (nonempty : literal ≠ [])
      (behind : LaidOut (front ++ (gap ++ literal)) others rest) :
      LaidOut front (⟨kind, String.ofList literal, Text.byteLength (front ++ gap)⟩ :: others)
        (gap ++ (literal ++ rest))

namespace LaidOut

variable {front text : List Char} {laid : List Token}

/-- Blanks in front of a text belong to the gap in front of its first token. -/
theorem cons_blank
    {c : Char}
    (blankHead : Text.isBlank c = true)
    (laidOut : LaidOut (front ++ [c]) laid text) :
    LaidOut front laid (c :: text) := by
  cases laidOut with
  | nil blank => exact .nil (List.forall_mem_cons.2 ⟨blankHead, blank⟩)
  | @cons _ gap literal rest others kind blank nonempty behind =>
      have moved : LaidOut (front ++ (c :: gap ++ literal)) others rest := by
        simpa using behind
      have whole := moved.cons kind (List.forall_mem_cons.2 ⟨blankHead, blank⟩) nonempty
      simpa using whole

/-- The tokens of a text are laid out in it. -/
theorem tokensFrom (front text : List Char) :
    LaidOut front (tokensFrom (Text.byteLength front) text) text := by
  induction text using tokens_induction generalizing front with
  | nil =>
      rw [tokensFrom_nil]
      exact .nil (by simp)
  | blank c cs blank inductionHypothesis =>
      have behind := inductionHypothesis (front ++ [c])
      rw [Text.byteLength_append] at behind
      rw [tokensFrom_of_isBlank blank]
      exact behind.cons_blank blank
  | token c more rest visible ends inductionHypothesis =>
      have behind := inductionHypothesis (front ++ ([] ++ (c :: more)))
      have whole := behind.cons (measure c (more ++ rest)).1 (by simp) (List.cons_ne_nil c more)
      rw [List.append_nil, List.nil_append, List.nil_append, Text.byteLength_append] at whole
      rw [tokensFrom_cons_append visible ends]
      exact whole

/-- Each token stands in the text behind `front`, and it is not empty. -/
theorem exists_split
    (laidOut : LaidOut front laid text)
    {token : Token}
    (member : token ∈ laid) :
    token.literal.toList ≠ [] ∧
      ∃ before behind, front ++ text = before ++ (token.literal.toList ++ behind) ∧
        token.offset = Text.byteLength before ∧ Text.byteLength front ≤ token.offset := by
  induction laidOut with
  | nil => simp at member
  | @cons front gap literal rest others kind blank nonempty laidOut inductionHypothesis =>
      rcases List.mem_cons.1 member with rfl | member
      · refine ⟨by simpa using nonempty, front ++ gap, rest, by simp, rfl, ?_⟩
        rw [Text.byteLength_append]
        exact Nat.le_add_right _ _
      · obtain ⟨solid, before, behind, split, begins, bound⟩ := inductionHypothesis member
        refine ⟨solid, before, behind, by simpa using split, begins, ?_⟩
        rw [Text.byteLength_append] at bound
        exact Nat.le_of_add_right_le bound

/-- A token ends before all tokens behind it begin. -/
theorem pairwise_stop_le
    (laidOut : LaidOut front laid text) :
    laid.Pairwise fun token later => token.stop ≤ later.offset := by
  induction laidOut with
  | nil => exact .nil
  | @cons front gap literal rest others kind blank nonempty laidOut inductionHypothesis =>
      refine .cons (fun later member => ?_) inductionHypothesis
      obtain ⟨_, _, _, _, _, bound⟩ := laidOut.exists_split member
      rwa [← List.append_assoc, Text.byteLength_append, ← Text.utf8ByteSize_ofList literal] at bound

/-- A byte outside of the tokens belongs to a blank. -/
theorem exists_blank_of_outside
    (laidOut : LaidOut front laid text)
    {byte : Nat}
    (lower : Text.byteLength front ≤ byte)
    (upper : byte < Text.byteLength (front ++ text))
    (outside : ∀ token ∈ laid, byte < token.offset ∨ token.stop ≤ byte) :
    ∃ c, Text.isBlank c = true ∧ Text.ByteBelongsTo (front ++ text) byte c := by
  -- A byte of a gap belongs to one of its blanks.
  have inGap {front gap : List Char} (rest : List Char)
      (blank : ∀ c ∈ gap, Text.isBlank c = true)
      (lower : Text.byteLength front ≤ byte)
      (upper : byte < Text.byteLength (front ++ gap)) :
      ∃ c, Text.isBlank c = true ∧ Text.ByteBelongsTo (front ++ (gap ++ rest)) byte c := by
    have within : byte - Text.byteLength front < Text.byteLength gap := by
      rw [Text.byteLength_append] at upper
      omega
    obtain ⟨c, member, belongs⟩ := Text.exists_byteBelongsTo within
    have moved := belongs.append front rest
    rw [Nat.add_sub_cancel' lower] at moved
    exact ⟨c, blank c member, moved⟩
  induction laidOut with
  | @nil front gap blank =>
      simpa using inGap [] blank lower upper
  | @cons front gap literal rest others kind blank nonempty laidOut inductionHypothesis =>
      obtain ⟨outsideHead, outsideTail⟩ := List.forall_mem_cons.1 outside
      rcases outsideHead with inFront | behindToken
      · exact inGap _ blank lower inFront
      · have stop : Text.byteLength (front ++ (gap ++ literal)) ≤ byte := by
          rwa [Token.stop, Text.utf8ByteSize_ofList, ← Text.byteLength_append,
            List.append_assoc] at behindToken
        have split : front ++ (gap ++ (literal ++ rest)) = front ++ (gap ++ literal) ++ rest := by
          simp
        rw [split] at upper ⊢
        exact inductionHypothesis stop upper outsideTail

end LaidOut

/-! ## Gaps -/

/-- What stands in a text in front of tokens, between them and behind them, from an offset on. -/
def gaps (text : List Char) (start : Nat) : List Token → List (List Char)
  | [] => [Text.dropBytes start text]
  | token :: others => Text.byteSlice start token.offset text :: gaps text token.stop others

/-- The literals of tokens with gaps around them. -/
def interleave : List (List Char) → List Token → List Char
  | gap :: gaps, token :: others => gap ++ (token.literal.toList ++ interleave gaps others)
  | gaps, _ => gaps.flatten

/-- The gaps around tokens that are laid out are blank, and with the literals they are the text. -/
theorem LaidOut.interleave_gaps
    {front text : List Char}
    {laid : List Token}
    (laidOut : LaidOut front laid text) :
    (∀ gap ∈ gaps (front ++ text) (Text.byteLength front) laid,
        ∀ c ∈ gap, Text.isBlank c = true) ∧
      interleave (gaps (front ++ text) (Text.byteLength front) laid) laid = text := by
  induction laidOut with
  | @nil front gap blank =>
      rw [gaps, Text.dropBytes_append]
      exact ⟨by simpa using blank, by simp [interleave]⟩
  | @cons front gap literal rest others kind blank nonempty laidOut inductionHypothesis =>
      have slice := Text.byteSlice_append front gap (literal ++ rest)
      have stop : (Token.mk kind (String.ofList literal)
          (Text.byteLength (front ++ gap))).stop = Text.byteLength (front ++ (gap ++ literal)) := by
        rw [Token.stop, Text.utf8ByteSize_ofList, ← Text.byteLength_append, List.append_assoc]
      have split : front ++ (gap ++ literal) ++ rest = front ++ (gap ++ (literal ++ rest)) := by
        simp
      rw [split] at inductionHypothesis
      rw [gaps, stop, Text.byteLength_append, slice, interleave, String.toList_ofList,
        inductionHypothesis.2]
      exact ⟨List.forall_mem_cons.2 ⟨blank, inductionHypothesis.1⟩, rfl⟩

/-- **A scan loses nothing.** Every text has tokens. None of them is empty, and each is what the text
has between two positions, which are never within a character. Their offsets increase, and no two
of them overlap. A byte outside of all tokens belongs to a blank, so the gaps in front of the
tokens, between them and behind them are blank, and with the literals of the tokens they are the
text. -/
theorem tokens_cover_text (text : String) :
    (∀ token ∈ tokens text, token.literal ≠ "" ∧ token.StandsIn text) ∧
      (tokens text).Pairwise (fun token later =>
        token.offset < later.offset ∧ token.stop ≤ later.offset) ∧
      (∀ byte < text.utf8ByteSize,
        (∀ token ∈ tokens text, byte < token.offset ∨ token.stop ≤ byte) →
          ∃ c, Text.isBlank c = true ∧ Text.ByteBelongsTo text.toList byte c) ∧
      (∀ gap ∈ gaps text.toList 0 (tokens text), ∀ c ∈ gap, Text.isBlank c = true) ∧
      interleave (gaps text.toList 0 (tokens text)) (tokens text) = text.toList := by
  have laidOut : LaidOut [] (tokens text) text.toList := LaidOut.tokensFrom [] text.toList
  have solid (token : Token) (member : token ∈ tokens text) : token.literal ≠ "" := by
    rw [Ne, ← String.toList_eq_nil_iff]
    exact (laidOut.exists_split member).1
  refine ⟨fun token member => ⟨solid token member, ?_⟩, ?_, ?_, laidOut.interleave_gaps⟩
  · obtain ⟨_, before, behind, split, begins, _⟩ := laidOut.exists_split member
    exact .of_split split begins
  · refine laidOut.pairwise_stop_le.imp_of_mem fun {token later} member _ bound => ⟨?_, bound⟩
    have positive : 0 < token.literal.utf8ByteSize := by
      rw [Nat.pos_iff_ne_zero, Ne, String.utf8ByteSize_eq_zero_iff]
      exact solid token member
    rw [Token.stop] at bound
    omega
  · intro byte within outside
    rw [← Text.byteLength_toList] at within
    exact laidOut.exists_blank_of_outside (Nat.zero_le _) within outside

end Scan
end SqlLineage
