import SqlLineage.Proofs.Scan.ScriptParts
import SqlLineage.Scan.Script

/-!
# The statements of a script

The statements of a script are its parts that hold a token that is no comment, and those that hold
comments only if comments are asked for. Each has the text of its part without the blanks around it,
and its line is counted in what stands in front of that text.
-/

namespace SqlLineage
namespace Scan

/-- A part of a script and what stands in front of it. -/
structure Part where
  /-- The characters in front of the part. -/
  before : List Char
  /-- The characters of the part. -/
  text : List Char

namespace Part

/-- Whether the part holds a token that is no comment. -/
def hasCode (part : Part) : Bool :=
  (tokensFrom 0 part.text).any fun token => !token.isComment

/-- Whether the part holds a comment. -/
def hasComment (part : Part) : Bool :=
  (tokensFrom 0 part.text).any fun token => token.isComment

/-- Whether the part is a statement. -/
def counts (part : Part) (includeComments : Bool) : Bool :=
  part.hasCode || (part.hasComment && includeComments)

/-- The statement that the part is, if `index` statements come before it. -/
def statement (index : Nat) (part : Part) : Statement where
  index := index
  sql := Text.trim (String.ofList part.text)
  startLine := 1 + (part.before ++ part.text.takeWhile Text.isBlank).count '\n'
  commentOnly := !part.hasCode

/-- The offset of the part and what it holds. -/
def piece (part : Part) : Piece :=
  ⟨Text.byteLength part.before, part.hasCode, part.hasComment⟩

/-- The offset behind the part. -/
def stop (part : Part) : Nat :=
  Text.byteLength part.before + Text.byteLength part.text

/-- The parts of a text, each with what stands in front of it. -/
def place (before : List Char) : List (List Char) → List Part
  | [] => []
  | text :: texts => ⟨before, text⟩ :: place (before ++ text ++ [';']) texts

theorem statement_piece
    (part : Part)
    (index : Nat)
    (behind : List Char) :
    part.piece.statement (part.before ++ (part.text ++ behind)) index part.stop =
      part.statement index := by
  have before := Text.takeBytes_append part.before (part.text ++ behind)
  have text := Text.byteSlice_append part.before part.text behind
  simp only [Piece.statement, piece, stop, before, text, statement, Nat.add_comm 1,
    List.count_eq_length_filter]

theorem exists_behind_of_mem_place
    {before : List Char}
    {texts : List (List Char)}
    {part : Part}
    (member : part ∈ place before texts) :
    ∃ behind, before ++ [';'].intercalate texts = part.before ++ (part.text ++ behind) := by
  induction texts generalizing before with
  | nil => simp [place] at member
  | cons text texts inductionHypothesis =>
      rcases List.mem_cons.1 member with rfl | member
      · cases texts <;> simp
      · obtain ⟨behind, split⟩ := inductionHypothesis member
        cases texts with
        | nil => simp [place] at member
        | cons next texts => exact ⟨behind, by simpa using split⟩

theorem text_mem_of_mem_place
    {before : List Char}
    {texts : List (List Char)}
    {part : Part}
    (member : part ∈ place before texts) :
    part.text ∈ texts := by
  induction texts generalizing before with
  | nil => simp [place] at member
  | cons text texts inductionHypothesis =>
      rcases List.mem_cons.1 member with rfl | member
      · exact List.mem_cons_self
      · exact List.mem_cons_of_mem _ (inductionHypothesis member)

end Part

/-! ## Pieces are parts -/

namespace Piece

theorem foldl_add (piece : Piece) (tokens : List Token) :
    tokens.foldl add piece =
      ⟨piece.start, piece.hasCode || tokens.any fun token => !token.isComment,
        piece.hasComment || tokens.any fun token => token.isComment⟩ := by
  induction tokens generalizing piece with
  | nil => simp
  | cons token tokens inductionHypothesis =>
      cases comment : token.isComment <;>
        simp [inductionHypothesis, add, comment]

end Piece

theorem pieces_of_undivided
    {tokens : List Token}
    (undivided : ∀ token ∈ tokens, token.kind ≠ .semicolon)
    (stop : Nat)
    (piece : Piece) :
    pieces stop piece tokens = [(tokens.foldl Piece.add piece, stop)] := by
  induction tokens generalizing piece with
  | nil => rfl
  | cons token tokens inductionHypothesis =>
      obtain ⟨head, tail⟩ := List.forall_mem_cons.1 undivided
      rw [pieces, if_neg (by simpa using head), inductionHypothesis tail]
      rfl

theorem pieces_append
    {tokens : List Token}
    (undivided : ∀ token ∈ tokens, token.kind ≠ .semicolon)
    (stop : Nat)
    (piece : Piece)
    {semicolon : Token}
    (ends : semicolon.kind = .semicolon)
    (others : List Token) :
    pieces stop piece (tokens ++ semicolon :: others) =
      (tokens.foldl Piece.add piece, semicolon.offset) ::
        pieces stop (.begin (semicolon.offset + Text.byteLength semicolon.literal.toList))
          others := by
  induction tokens generalizing piece with
  | nil => simp [pieces, ends]
  | cons token tokens inductionHypothesis =>
      obtain ⟨head, tail⟩ := List.forall_mem_cons.1 undivided
      rw [List.cons_append, pieces, if_neg (by simpa using head), inductionHypothesis tail]
      rfl

/-- The tokens of a part that begins behind `before` make up its piece. -/
theorem foldl_add_tokensFrom (part : Part) :
    (tokensFrom (Text.byteLength part.before) part.text).foldl Piece.add
      (.begin (Text.byteLength part.before)) = part.piece := by
  rw [Piece.foldl_add, tokensFrom_eq_map_shift, List.any_map, List.any_map]
  simp [Piece.begin, Part.piece, Part.hasCode, Part.hasComment, Function.comp_def]

/-- The pieces of a script are its parts. -/
theorem pieces_tokensOfParts
    {texts : List (List Char)}
    (undivided : ∀ text ∈ texts, Undivided text)
    (nonempty : texts ≠ [])
    (before : List Char) :
    pieces (Text.byteLength (before ++ [';'].intercalate texts))
        (.begin (Text.byteLength before)) (tokensOfParts (Text.byteLength before) texts) =
      (Part.place before texts).map fun part => (part.piece, part.stop) := by
  induction texts generalizing before with
  | nil => exact absurd rfl nonempty
  | cons text texts inductionHypothesis =>
      obtain ⟨head, tail⟩ := List.forall_mem_cons.1 undivided
      have inText (token) (member : token ∈ tokensFrom (Text.byteLength before) text) :=
        head.of_offset member
      cases texts with
      | nil =>
          rw [tokensOfParts, pieces_of_undivided inText, foldl_add_tokensFrom ⟨before, text⟩]
          simp [Part.place, Part.stop]
      | cons next texts =>
          have others := inductionHypothesis tail (List.cons_ne_nil _ _) (before ++ text ++ [';'])
          have joined : before ++ [';'].intercalate (text :: next :: texts) =
              before ++ text ++ [';'] ++ [';'].intercalate (next :: texts) := by simp
          have start : Text.byteLength (before ++ text ++ [';']) =
              Text.byteLength before + Text.byteLength text + 1 := by
            rw [Text.byteLength_append, Text.byteLength_append]
            rfl
          have width : Text.byteLength ";".toList = 1 := by decide
          rw [start] at others
          rw [joined, tokensOfParts, pieces_append inText _ _ rfl,
            foldl_add_tokensFrom ⟨before, text⟩, Part.place, List.map_cons, ← others, width]
          rfl

/-! ## The statements of a script -/

theorem number_map
    {script : List Char}
    {parts : List Part}
    (within : ∀ part ∈ parts, ∃ behind, script = part.before ++ (part.text ++ behind))
    (index : Nat) :
    number script index (parts.map fun part => (part.piece, part.stop)) =
      parts.mapIdx fun i part => part.statement (index + i) := by
  induction parts generalizing index with
  | nil => rfl
  | cons part parts inductionHypothesis =>
      obtain ⟨⟨behind, split⟩, tail⟩ := List.forall_mem_cons.1 within
      have head : part.piece.statement script index part.stop = part.statement index := by
        rw [split, part.statement_piece]
      rw [List.map_cons, number, head, inductionHypothesis tail, List.mapIdx_cons]
      simp only [Nat.add_zero, Nat.add_assoc, Nat.add_comm 1]

/-- The statements of a script are those of its parts that count. -/
theorem statements_eq
    {script : String}
    {texts : List (List Char)}
    (divides : Divides texts script.toList)
    (includeComments : Bool) :
    statements includeComments script =
      ((Part.place [] texts).filter (·.counts includeComments)).mapIdx Part.statement := by
  have pieces_eq := pieces_tokensOfParts divides.undivided divides.nonempty []
  rw [List.nil_append, divides.joined, Text.byteLength_nil] at pieces_eq
  have within : ∀ part ∈ (Part.place [] texts).filter (·.counts includeComments),
      ∃ behind, script.toList = part.before ++ (part.text ++ behind) := by
    intro part member
    rw [← divides.joined]
    exact Part.exists_behind_of_mem_place (List.mem_of_mem_filter member)
  have numbered := number_map within 0
  simp only [Nat.zero_add] at numbered
  rw [← numbered, statements, tokens, divides.tokens_eq]
  simp only [pieces_eq, List.filter_map]
  rfl

/-! ## The text of a statement -/

/-- Trimming a text takes blanks from its tokens at most. -/
theorem paddedTo_tokens_trim (offset : Nat) (text : List Char) :
    List.Forall₂ Token.PaddedTo (tokens (Text.trim (String.ofList text)))
      (tokensFrom offset text) := by
  obtain ⟨before, behind, blankBefore, blankBehind, split⟩ := Text.exists_blanks_around text
  rw [tokens, Text.trim, String.toList_ofList, String.toList_ofList]
  have padded := paddedTo_tokensFrom_append blankBehind 0 (offset + Text.byteLength before)
    (Text.trimEndList (Text.trimStartList text))
  rwa [← tokensFrom_blank_append blankBefore, ← split] at padded

/-- Trimming a text keeps the kinds of its tokens. -/
theorem map_kind_tokens_trim (text : List Char) :
    (tokens (Text.trim (String.ofList text))).map Token.kind =
      (tokensFrom 0 text).map Token.kind := by
  rw [← List.forall₂_eq_eq_eq, List.forall₂_map_left_iff, List.forall₂_map_right_iff]
  exact (paddedTo_tokens_trim 0 text).imp fun _ _ padded => padded.kind.symm

theorem undivided_iff {text : List Char} :
    Undivided text ↔ .semicolon ∉ (tokensFrom 0 text).map Token.kind := by
  simp [Undivided]

/-- What a part holds depends on the kinds of its tokens only. -/
theorem Part.holds_congr
    {part other : Part}
    (kinds : (tokensFrom 0 part.text).map Token.kind = (tokensFrom 0 other.text).map Token.kind) :
    part.hasCode = other.hasCode ∧ part.hasComment = other.hasComment := by
  have any_eq (property : Kind → Bool) :
      ((tokensFrom 0 part.text).any fun token => property token.kind) =
        (tokensFrom 0 other.text).any fun token => property token.kind := by
    have mapped := congrArg (List.any · property) kinds
    simpa [Function.comp_def] using mapped
  exact ⟨any_eq fun kind => !(kind == .lineComment || kind == .blockComment),
    any_eq fun kind => kind == .lineComment || kind == .blockComment⟩

/-- Splitting the text of a statement gives the statement alone. -/
theorem statements_sql
    {part : Part}
    (undivided : Undivided part.text)
    {includeComments : Bool}
    (counts : part.counts includeComments = true)
    (index : Nat) :
    statements includeComments (part.statement index).sql =
      [{ part.statement index with index := 0, startLine := 1 }] := by
  have kinds := map_kind_tokens_trim part.text
  have retrimmed := Text.trim_trim (String.ofList part.text)
  have unblank : (Text.trim (String.ofList part.text)).toList.takeWhile Text.isBlank = [] := by
    rw [Text.trim, String.toList_ofList]
    exact Text.takeWhile_isBlank_trimmed _
  rw [Part.statement]
  generalize Text.trim (String.ofList part.text) = sql at *
  obtain ⟨code, comment⟩ : (Part.mk [] sql.toList).hasCode = part.hasCode ∧
      (Part.mk [] sql.toList).hasComment = part.hasComment :=
    Part.holds_congr kinds
  have alone : Divides [sql.toList] sql.toList := by
    apply Divides.singleton
    rw [undivided_iff] at undivided ⊢
    exact kinds ▸ undivided
  rw [statements_eq alone, Part.place, Part.place, List.filter_cons_of_pos]
  · simp [Part.statement, code, unblank, retrimmed]
  · rw [Part.counts, code, comment]
    exact counts

/-- Members may be left out of a numbered list before it is numbered, instead of numbering those
that are kept anew. -/
theorem mapIdx_filter_mapIdx
    {α β : Type}
    {make final : Nat → α → β}
    {renumber : Nat → β → β}
    {keeps : β → Bool}
    (counts : α → Bool)
    (keeps_make : ∀ i a, keeps (make i a) = counts a)
    (renumber_make : ∀ i j a, renumber i (make j a) = final i a)
    (members : List α) :
    ((members.mapIdx make).filter keeps).mapIdx renumber =
      (members.filter counts).mapIdx final := by
  induction members generalizing make final renumber with
  | nil => rfl
  | cons a members inductionHypothesis =>
      have kept := keeps_make 0 a
      rw [List.mapIdx_cons]
      cases counted : counts a with
      | false =>
          rw [List.filter_cons_of_neg (by simp [kept, counted]),
            List.filter_cons_of_neg (by simp [counted])]
          exact inductionHypothesis (fun i => keeps_make (i + 1))
            (fun i j => renumber_make i (j + 1))
      | true =>
          rw [List.filter_cons_of_pos (by simp [kept, counted]),
            List.filter_cons_of_pos counted, List.mapIdx_cons, List.mapIdx_cons,
            renumber_make]
          congr 1
          exact inductionHypothesis (fun i => keeps_make (i + 1))
            (fun i j => renumber_make (i + 1) (j + 1))

/-- The statements of parts with code are those of all parts without the marked ones. -/
theorem renumber_statements (parts : List Part) :
    ((parts.mapIdx Part.statement).filter (!·.commentOnly)).mapIdx
        (fun index statement => { statement with index }) =
      (parts.filter Part.hasCode).mapIdx Part.statement := by
  refine mapIdx_filter_mapIdx Part.hasCode ?_ ?_ parts
  · intro i part
    simp [Part.statement]
  · intro i j part
    rfl

/-- **A script is divided into its statements.** The semicolon tokens divide it into parts. Whatever
a reader has read before, it gives in order and numbered from zero the parts that hold a token that
is no comment, or also those that hold a comment. Each statement has the trimmed text of its part, the
line of its first character, and a mark that says whether it has no code. Without comments the
statements are those with comments less the marked ones. The text of a statement has the kinds of
tokens of its part, none of them a semicolon, and splitting it again gives the statement alone. -/
theorem read_gives_parts_that_count (reader : ScriptReader) (script : String) :
    ∃ texts, Divides texts script.toList ∧
      (∀ includeComments,
        ((reader.withComments includeComments).read script).last =
          ((Part.place [] texts).filter (·.counts includeComments)).mapIdx Part.statement) ∧
      ((reader.withComments false).read script).last =
        (((reader.withComments true).read script).last.filter (!·.commentOnly)).mapIdx
          (fun index statement => { statement with index }) ∧
      (∀ text ∈ texts, (tokens (Text.trim (String.ofList text))).map Token.kind =
        (tokensFrom 0 text).map Token.kind) ∧
      ∀ includeComments, ∀ statement ∈ ((reader.withComments includeComments).read script).last,
        (∀ token ∈ tokens statement.sql, token.kind ≠ .semicolon) ∧
          ∀ other : ScriptReader,
            ((other.withComments includeComments).read statement.sql).last =
              [{ statement with index := 0, startLine := 1 }] := by
  obtain ⟨texts, divides⟩ := exists_divides script.toList
  have read (includeComments : Bool) :
      ((reader.withComments includeComments).read script).last =
        ((Part.place [] texts).filter (·.counts includeComments)).mapIdx Part.statement :=
    statements_eq divides includeComments
  refine ⟨texts, divides, read, ?_, fun text _ => map_kind_tokens_trim text, ?_⟩
  · have code (part : Part) : (part.hasCode && part.counts true) = part.counts false := by
      cases held : part.hasCode <;> simp [Part.counts, held]
    rw [read, read, renumber_statements, List.filter_filter]
    simp only [code]
  · intro includeComments statement member
    rw [read] at member
    obtain ⟨index, bound, rfl⟩ := List.mem_mapIdx.1 member
    obtain ⟨placed, counts⟩ := List.mem_filter.1 (List.getElem_mem bound)
    have undivided := divides.undivided _ (Part.text_mem_of_mem_place placed)
    constructor
    · have kinds := map_kind_tokens_trim
        ((Part.place [] texts).filter (·.counts includeComments))[index].text
      rw [undivided_iff, ← kinds] at undivided
      intro token inText semicolon
      exact undivided (List.mem_map.2 ⟨token, inText, semicolon⟩)
    · intro other
      exact statements_sql undivided counts index

end Scan
end SqlLineage
