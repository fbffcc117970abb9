import SqlLineage.Proofs.Scan.Layout
import SqlLineage.Proofs.Scan.SeenTokens

/-!
# Comments are blanks

A token that ends in front of a character that is no blank ends in front of a blank as well, and it
does not depend on what stands further behind. So a token may be replaced by a blank: the tokens in
front of it and behind it stay the same but for their offsets. A comment is no code, so a text
without one of its comments has the same code and the same tables.
-/

namespace SqlLineage
namespace Scan

/-! ## The end of a token in front of a blank -/

theorem runLength_le_of_neg
    {p : Char → Bool}
    {next : Char}
    (stops : p next = false)
    (front rest : List Char) :
    runLength p (front ++ next :: rest) ≤ front.length := by
  have bound := (List.takeWhile_prefix p (l := front)).length_le
  rw [runLength, List.takeWhile_append, List.takeWhile_cons_of_neg (by simp [stops])]
  split
  next => simp
  next => exact bound

/-- A run that ends in front of a character does so because of that character. -/
theorem eq_false_of_runLength_eq
    {p : Char → Bool}
    {next : Char}
    {front rest : List Char}
    (ends : runLength p (front ++ next :: rest) = front.length) :
    p next = false := by
  rw [Bool.eq_false_iff]
  intro continues
  have bound := (List.takeWhile_prefix p (l := front)).length_le
  rw [runLength, List.takeWhile_append, List.takeWhile_cons_of_pos continues] at ends
  split at ends
  next => simp at ends
  next partly => exact partly ends

theorem delimitedLength_cons_pos (closer c : Char) (cs : List Char) :
    0 < delimitedLength closer (c :: cs) := by
  cases cs with
  | nil => exact Nat.one_pos
  | cons d cs =>
      rw [delimitedLength]
      split_ifs <;> omega

/-- What is closed in front of a character is closed in front of any but the closing delimiter. -/
theorem delimitedLength_eq_of_ends
    {closer next other : Char}
    {front rest more : List Char}
    (differs : other ≠ closer)
    (ends : delimitedLength closer (front ++ next :: rest) = front.length) :
    delimitedLength closer (front ++ other :: more) = front.length := by
  fun_induction delimitedLength closer front with
  | case1 =>
      have positive := delimitedLength_cons_pos closer next rest
      exact absurd ends (Nat.ne_of_gt positive)
  | case2 c =>
      have positive := delimitedLength_cons_pos closer next rest
      simp only [List.singleton_append, delimitedLength] at ends ⊢
      split_ifs at ends ⊢ <;> simp_all
  | case3 cs inductionHypothesis =>
      simp only [List.cons_append, delimitedLength, if_true, List.length_cons] at ends ⊢
      rw [inductionHypothesis (by omega)]
  | case4 d cs single =>
      simp [delimitedLength, single] at ends
  | case5 c d cs other inductionHypothesis =>
      simp only [List.cons_append, delimitedLength, if_neg other, List.length_cons,
        Nat.add_right_cancel_iff] at inductionHypothesis ends ⊢
      exact inductionHypothesis ends

theorem commentLength_cons_pos (c : Char) (cs : List Char) : 0 < commentLength (c :: cs) := by
  cases cs with
  | nil => exact Nat.one_pos
  | cons d cs =>
      rw [commentLength]
      split_ifs <;> omega

/-- A block comment that is closed does not depend on what stands behind it. -/
theorem commentLength_eq_of_ends
    {next other : Char}
    {front rest more : List Char}
    (ends : commentLength (front ++ next :: rest) = front.length) :
    commentLength (front ++ other :: more) = front.length := by
  fun_induction commentLength front with
  | case1 =>
      have positive := commentLength_cons_pos next rest
      exact absurd ends (Nat.ne_of_gt positive)
  | case2 c =>
      have positive := commentLength_cons_pos next rest
      simp only [List.singleton_append, commentLength] at ends ⊢
      split_ifs at ends ⊢ <;> simp_all
  | case3 c d cs closes =>
      simp only [List.cons_append, commentLength, if_pos closes] at ends ⊢
      exact ends
  | case4 c d cs open_ inductionHypothesis =>
      simp only [List.cons_append, commentLength, if_neg open_, List.length_cons,
        Nat.add_right_cancel_iff] at inductionHypothesis ends ⊢
      exact inductionHypothesis ends

namespace Shape

/-- The closing delimiters of tokens are no blanks. -/
theorem visible_of_delimited
    {c closer : Char}
    {next : Option Char}
    {kind : Kind}
    (shape : ofChars c next = delimited kind closer) :
    Text.isBlank closer = false := by
  obtain undecided | other | other | other := ofChars_cases c next
  case inl =>
    rw [undecided] at shape
    obtain ⟨_, _, _, visible, own⟩ | own | own | own | own := ofChar_cases c <;>
      rw [own] at shape <;> cases shape
    exact visible
  all_goals
    rw [other] at shape
    cases shape

/-- The rest of a token that ends in front of a character that is no blank ends in front of a blank
as well. -/
theorem length_le_of_visible_next
    {shape : Shape}
    {next blank : Char}
    {front rest more : List Char}
    (closes : ∀ kind closer, shape = delimited kind closer → Text.isBlank closer = false)
    (visible : Text.isBlank next = false)
    (isBlank : Text.isBlank blank = true)
    (ends : shape.length (front ++ next :: rest) = front.length) :
    shape.length (front ++ blank :: more) ≤ front.length := by
  cases shape with
  | delimited kind closer =>
      have differs := Text.ne_of_isBlank isBlank (closes kind closer rfl)
      exact (delimitedLength_eq_of_ends differs ends).le
  | line =>
      have newline : next = '\n' := by simpa using eq_false_of_runLength_eq ends
      exact absurd visible (newline ▸ by decide)
  | block =>
      cases front with
      | nil => simp [length] at ends
      | cons c front =>
          simp only [length, List.cons_append, List.tail_cons, List.length_cons,
            Nat.add_right_cancel_iff] at ends ⊢
          rw [commentLength_eq_of_ends ends]
  | word => exact runLength_le_of_neg (continuesWord_of_isBlank isBlank) front more
  | number =>
      have stops := Text.eq_false_of_isBlank isBlank
        (fun c => Text.isAsciiDigit c || c == '.') (by decide)
      exact runLength_le_of_neg stops front more
  | single kind => exact Nat.zero_le _

end Shape

/-! ## A token in another text -/

section

variable {c next : Char} {more rest : List Char}

/-- A token does not depend on what stands behind the next character. -/
theorem measure_of_same_next
    (ends : (measure c (more ++ next :: rest)).2 = more.length)
    (others : List Char) :
    measure c (more ++ next :: others) = measure c (more ++ next :: rest) := by
  rw [List.append_cons] at ends
  have alone : measure c (more ++ [next]) = measure c (more ++ [next] ++ rest) := by
    apply measure_front_of_le
    rw [ends, List.length_append]
    exact Nat.le_add_right _ _
  have cut : measure c (more ++ [next]) = (_, min _ (measure c (more ++ [next] ++ others)).2) :=
    measure_front (by cases more <;> rfl)
  have enough : (measure c (more ++ [next] ++ others)).2 ≤ (more ++ [next]).length := by
    have length := congrArg Prod.snd (alone.symm.trans cut)
    rw [ends, List.length_append, List.length_singleton] at length
    rw [List.length_append, List.length_singleton]
    omega
  rw [List.append_cons, List.append_cons more next rest, ← alone, measure_front_of_le enough]

/-- A token that ends in front of a character that is no blank ends in front of a blank as well. -/
theorem measure_of_visible_next
    {blank : Char}
    (visible : Text.isBlank next = false)
    (isBlank : Text.isBlank blank = true)
    (ends : (measure c (more ++ next :: rest)).2 = more.length)
    (others : List Char) :
    measure c (more ++ blank :: others) = measure c (more ++ next :: rest) := by
  have sameShape : Shape.ofChars c (more ++ blank :: others).head? =
      Shape.ofChars c (more ++ next :: rest).head? := by
    cases more with
    | cons d more => rfl
    | nil =>
        have undecided : Shape.ofChars c (some next) = Shape.ofChar c := by
          by_contra decides
          rw [Shape.measure_eq] at ends
          exact (Shape.length_pos_of_ofChars_ne decides rest).ne' ends
        exact (Shape.ofChars_of_isBlank isBlank c).trans undecided.symm
  have enough : (measure c (more ++ blank :: others)).2 ≤ more.length := by
    rw [Shape.measure_eq] at ends ⊢
    rw [sameShape]
    exact Shape.length_le_of_visible_next (fun _ _ => Shape.visible_of_delimited) visible isBlank
      ends
  rw [← measure_front_of_le enough, measure_front_of_le ends.le]

/-- A token does not change if a blank takes the place of something behind it that does not begin
with a blank. -/
theorem measure_of_blanked
    {before others : List Char}
    (visible : Text.isBlank next = false)
    (ends : (measure c (more ++ (before ++ (next :: others ++ rest)))).2 = more.length) :
    measure c (more ++ (before ++ ' ' :: rest)) =
      measure c (more ++ (before ++ (next :: others ++ rest))) := by
  -- Only the character behind the token matters to it.
  cases before with
  | nil => exact measure_of_visible_next visible (by decide) ends rest
  | cons first before => exact measure_of_same_next ends _

end

/-! ## A token less -/

namespace Token

/-- What a token is, without its place. -/
def content (token : Token) : Kind × String :=
  (token.kind, token.literal)

theorem map_content_tokensFrom (offset moved : Nat) (text : List Char) :
    (tokensFrom offset text).map content = (tokensFrom moved text).map content := by
  rw [tokensFrom_eq_map_shift offset, tokensFrom_eq_map_shift moved, List.map_map, List.map_map]
  rfl

/-- The text in which a blank stands in the place of a token. -/
def blankedIn (token : Token) (text : String) : String :=
  String.ofList (Text.takeBytes token.offset text.toList ++
    ' ' :: Text.dropBytes token.stop text.toList)

end Token

/-- A token of a text that begins at `offset`, with what is in front of it and behind it. A blank in
its place takes it from the tokens and leaves the others. -/
structure Spot (offset : Nat) (text : List Char) (token : Token) where
  /-- The text in front of the token. -/
  before : List Char
  /-- The first character of the token. -/
  first : Char
  /-- The other characters of the token. -/
  more : List Char
  /-- The text behind the token. -/
  behind : List Char
  /-- The tokens in front of the token. -/
  earlier : List Token
  /-- The tokens behind the token. -/
  later : List Token
  /-- The token is in the text. -/
  text_eq : text = before ++ (first :: more ++ behind)
  /-- The literal of the token is its characters. -/
  literal_eq : token.literal = String.ofList (first :: more)
  /-- The token begins behind the text in front of it. -/
  offset_eq : token.offset = offset + Text.byteLength before
  /-- A token does not begin with a blank. -/
  visible : Text.isBlank first = false
  /-- The token is among the tokens of the text. -/
  tokens_eq : tokensFrom offset text = earlier ++ token :: later
  /-- With a blank instead the text has the other tokens. -/
  blanked : ∀ moved, (tokensFrom moved (before ++ ' ' :: behind)).map Token.content =
    (earlier ++ later).map Token.content

namespace Spot

variable {offset : Nat} {text rest more : List Char} {token : Token} {c : Char}

/-- A token of a text is one of the text with a blank in front. -/
def behindBlank
    (spot : Spot (offset + c.utf8Size) text token)
    (blank : Text.isBlank c = true) :
    Spot offset (c :: text) token where
  __ := spot
  before := c :: spot.before
  text_eq := congrArg (c :: ·) spot.text_eq
  offset_eq := by rw [spot.offset_eq, Text.byteLength_cons, Nat.add_assoc]
  tokens_eq := by rw [tokensFrom_of_isBlank blank, spot.tokens_eq]
  blanked moved := by rw [List.cons_append, tokensFrom_of_isBlank blank, spot.blanked]

/-- The first token of a text that begins with a token. -/
def here
    (visible : Text.isBlank c = false)
    (ends : (measure c (more ++ rest)).2 = more.length)
    (offset : Nat) :
    Spot offset (c :: (more ++ rest))
      ⟨(measure c (more ++ rest)).1, String.ofList (c :: more), offset⟩ where
  before := []
  first := c
  more := more
  behind := rest
  earlier := []
  later := tokensFrom (offset + Text.byteLength (c :: more)) rest
  text_eq := rfl
  literal_eq := rfl
  offset_eq := rfl
  visible := visible
  tokens_eq := tokensFrom_cons_append visible ends offset
  blanked moved := by
    rw [List.nil_append, List.nil_append, tokensFrom_of_isBlank (by decide)]
    exact Token.map_content_tokensFrom _ _ rest

/-- A token of a text is one of the text with a token in front. -/
def behindToken
    (spot : Spot (offset + Text.byteLength (c :: more)) rest token)
    (visible : Text.isBlank c = false)
    (ends : (measure c (more ++ rest)).2 = more.length) :
    Spot offset (c :: (more ++ rest)) token where
  __ := spot
  before := c :: more ++ spot.before
  earlier := ⟨(measure c (more ++ rest)).1, String.ofList (c :: more), offset⟩ :: spot.earlier
  text_eq := by rw [List.append_assoc, ← spot.text_eq, List.cons_append]
  offset_eq := by rw [spot.offset_eq, Text.byteLength_append, Nat.add_assoc]
  tokens_eq := by rw [tokensFrom_cons_append visible ends, spot.tokens_eq, List.cons_append]
  blanked moved := by
    have unchanged : measure c (more ++ (spot.before ++ ' ' :: spot.behind)) =
        measure c (more ++ rest) := by
      have same := congrArg (fun behind => measure c (more ++ behind)) spot.text_eq
      rw [same] at ends
      exact (measure_of_blanked spot.visible ends).trans same.symm
    rw [← unchanged] at ends
    rw [List.append_assoc, List.cons_append, tokensFrom_cons_append visible ends, List.map_cons,
      spot.blanked, unchanged]
    rfl

end Spot

/-- Every token of a text has its spot. -/
theorem nonempty_spot
    {offset : Nat}
    {text : List Char}
    {token : Token}
    (member : token ∈ tokensFrom offset text) :
    Nonempty (Spot offset text token) := by
  induction text using tokens_induction generalizing offset with
  | nil => simp at member
  | blank c cs blank inductionHypothesis =>
      rw [tokensFrom_of_isBlank blank] at member
      obtain ⟨spot⟩ := inductionHypothesis member
      exact ⟨spot.behindBlank blank⟩
  | token c more rest visible ends inductionHypothesis =>
      rw [tokensFrom_cons_append visible ends] at member
      rcases List.mem_cons.1 member with rfl | member
      · exact ⟨.here visible ends offset⟩
      · obtain ⟨spot⟩ := inductionHypothesis member
        exact ⟨spot.behindToken visible ends⟩

/-! ## A comment less -/

/-- What is seen of a token does not depend on its place. -/
theorem map_seen_of_map_content
    {tokens others : List Token}
    (same : tokens.map Token.content = others.map Token.content) :
    tokens.map Token.seen = others.map Token.seen := by
  have seen (tokens : List Token) : tokens.map Token.seen =
      (tokens.map Token.content).map fun content => (Token.mk content.1 content.2 0).seen := by
    rw [List.map_map]
    rfl
  rw [seen, same, ← seen]

theorem map_content_withoutComments (tokens : List Token) :
    (withoutComments tokens).map Token.content =
      (tokens.map Token.content).filter fun content =>
        !(Token.mk content.1 content.2 0).isComment := by
  rw [withoutComments, List.filter_map]
  rfl

/-- **A comment is a blank.** If a blank stands in the place of a comment, the tokens that are no
comments have the same kinds and literals in the same order, and so the text reads and writes the
same tables. -/
theorem blankedIn_keeps_code
    {text : String}
    {comment : Token}
    (member : comment ∈ tokens text)
    (isComment : comment.isComment = true) :
    (codeTokens (comment.blankedIn text)).map Token.content =
        (codeTokens text).map Token.content ∧
      readTables (comment.blankedIn text) = readTables text ∧
      writtenTable? (comment.blankedIn text) = writtenTable? text := by
  obtain ⟨spot⟩ := nonempty_spot member
  have stop : comment.stop = Text.byteLength (spot.before ++ (spot.first :: spot.more)) := by
    rw [Token.stop, spot.offset_eq, spot.literal_eq, Text.utf8ByteSize_ofList, Nat.zero_add,
      Text.byteLength_append]
  have blanked : (comment.blankedIn text).toList = spot.before ++ ' ' :: spot.behind := by
    have front := Text.takeBytes_append spot.before (spot.first :: spot.more ++ spot.behind)
    have back := Text.dropBytes_append (spot.before ++ (spot.first :: spot.more)) spot.behind
    rw [← spot.text_eq] at front
    rw [List.append_assoc, ← spot.text_eq] at back
    rw [Token.blankedIn, String.toList_ofList, stop, back, spot.offset_eq, Nat.zero_add, front]
  have others : withoutComments (tokens text) = withoutComments (spot.earlier ++ spot.later) := by
    rw [tokens, spot.tokens_eq, withoutComments, withoutComments, List.filter_append,
      List.filter_cons_of_neg (by simp [isComment]), List.filter_append]
  have code : (codeTokens (comment.blankedIn text)).map Token.content =
      (codeTokens text).map Token.content := by
    rw [codeTokens, codeTokens, ← withoutComments, ← withoutComments, others,
      map_content_withoutComments, map_content_withoutComments, tokens, blanked, spot.blanked]
  have seen := map_seen_of_map_content code
  refine ⟨code, tablesOf_congr seen, ?_⟩
  rw [writtenTable?_eq, writtenTable?_eq, writtenTableOf?_congr seen]

/-- A text with comments in the middle of names and between words. -/
def commentedText : String :=
  "UPDATE--it's\na/*;*/.t SET x = 1 FROM u/* ' */JOIN v#"

theorem blankedIn_keeps_code_of_commentedText :
    let comment : Token := ⟨.blockComment, "/*;*/", 14⟩
    comment ∈ tokens commentedText ∧ comment.isComment = true ∧
      comment.blankedIn commentedText = "UPDATE--it's\na .t SET x = 1 FROM u/* ' */JOIN v#" ∧
      readTables (comment.blankedIn commentedText) = .ofList ["u", "v"] ∧
      writtenTable? (comment.blankedIn commentedText) = some "a.t" := by
  intro comment
  have member : comment ∈ tokens commentedText := by decide +kernel
  obtain ⟨_, read, written⟩ := blankedIn_keeps_code member rfl
  refine ⟨member, rfl, by decide +kernel, ?_, ?_⟩
  · rw [read]
    decide +kernel
  · rw [written]
    decide +kernel

end Scan
end SqlLineage
