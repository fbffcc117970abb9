import SqlLineage.Proofs.Scan.BareNames
import SqlLineage.Proofs.Scan.Comments

/-!
# String literals

The string literals of a text depend on where delimiters and comments begin. A character at which
nothing of the kind begins may be taken away from the front of a text, even if the text is then split
in other places: its literals stay the same. So does any text in front that has no delimiters and no
comments, unless it ends in half of what begins a comment.
-/

namespace SqlLineage
namespace Scan

/-! ## Plain tokens -/

/-- Whether a token is neither between delimiters nor a comment. -/
def Kind.isPlain : Kind → Bool
  | .quotedIdent | .stringLiteral | .lineComment | .blockComment => false
  | _ => true

/-- Whether a character may stand behind the first one of a plain token. -/
def continuesPlain (c : Char) : Bool :=
  continuesWord c || Text.isAsciiDigit c || c == '.'

theorem isPlain_singleKind (c : Char) : (singleKind c).isPlain = true := by
  unfold singleKind
  split <;> rfl

/-- Plain tokens are words, numbers and single characters. -/
theorem Shape.cases_of_isPlain
    {c : Char}
    {next : Option Char}
    (plain : (ofChars c next).kind.isPlain = true) :
    ofChars c next = word ∨ ofChars c next = number ∨ ∃ kind, ofChars c next = single kind := by
  obtain shape | shape | shape | shape := ofChars_cases c next
  · obtain ⟨_, _, rfl | rfl, -, own⟩ | own | own | own | own := ofChar_cases c
    all_goals rw [shape, own] at plain ⊢
    case inl.inl | inl.inr | inr.inl => cases plain
    all_goals simp
  · rw [shape] at plain
    cases plain
  · rw [shape] at plain
    cases plain
  · exact .inl shape

section

variable {c : Char} {cs : List Char}

/-- A plain token begins where neither a delimiter nor a comment does. -/
theorem isPlain_measure_iff :
    (measure c cs).1.isPlain = true ↔
      c ∉ ['\'', '"', '\x60', '['] ∧ ¬(c = '-' ∧ cs.head? = some '-') ∧
        ¬(c = '/' ∧ cs.head? = some '*') ∧ (c = '#' → wordFollows cs = true) := by
  constructor
  · intro plain
    refine ⟨?_, ?_, ?_, ?_⟩
    · intro member
      simp only [List.mem_cons, List.not_mem_nil, or_false] at member
      rcases member with rfl | rfl | rfl | rfl <;> cases plain
    · rintro ⟨rfl, next⟩
      simp [measure, next, Kind.isPlain] at plain
    · rintro ⟨rfl, next⟩
      simp [measure, next, Kind.isPlain] at plain
    · rintro rfl
      by_contra noWord
      simp [measure, noWord, Kind.isPlain] at plain
  · rintro ⟨undelimited, noLine, noBlock, word⟩
    simp only [List.mem_cons, List.not_mem_nil, or_false, not_or] at undelimited
    obtain ⟨noLiteral, noQuote, noBacktick, noBracket⟩ := undelimited
    rw [measure, if_neg noLiteral, if_neg noQuote, if_neg noBacktick, if_neg noBracket,
      if_neg noLine, if_neg noBlock]
    split
    next => rfl
    next noName =>
      have noHash : c ≠ '#' := fun hash => noName ⟨.inl hash, word hash⟩
      rw [if_neg noHash]
      split_ifs
      · rfl
      · rfl
      · exact isPlain_singleKind c

/-- What a plain token takes continues it. -/
theorem continuesPlain_of_measure
    {d : Char}
    (plain : (measure c cs).1.isPlain = true)
    (member : d ∈ cs.take (measure c cs).2) :
    continuesPlain d = true := by
  rw [Shape.measure_eq] at plain member
  unfold continuesPlain
  rcases Shape.cases_of_isPlain plain with shape | shape | ⟨kind, shape⟩
  · rw [shape] at member
    have inWord : continuesWord d = true := of_mem_take_runLength member
    rw [inWord, Bool.true_or, Bool.true_or]
  · rw [shape] at member
    have inNumber : (Text.isAsciiDigit d || d == '.') = true := of_mem_take_runLength member
    rw [Bool.or_assoc, inNumber, Bool.or_true]
  · rw [shape] at member
    simp [Shape.length] at member

/-- Nothing but plain tokens begin with such a character. -/
theorem isPlain_of_continuesPlain
    (continues : continuesPlain c = true)
    (cs : List Char) :
    (measure c cs).1.isPlain = true := by
  have differs {d : Char} (stops : continuesPlain d = false) : c ≠ d := by
    rintro rfl
    rw [continues] at stops
    cases stops
  have others : c ∉ ['\'', '"', '\x60', '[', '-', '/', '#'] := by
    simp only [List.mem_cons, List.not_mem_nil, or_false, not_or]
    refine ⟨?_, ?_, ?_, ?_, ?_, ?_, ?_⟩ <;> exact differs (by decide +kernel)
  rw [isPlain_measure_iff]
  simp_all

theorem isBlank_of_continuesPlain
    (continues : continuesPlain c = true) :
    Text.isBlank c = false := by
  rw [Bool.eq_false_iff]
  intro blank
  have stops := continuesWord_of_isBlank blank
  have noNumber := Text.eq_false_of_isBlank blank
    (fun c => Text.isAsciiDigit c || c == '.') (by decide)
  rw [continuesPlain, Bool.or_assoc, stops, noNumber] at continues
  cases continues

end

/-! ## Tokens that are not plain -/

theorem measure_block (cs : List Char) :
    measure '/' ('*' :: cs) = (.blockComment, commentLength cs + 1) := rfl

/-- A token is plain, or a delimiter or what begins a comment stands in front. -/
theorem measure_cases (c : Char) (cs : List Char) :
    (measure c cs).1.isPlain = true ∨ c = '\'' ∨ c ∈ ['"', '\x60', '['] ∨
      measure c cs = (.lineComment, lineLength cs) ∨ c = '/' ∧ cs.head? = some '*' := by
  by_cases literal : c = '\''
  · exact .inr (.inl literal)
  by_cases name : c ∈ ['"', '\x60', '[']
  · exact .inr (.inr (.inl name))
  by_cases block : c = '/' ∧ cs.head? = some '*'
  · exact .inr (.inr (.inr (.inr block)))
  by_cases dashes : c = '-' ∧ cs.head? = some '-'
  · obtain ⟨rfl, next⟩ := dashes
    exact .inr (.inr (.inr (.inl (by simp [measure, next]))))
  by_cases hash : c = '#' ∧ wordFollows cs = false
  · obtain ⟨rfl, noWord⟩ := hash
    exact .inr (.inr (.inr (.inl (by simp [measure, noWord]))))
  left
  rw [isPlain_measure_iff]
  refine ⟨?_, dashes, block, fun isHash => ?_⟩
  · exact List.not_mem_cons_of_ne_of_not_mem literal name
  · simpa using fun noWord => hash ⟨isHash, noWord⟩

/-- A block comment that does not go on to the end of a text ends in what closes it. -/
theorem exists_end_of_commentLength_lt
    {cs : List Char}
    (closes : commentLength cs < cs.length) :
    ∃ inner, cs.take (commentLength cs) = inner ++ ['*', '/'] := by
  fun_induction commentLength cs with
  | case1 => simp at closes
  | case2 c => simp at closes
  | case3 c d cs ends =>
      obtain ⟨rfl, rfl⟩ := ends
      exact ⟨[], rfl⟩
  | case4 c d cs open_ inductionHypothesis =>
      obtain ⟨inner, taken⟩ := inductionHypothesis (by simpa using closes)
      exact ⟨c :: inner, by rw [List.take_succ_cons, taken, List.cons_append]⟩

/-- A block comment goes no further than any place at which it could be closed. -/
theorem commentLength_append_closed_le (front rest : List Char) :
    commentLength (front ++ '*' :: '/' :: rest) ≤ front.length + 2 := by
  induction front with
  | nil => exact Nat.le_refl 2
  | cons c front inductionHypothesis =>
      cases split : front ++ '*' :: '/' :: rest with
      | nil => simp at split
      | cons d others =>
          rw [split] at inductionHypothesis
          rw [List.cons_append, split, commentLength, List.length_cons]
          split_ifs <;> omega

/-- A closed block comment that is a whole text ends in front of another one. -/
theorem measure_append_of_blockComment
    {inner : List Char}
    (whole : (measure '/' ('*' :: (inner ++ ['*', '/']))).2 =
      ('*' :: (inner ++ ['*', '/'])).length)
    (rest : List Char) :
    measure '/' ('*' :: (inner ++ ['*', '/']) ++ rest) =
      (.blockComment, ('*' :: (inner ++ ['*', '/'])).length) := by
  have enough := commentLength_front (inner ++ ['*', '/']) rest
  have bound := commentLength_append_closed_le inner rest
  rw [List.append_assoc] at enough
  simp only [measure_block, List.length_cons, List.length_append, List.length_nil,
    List.cons_append, List.nil_append, List.append_assoc] at whole enough ⊢
  rw [Prod.mk.injEq]
  refine ⟨rfl, ?_⟩
  omega

section

variable {c next other : Char} {more rest others : List Char}

/-- A comment goes on to the end of its line, or it begins with a slash and an asterisk. -/
theorem measure_cases_of_comment
    {cs : List Char}
    (comment : (measure c cs).1 = .lineComment ∨ (measure c cs).1 = .blockComment) :
    measure c cs = (.lineComment, lineLength cs) ∨ c = '/' ∧ cs.head? = some '*' := by
  rcases measure_cases c cs with plain | rfl | name | line | block
  · rcases comment with kind | kind <;> rw [kind] at plain <;> cases plain
  · rcases comment with kind | kind <;> cases kind
  · simp only [List.mem_cons, List.not_mem_nil, or_false] at name
    rcases name with rfl | rfl | rfl <;> rcases comment with kind | kind <;> cases kind
  · exact .inl line
  · exact .inr block

theorem measure_of_lineComment
    {cs : List Char}
    (line : (measure c cs).1 = .lineComment) :
    measure c cs = (.lineComment, lineLength cs) := by
  rcases measure_cases_of_comment (.inl line) with goesOn | ⟨rfl, opens⟩
  · exact goesOn
  · obtain ⟨rest, rfl⟩ := List.head?_eq_some_iff.1 opens
    cases line

theorem begins_of_blockComment
    {cs : List Char}
    (block : (measure c cs).1 = .blockComment) :
    c = '/' ∧ cs.head? = some '*' := by
  rcases measure_cases_of_comment (.inr block) with goesOn | begins
  · rw [goesOn] at block
    cases block
  · exact begins

/-- A block comment in front of a character is closed. -/
theorem exists_inner_of_blockComment
    (block : (measure c (more ++ next :: rest)).1 = .blockComment)
    (ends : (measure c (more ++ next :: rest)).2 = more.length) :
    ∃ inner, c = '/' ∧ more = '*' :: (inner ++ ['*', '/']) := by
  obtain ⟨rfl, opens⟩ := begins_of_blockComment block
  cases more with
  | nil =>
      obtain rfl : next = '*' := by simpa using opens
      cases ends
  | cons d more =>
      obtain rfl : d = '*' := by simpa using opens
      have length : commentLength (more ++ next :: rest) = more.length := by
        simpa [measure_block] using ends
      have closes : commentLength (more ++ next :: rest) < (more ++ next :: rest).length := by
        simp [length]
      obtain ⟨inner, taken⟩ := exists_end_of_commentLength_lt closes
      rw [length, List.take_left] at taken
      exact ⟨inner, rfl, congrArg _ taken⟩

/-- A line comment that is a whole text ends at the line end behind it. -/
theorem measure_append_newline_of_lineComment
    (line : measure c more = (.lineComment, more.length))
    (rest : List Char) :
    measure c (more ++ '\n' :: rest) = (.lineComment, more.length) := by
  have cut : measure c more =
      ((measure c (more ++ ['\n'])).1, min more.length (measure c (more ++ ['\n'])).2) :=
    measure_front_of_blank c more (List.forall_mem_singleton.2 (by decide))
  rw [line, Prod.mk.injEq] at cut
  obtain ⟨kind, enough⟩ := cut
  have goesOn := measure_of_lineComment kind.symm
  have bound : lineLength (more ++ ['\n']) ≤ more.length :=
    runLength_le_of_neg (by decide) more []
  have length : lineLength (more ++ ['\n']) = more.length := by
    rw [goesOn] at enough
    simp only at enough
    omega
  have ends : measure c (more ++ ['\n']) = (.lineComment, more.length) := by rw [goesOn, length]
  rw [measure_of_same_next (by rw [ends]) rest, ends]

/-- If a text is a single token, the token takes all of it. -/
theorem measure_of_tokensFrom_eq_singleton
    {kind : Kind}
    (visible : Text.isBlank c = false)
    (whole : tokensFrom 0 (c :: more) = [⟨kind, String.ofList (c :: more), 0⟩]) :
    measure c more = (kind, more.length) := by
  rw [tokensFrom_of_visible visible, List.cons.injEq, Token.mk.injEq] at whole
  obtain ⟨⟨sameKind, literal, -⟩, -⟩ := whole
  have taken : more.take (measure c more).2 = more := by
    simpa using congrArg String.toList literal
  have enough : more.length ≤ (measure c more).2 :=
    calc
      more.length = (more.take (measure c more).2).length := by rw [taken]
      _ ≤ (measure c more).2 := List.length_take_le _ _
  exact Prod.ext sameKind ((measure_le c more).antisymm enough)

/-- A token between delimiters and a comment do not depend on the character behind them, unless this
could close them. -/
theorem measure_of_not_isPlain
    (delimited : (measure c (more ++ next :: rest)).1.isPlain = false)
    (ends : (measure c (more ++ next :: rest)).2 = more.length)
    (sameLine : next ≠ '\n')
    (closesNothing : other ∉ ['\'', '"', '\x60', ']']) :
    measure c (more ++ other :: others) = measure c (more ++ next :: rest) := by
  obtain ⟨noLiteral, noQuote, noBacktick, noBracket⟩ : other ≠ '\'' ∧ other ≠ '"' ∧
      other ≠ '\x60' ∧ other ≠ ']' := by
    simpa using closesNothing
  rcases measure_cases c (more ++ next :: rest) with plain | rfl | name | line | ⟨rfl, opens⟩
  · rw [plain] at delimited
    cases delimited
  · exact congrArg (Prod.mk _) ((delimitedLength_eq_of_ends noLiteral ends).trans ends.symm)
  · simp only [List.mem_cons, List.not_mem_nil, or_false] at name
    rcases name with rfl | rfl | rfl
    · exact congrArg (Prod.mk _) ((delimitedLength_eq_of_ends noQuote ends).trans ends.symm)
    · exact congrArg (Prod.mk _) ((delimitedLength_eq_of_ends noBacktick ends).trans ends.symm)
    · exact congrArg (Prod.mk _) ((delimitedLength_eq_of_ends noBracket ends).trans ends.symm)
  · rw [line] at ends
    have newline : next = '\n' := by simpa using eq_false_of_runLength_eq ends
    exact absurd newline sameLine
  · cases more with
    | nil =>
        obtain rfl : next = '*' := by simpa using opens
        rw [List.nil_append, measure_block] at ends
        cases ends
    | cons d more =>
        obtain rfl : d = '*' := by simpa using opens
        rw [List.cons_append, measure_block, List.length_cons, Nat.add_right_cancel_iff] at ends
        rw [List.cons_append, List.cons_append, measure_block, measure_block, ends,
          commentLength_eq_of_ends ends]

/-- A plain token stays plain unless the character behind it makes it begin a comment. -/
theorem isPlain_measure_of_next
    (plain : (measure c (more ++ next :: rest)).1.isPlain = true)
    (ends : (measure c (more ++ next :: rest)).2 = more.length)
    (begins : other ∉ ['-', '*']) :
    (measure c (more ++ other :: others)).1.isPlain = true := by
  obtain ⟨noDash, noStar⟩ : other ≠ '-' ∧ other ≠ '*' := by simpa using begins
  have first := isPlain_measure_iff.1 plain
  rw [isPlain_measure_iff]
  cases more with
  | cons d more => exact first
  | nil =>
      obtain ⟨undelimited, -, -, word⟩ := first
      refine ⟨undelimited, fun dashes => noDash (Option.some.inj dashes.2),
        fun block => noStar (Option.some.inj block.2), ?_⟩
      rintro rfl
      -- A hash sign in front of a word is one token with it.
      have follows : continuesWord next = true := word rfl
      simp [measure, wordFollows, runLength, follows] at ends

end

/-! ## Semicolons -/

/-- Only a token between delimiters has a semicolon behind its first character, if it is no
comment. -/
theorem delimited_of_semicolon
    {c : Char}
    {cs : List Char}
    {literal : String}
    {offset : Nat}
    (taken : ';' ∈ cs.take (measure c cs).2)
    (uncommented : Token.isComment ⟨(measure c cs).1, literal, offset⟩ = false) :
    c ∈ ['\'', '"', '\x60', '['] ∧
      ((measure c cs).1 = .stringLiteral ∨ (measure c cs).1 = .quotedIdent) := by
  rcases measure_cases c cs with plain | rfl | name | line | ⟨rfl, opens⟩
  · exact absurd (continuesPlain_of_measure plain taken) (by decide +kernel)
  · exact ⟨by simp, .inl rfl⟩
  · simp only [List.mem_cons, List.not_mem_nil, or_false] at name
    rcases name with rfl | rfl | rfl <;> exact ⟨by simp, .inr rfl⟩
  · simp [Token.isComment, line] at uncommented
  · obtain ⟨rest, rfl⟩ := List.head?_eq_some_iff.1 opens
    simp [Token.isComment, measure_block] at uncommented

/-- A semicolon that is not a token of its own stands between delimiters, if it is in no comment. -/
theorem exists_delimited_token_of_semicolon
    {offset : Nat}
    {before behind : List Char}
    (undivided : ∀ token ∈ tokensFrom offset (before ++ ';' :: behind), token.kind ≠ .semicolon)
    (uncommented : ∀ token ∈ tokensFrom offset (before ++ ';' :: behind),
      token.isComment = false) :
    ∃ token ∈ tokensFrom offset (before ++ ';' :: behind),
      (token.kind = .stringLiteral ∨ token.kind = .quotedIdent) ∧
      ∃ front opener inner post, before = front ++ opener :: inner ∧
        opener ∈ ['\'', '"', '\x60', '['] ∧
        token.literal.toList = opener :: (inner ++ ';' :: post) := by
  generalize whole : before ++ ';' :: behind = text at undivided uncommented
  induction text using tokens_induction generalizing offset before with
  | nil => simp at whole
  | blank c cs blank inductionHypothesis =>
      rw [tokensFrom_of_isBlank blank] at undivided uncommented ⊢
      cases before with
      | nil =>
          obtain ⟨rfl, -⟩ := List.cons.inj whole
          exact absurd blank (by decide)
      | cons d before =>
          obtain ⟨-, tail⟩ := List.cons.inj whole
          obtain ⟨token, member, delimited, front, opener, inner, post, rfl, opens, literal⟩ :=
            inductionHypothesis tail undivided uncommented
          exact ⟨token, member, delimited, d :: front, opener, inner, post, rfl, opens, literal⟩
  | token c more rest visible ends inductionHypothesis =>
      rw [tokensFrom_cons_append visible ends] at undivided uncommented ⊢
      obtain ⟨noSemicolon, undivided⟩ := List.forall_mem_cons.1 undivided
      obtain ⟨noComment, uncommented⟩ := List.forall_mem_cons.1 uncommented
      cases before with
      | nil =>
          obtain ⟨rfl, -⟩ := List.cons.inj whole
          exact absurd rfl noSemicolon
      | cons d before =>
          obtain ⟨rfl, tail⟩ := List.cons.inj whole
          have place : (∃ post, more = before ++ ';' :: post) ∨
              ∃ inRest, before = more ++ inRest ∧ inRest ++ ';' :: behind = rest := by
            rcases List.append_eq_append_iff.1 tail with
              ⟨post, inToken, split⟩ | ⟨inRest, split, same⟩
            · cases post with
              | nil => exact .inr ⟨[], by simp [inToken], split⟩
              | cons e post =>
                  obtain ⟨rfl, -⟩ := List.cons.inj split
                  exact .inl ⟨post, inToken⟩
            · exact .inr ⟨inRest, split, same.symm⟩
          rcases place with ⟨post, rfl⟩ | ⟨inRest, rfl, split⟩
          · have taken : ';' ∈ (before ++ ';' :: post ++ rest).take
                (measure d (before ++ ';' :: post ++ rest)).2 := by
              rw [ends, List.take_left]
              simp
            obtain ⟨opens, kind⟩ := delimited_of_semicolon taken noComment
            exact ⟨_, List.mem_cons_self, kind, [], d, before, post, rfl, opens,
              String.toList_ofList⟩
          · obtain ⟨token, member, delimited, front, opener, inner, post, rfl, opens, literal⟩ :=
              inductionHypothesis split undivided uncommented
            exact ⟨token, List.mem_cons_of_mem _ member, delimited, d :: (more ++ front), opener,
              inner, post, by simp, opens, literal⟩

/-! ## The literals of a text -/

/-- The string literals that a scan finds in a text, with their delimiters. -/
def stringLiterals (text : List Char) : List String :=
  ((tokensFrom 0 text).filter fun token => token.kind = .stringLiteral).map Token.literal

theorem stringLiterals_eq (offset : Nat) (text : List Char) :
    ((tokensFrom offset text).filter fun token => token.kind = .stringLiteral).map Token.literal =
      stringLiterals text := by
  rw [tokensFrom_eq_map_shift, List.filter_map, List.map_map]
  rfl

section

variable {c : Char} {cs more rest : List Char}

theorem stringLiterals_of_isBlank (blank : Text.isBlank c = true) :
    stringLiterals (c :: cs) = stringLiterals cs := by
  rw [stringLiterals, tokensFrom_of_isBlank blank, stringLiterals_eq]

/-- The first token of a text counts if it is a literal. -/
theorem stringLiterals_cons_append
    (visible : Text.isBlank c = false)
    (ends : (measure c (more ++ rest)).2 = more.length) :
    stringLiterals (c :: (more ++ rest)) =
      (if (measure c (more ++ rest)).1 = .stringLiteral then [String.ofList (c :: more)] else []) ++
        stringLiterals rest := by
  rw [stringLiterals, tokensFrom_cons_append visible ends, List.filter_cons]
  split_ifs with isLiteral <;> simp_all [stringLiterals_eq]

/-- Behind a plain token the literals are the same as in the whole text. -/
theorem exists_stringLiterals_of_isPlain
    (plain : (measure c cs).1.isPlain = true)
    (visible : Text.isBlank c = false) :
    ∃ more rest, cs = more ++ rest ∧ (∀ d ∈ more, continuesPlain d = true) ∧
      stringLiterals (c :: cs) = stringLiterals rest := by
  refine ⟨cs.take (measure c cs).2, cs.drop (measure c cs).2, (List.take_append_drop _ _).symm,
    ?_, ?_⟩
  · intro d member
    exact continuesPlain_of_measure plain member
  · have ends : (measure c (cs.take (measure c cs).2 ++ cs.drop (measure c cs).2)).2 =
        (cs.take (measure c cs).2).length := by
      rw [List.take_append_drop, List.length_take, Nat.min_eq_left (measure_le c cs)]
    have noLiteral : (measure c cs).1 ≠ .stringLiteral := by
      intro isLiteral
      rw [isLiteral] at plain
      cases plain
    have dropped := stringLiterals_cons_append visible ends
    rwa [List.take_append_drop, if_neg noLiteral] at dropped

/-- Characters that continue plain tokens do not matter to the literals behind them. -/
theorem stringLiterals_append_of_continuesPlain
    (continues : ∀ d ∈ more, continuesPlain d = true) :
    stringLiterals (more ++ rest) = stringLiterals rest := by
  -- The first token may go on behind these characters. What it takes from there continues it, too.
  induction size : (more ++ rest).length using Nat.strong_induction_on generalizing more rest with
  | _ size inductionHypothesis =>
    subst size
    cases more with
    | nil => rfl
    | cons c more =>
        obtain ⟨head, tail⟩ := List.forall_mem_cons.1 continues
        obtain ⟨taken, behind, split, inToken, read⟩ := exists_stringLiterals_of_isPlain
          (isPlain_of_continuesPlain head (more ++ rest)) (isBlank_of_continuesPlain head)
        have shorter : (more ++ rest).length < (c :: more ++ rest).length := Nat.lt_succ_self _
        have same : stringLiterals (taken ++ behind) = stringLiterals behind :=
          inductionHypothesis _ (split ▸ shorter) inToken rfl
        rw [List.cons_append, read, ← same, ← split]
        exact inductionHypothesis _ shorter tail rfl

/-- A character at which neither a delimiter nor a comment begins does not matter. -/
theorem stringLiterals_cons_of_isPlain
    (plain : (measure c cs).1.isPlain = true) :
    stringLiterals (c :: cs) = stringLiterals cs := by
  cases visible : Text.isBlank c with
  | true => exact stringLiterals_of_isBlank visible
  | false =>
      obtain ⟨taken, behind, rfl, inToken, read⟩ := exists_stringLiterals_of_isPlain plain visible
      rw [read, stringLiterals_append_of_continuesPlain inToken]

/-- A text of plain tokens does not matter to the literals behind it, unless it ends in half of what
begins a comment. -/
theorem stringLiterals_append_of_isPlain
    {offset : Nat}
    {front : List Char}
    (plain : ∀ token ∈ tokensFrom offset front, token.kind.isPlain = true)
    (whole : ∀ last ∈ front.getLast?, last ≠ '-' ∧ last ≠ '/')
    (rest : List Char) :
    stringLiterals (front ++ rest) = stringLiterals rest := by
  induction front using tokens_induction generalizing offset with
  | nil => rfl
  | blank c cs blank inductionHypothesis =>
      rw [tokensFrom_of_isBlank blank] at plain
      rw [List.cons_append, stringLiterals_of_isBlank blank]
      refine inductionHypothesis plain fun last isLast => whole last ?_
      rw [List.getLast?_cons, isLast]
      rfl
  | token c more behind visible ends inductionHypothesis =>
      rw [tokensFrom_cons_append visible ends] at plain
      obtain ⟨head, tail⟩ := List.forall_mem_cons.1 plain
      have head : (measure c (more ++ behind)).1.isPlain = true := head
      have inToken (d : Char) (member : d ∈ more) : continuesPlain d = true :=
        continuesPlain_of_measure head (by rwa [ends, List.take_left])
      have headPlain : (measure c (more ++ (behind ++ rest))).1.isPlain = true := by
        rw [← List.append_assoc]
        cases split : more ++ behind with
        | cons d others =>
            rw [split] at head
            have begins := isPlain_measure_iff.1 head
            exact isPlain_measure_iff.2 begins
        | nil =>
            -- Only here the next character is another one.
            rw [split] at head whole
            obtain ⟨noDash, noSlash⟩ := whole c rfl
            obtain ⟨undelimited, -, -, noHash⟩ := isPlain_measure_iff.1 head
            refine isPlain_measure_iff.2 ⟨undelimited, fun dash => noDash dash.1,
              fun slash => noSlash slash.1, fun hash => ?_⟩
            cases noHash hash
      rw [List.cons_append, List.append_assoc, stringLiterals_cons_of_isPlain headPlain,
        stringLiterals_append_of_continuesPlain inToken]
      refine inductionHypothesis tail fun last isLast => whole last ?_
      rw [← List.cons_append, List.getLast?_append, isLast]
      rfl

end

end Scan
end SqlLineage
