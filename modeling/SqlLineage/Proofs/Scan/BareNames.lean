import SqlLineage.Proofs.Scan.SeenTokens
import SqlLineage.Proofs.Scan.Statements

/-!
# Names without quotes

A bare name is made of words with dots between them, the first of them not reserved. A scan spells
the name of a table by such a name if it meets no quoted name, and a text that selects from a bare
name is one statement that reads this name and writes nothing.
-/

namespace SqlLineage
namespace Scan

/-! ## Bare words -/

/-- A word as a scan reads it: a letter or an underscore, or a hash sign or an at sign in front of
more, and then what continues a word. -/
def IsBareWord : List Char → Prop
  | [] => False
  | first :: others =>
    others.all continuesWord = true ∧
      (beginsWord first = true ∨ (first = '#' ∨ first = '@') ∧ others ≠ [])

instance : DecidablePred IsBareWord
  | [] => inferInstanceAs (Decidable False)
  | _ :: _ => inferInstanceAs (Decidable (_ ∧ _))

/-- A name that is made of bare words with dots between them; the first one is not reserved. -/
def IsBareName (name : String) : Prop :=
  ∃ first others, name = ".".intercalate (first :: others) ∧
    (∀ part ∈ first :: others, IsBareWord part.toList) ∧ isReserved first = false

/-- What begins a word continues one, too. -/
theorem continuesWord_of_beginsWord
    {c : Char}
    (begins : beginsWord c = true) :
    continuesWord c = true := by
  rw [beginsWord, Bool.or_eq_true] at begins
  rcases begins with letter | underscore
  · simp [continuesWord, Text.isAlphanumeric, letter]
  · simp [continuesWord, underscore]

/-- A character that begins no word is not the one that does. -/
theorem ne_of_beginsWord
    {c d : Char}
    (begins : beginsWord c = true)
    (noWord : beginsWord d = false) :
    c ≠ d := by
  rintro rfl
  rw [begins] at noWord
  cases noWord

theorem Shape.ofChars_of_beginsWord
    {c : Char}
    (begins : beginsWord c = true)
    (next : Option Char) :
    ofChars c next = word := by
  have differs {d : Char} (noWord : beginsWord d = false) : c ≠ d := ne_of_beginsWord begins noWord
  unfold ofChars ofChar
  rw [if_neg (fun dash => differs (by decide +kernel) dash.1),
    if_neg (fun slash => differs (by decide +kernel) slash.1),
    if_neg (fun sign => sign.1.elim (differs (by decide +kernel)) (differs (by decide +kernel))),
    if_neg (differs (by decide +kernel)), if_neg (differs (by decide +kernel)),
    if_neg (differs (by decide +kernel)), if_neg (differs (by decide +kernel)),
    if_neg (differs (by decide +kernel)), if_pos begins]

theorem Shape.ofChars_of_sign
    {c d : Char}
    (sign : c = '#' ∨ c = '@')
    (continues : continuesWord d = true) :
    ofChars c (some d) = word := by
  unfold ofChars
  rw [if_neg, if_neg, if_pos ⟨sign, continues⟩]
  · rintro ⟨rfl, -⟩
    revert sign
    decide
  · rintro ⟨rfl, -⟩
    revert sign
    decide

/-- A word begins with a letter or an underscore, or with a sign in front of more of it. -/
theorem Shape.begins_of_kind
    {c : Char}
    {next : Option Char}
    (kind : (ofChars c next).kind = .word) :
    beginsWord c = true ∨ (c = '#' ∨ c = '@') ∧ next.any continuesWord = true := by
  by_cases named : (c = '#' ∨ c = '@') ∧ next.any continuesWord = true
  · exact .inr named
  · left
    have noWord : singleKind c ≠ .word := by
      unfold singleKind
      split <;> exact nofun
    by_contra noLetter
    unfold ofChars ofChar at kind
    split_ifs at kind <;> first | cases kind | exact noWord kind

/-- What begins a quoted name opens it. -/
theorem Shape.opens_of_kind
    {c : Char}
    {next : Option Char}
    (kind : (ofChars c next).kind = .quotedIdent) :
    c = '"' ∨ c = '\x60' ∨ c = '[' := by
  by_contra closed
  simp only [not_or] at closed
  obtain ⟨noQuote, noBacktick, noBracket⟩ := closed
  have noName : singleKind c ≠ .quotedIdent := by
    unfold singleKind
    split <;> exact nofun
  unfold ofChars ofChar at kind
  split_ifs at kind <;> first | cases kind | exact noName kind

/-- A word goes on to the first character that does not continue it. -/
theorem runLength_append_of_stops
    {property : Char → Bool}
    {front rest : List Char}
    (holds : ∀ c ∈ front, property c = true)
    (stops : ∀ c ∈ rest.head?, property c = false) :
    runLength property (front ++ rest) = front.length := by
  have nothing : rest.takeWhile property = [] := by
    cases rest with
    | nil => rfl
    | cons c rest => rw [List.takeWhile_cons, stops c rfl, if_neg Bool.false_ne_true]
  rw [runLength, List.takeWhile_append_of_pos holds, nothing, List.append_nil]

theorem IsBareWord.measure_append
    {first : Char}
    {others rest : List Char}
    (isWord : IsBareWord (first :: others))
    (stops : ∀ c ∈ rest.head?, continuesWord c = false) :
    measure first (others ++ rest) = (.word, others.length) := by
  obtain ⟨allContinue, begins⟩ := isWord
  have continues := List.all_eq_true.1 allContinue
  have shape : Shape.ofChars first (others ++ rest).head? = .word := by
    rcases begins with begins | ⟨sign, more⟩
    · exact Shape.ofChars_of_beginsWord begins _
    · obtain ⟨c, others, rfl⟩ := List.exists_cons_of_ne_nil more
      exact Shape.ofChars_of_sign sign (continues c List.mem_cons_self)
  rw [Shape.measure_eq, shape, Shape.kind, Shape.length, runLength_append_of_stops continues stops]

/-- The first character of a bare word is no blank. -/
theorem IsBareWord.visible
    {first : Char}
    {others : List Char}
    (isWord : IsBareWord (first :: others)) :
    Text.isBlank first = false := by
  obtain ⟨-, begins⟩ := isWord
  rcases begins with begins | ⟨rfl | rfl, -⟩
  · rw [Bool.eq_false_iff]
    intro blank
    have continues := continuesWord_of_beginsWord begins
    rw [continuesWord_of_isBlank blank] at continues
    cases continues
  · decide
  · decide

/-- A bare word is a token. -/
theorem IsBareWord.tokensFrom_append
    {word : String}
    (isWord : IsBareWord word.toList)
    {rest : List Char}
    (stops : ∀ c ∈ rest.head?, continuesWord c = false)
    (offset : Nat) :
    tokensFrom offset (word.toList ++ rest) =
      ⟨.word, word, offset⟩ :: tokensFrom (offset + Text.byteLength word.toList) rest := by
  have literal : String.ofList word.toList = word := String.ofList_toList
  cases split : word.toList with
  | nil =>
      rw [split] at isWord
      exact isWord.elim
  | cons first others =>
      rw [split] at isWord literal
      have measured := isWord.measure_append stops
      rw [List.cons_append, tokensFrom_cons_append isWord.visible (by rw [measured]), measured,
        literal]

/-- A token that is a word is a bare one. -/
theorem isBareWord_of_mem_tokensFrom
    {offset : Nat}
    {text : List Char}
    {token : Token}
    (member : token ∈ tokensFrom offset text)
    (word : token.kind = .word) :
    IsBareWord token.literal.toList := by
  induction text using tokens_induction generalizing offset with
  | nil => simp at member
  | blank c cs blank inductionHypothesis =>
      rw [tokensFrom_of_isBlank blank] at member
      exact inductionHypothesis member
  | token c more rest visible ends inductionHypothesis =>
      rw [tokensFrom_cons_append visible ends] at member
      rcases List.mem_cons.1 member with rfl | member
      · have continues (d : Char) (inMore : d ∈ more) : continuesWord d = true :=
          continuesWord_of_measure word (by rwa [ends, List.take_left])
        rw [String.toList_ofList]
        refine ⟨List.all_eq_true.2 continues, ?_⟩
        rw [Shape.measure_eq] at word ends
        rcases Shape.begins_of_kind word with begins | ⟨sign, follows⟩
        · exact .inl begins
        · refine .inr ⟨sign, ?_⟩
          rintro rfl
          obtain ⟨d, rest, rfl⟩ : ∃ d others, rest = d :: others := by
            cases rest with
            | nil => cases follows
            | cons d rest => exact ⟨d, rest, rfl⟩
          have next : continuesWord d = true := follows
          rw [Shape.eq_word_of_kind word] at ends
          simp [Shape.length, runLength, next] at ends
      · exact inductionHypothesis member

/-- A quoted name in a text begins with one of the characters that open it. -/
theorem exists_opener_of_mem_tokensFrom
    {offset : Nat}
    {text : List Char}
    {token : Token}
    (member : token ∈ tokensFrom offset text)
    (quoted : token.kind = .quotedIdent) :
    ∃ c ∈ text, c = '"' ∨ c = '\x60' ∨ c = '[' := by
  induction text using tokens_induction generalizing offset with
  | nil => simp at member
  | blank c cs blank inductionHypothesis =>
      rw [tokensFrom_of_isBlank blank] at member
      obtain ⟨opener, inRest, opens⟩ := inductionHypothesis member
      exact ⟨opener, List.mem_cons_of_mem c inRest, opens⟩
  | token c more rest visible ends inductionHypothesis =>
      rw [tokensFrom_cons_append visible ends] at member
      rcases List.mem_cons.1 member with rfl | member
      · refine ⟨c, List.mem_cons_self, ?_⟩
        rw [Shape.measure_eq] at quoted
        exact Shape.opens_of_kind quoted
      · obtain ⟨opener, inRest, opens⟩ := inductionHypothesis member
        exact ⟨opener, List.mem_cons_of_mem c (List.mem_append_right more inRest), opens⟩

/-! ## Bare names -/

/-- A name that is spelled without quotes is bare. -/
theorem Spells.isBareName
    {spelling : List Token}
    {name : String}
    (spells : Spells spelling name)
    (bare : ∀ token ∈ spelling, token.kind ≠ .quotedIdent ∧
      (token.kind = .word → IsBareWord token.literal.toList)) :
    IsBareName name := by
  have isWord {token : Token} {part : String} (member : token ∈ spelling)
      (isPart : token.identifier? = some part) :
      token.kind = .word ∧ IsBareWord part.toList := by
    obtain ⟨unquoted, isBare⟩ := bare token member
    rcases Token.kind_of_identifier? isPart with ⟨word, rfl⟩ | quoted
    · exact ⟨word, isBare word⟩
    · exact absurd quoted unquoted
  cases spells with
  | @mk first part tokens names isPart allowed others =>
      obtain ⟨word, isBare⟩ := isWord List.mem_cons_self isPart
      refine ⟨part, names, rfl, List.forall_mem_cons.2 ⟨isBare, ?_⟩, ?_⟩
      · have within : tokens ⊆ first :: tokens := List.subset_cons_self first tokens
        generalize first :: tokens = spelling at within isWord
        clear isPart allowed word bare
        induction others with
        | nil => simp
        | @cons dot token name tokens names isDot isPart others inductionHypothesis =>
            obtain ⟨inDot, inToken, inOthers⟩ : dot ∈ spelling ∧ token ∈ spelling ∧
                tokens ⊆ spelling := by
              simpa [List.cons_subset] using within
            exact List.forall_mem_cons.2 ⟨(isWord inToken isPart).2, inductionHypothesis inOthers⟩
      · simpa [word] using allowed

/-- The characters of a name of several parts. -/
theorem toList_intercalate (first : String) (others : List String) :
    (".".intercalate (first :: others)).toList =
      first.toList ++ others.flatMap fun part => '.' :: part.toList := by
  induction others generalizing first with
  | nil => simp
  | cons second others inductionHypothesis =>
      rw [String.intercalate_cons_cons, String.toList_append, String.toList_append,
        inductionHypothesis second]
      simp

/-- The characters of a bare word continue a word, but for a sign in front. -/
theorem IsBareWord.forall_mem
    {word : List Char}
    (isWord : IsBareWord word) :
    ∀ c ∈ word, continuesWord c = true ∨ c = '#' ∨ c = '@' := by
  cases word with
  | nil => simp
  | cons first others =>
      obtain ⟨allContinue, begins⟩ := isWord
      have continues := List.all_eq_true.1 allContinue
      refine List.forall_mem_cons.2 ⟨?_, fun c member => .inl (continues c member)⟩
      rcases begins with begins | ⟨sign, -⟩
      · exact .inl (continuesWord_of_beginsWord begins)
      · exact .inr sign

/-- A bare name holds nothing but such characters and dots. -/
theorem IsBareName.forall_mem
    {name : String}
    (isName : IsBareName name) :
    ∀ c ∈ name.toList, c = '.' ∨ continuesWord c = true ∨ c = '#' ∨ c = '@' := by
  obtain ⟨first, others, rfl, bare, -⟩ := isName
  obtain ⟨head, tail⟩ := List.forall_mem_cons.1 bare
  intro c member
  rw [toList_intercalate, List.mem_append] at member
  rcases member with inFirst | inOthers
  · exact .inr (head.forall_mem c inFirst)
  · obtain ⟨part, isPart, inPart⟩ := List.mem_flatMap.1 inOthers
    rcases List.mem_cons.1 inPart with dot | inWord
    · exact .inl dot
    · exact .inr ((tail part isPart).forall_mem c inWord)

theorem measure_dot (cs : List Char) : measure '.' cs = (.dot, 0) := by
  rw [Shape.measure_eq]
  rfl

/-- No word goes on behind one that has parts or nothing behind it. -/
theorem stops_of_parts (parts : List String) :
    ∀ c ∈ (parts.flatMap fun part => '.' :: part.toList).head?, continuesWord c = false := by
  cases parts with
  | nil => simp
  | cons part parts =>
      have dot : continuesWord '.' = false := by decide +kernel
      simpa using dot

/-- Bare words behind dots are parts of a name. -/
theorem exists_dottedParts_of_bareWords
    {parts : List String}
    (bare : ∀ part ∈ parts, IsBareWord part.toList)
    (offset : Nat) :
    ∃ tokens, tokensFrom offset (parts.flatMap fun part => '.' :: part.toList) = tokens ∧
      DottedParts tokens parts ∧ ∀ token ∈ tokens, token.kind = .dot ∨ token.kind = .word := by
  induction parts generalizing offset with
  | nil => exact ⟨[], by simp, .nil, by simp⟩
  | cons part parts inductionHypothesis =>
      obtain ⟨head, tail⟩ := List.forall_mem_cons.1 bare
      obtain ⟨tokens, read, dotted, kinds⟩ := inductionHypothesis tail
        (offset + 1 + Text.byteLength part.toList)
      refine ⟨⟨.dot, ".", offset⟩ :: ⟨.word, part, offset + 1⟩ :: tokens, ?_,
        .cons rfl rfl dotted, by simpa using kinds⟩
      have visible : Text.isBlank '.' = false := by decide
      have width : Text.byteLength ['.'] = 1 := by decide
      rw [List.flatMap_cons, List.cons_append, tokensFrom_of_visible visible, measure_dot]
      simp only [List.take_zero, List.drop_zero, width]
      rw [head.tokensFrom_append (stops_of_parts parts), read]

/-- The tokens of a bare name spell it. -/
theorem IsBareName.exists_spells
    {name : String}
    (isName : IsBareName name)
    (offset : Nat) :
    ∃ tokens, tokensFrom offset name.toList = tokens ∧ Spells tokens name ∧
      ∀ token ∈ tokens, token.kind = .dot ∨ token.kind = .word := by
  obtain ⟨first, others, rfl, bare, unreserved⟩ := isName
  obtain ⟨head, tail⟩ := List.forall_mem_cons.1 bare
  obtain ⟨tokens, read, dotted, kinds⟩ := exists_dottedParts_of_bareWords tail
    (offset + Text.byteLength first.toList)
  refine ⟨⟨.word, first, offset⟩ :: tokens, ?_, .mk rfl (by simp [unreserved]) dotted,
    by simpa using kinds⟩
  rw [toList_intercalate, head.tokensFrom_append (stops_of_parts others), read]

/-! ## Selecting from a bare name -/

/-- What stands in front of the table of a plain selection. -/
def selection : String :=
  "SELECT * FROM "

/-- The tokens of a plain selection. -/
theorem tokensFrom_selection (table : List Char) :
    tokensFrom 0 (selection.toList ++ table) =
      ⟨.word, "SELECT", 0⟩ :: ⟨.symbol, "*", 7⟩ :: ⟨.word, "FROM", 9⟩ :: tokensFrom 14 table := by
  have isSelect : IsBareWord "SELECT".toList := by decide +kernel
  have isFrom : IsBareWord "FROM".toList := by decide +kernel
  have space : Text.isBlank ' ' = true := by decide
  have stops (rest : List Char) : ∀ c ∈ (' ' :: rest).head?, continuesWord c = false := by
    simpa using continuesWord_of_isBlank space
  have star : measure '*' (' ' :: ("FROM".toList ++ ' ' :: table)) = (.symbol, 0) := by
    rw [Shape.measure_eq]
    rfl
  have split : selection.toList ++ table =
      "SELECT".toList ++ ' ' :: '*' :: ' ' :: ("FROM".toList ++ ' ' :: table) := rfl
  rw [split, isSelect.tokensFrom_append (stops _), tokensFrom_of_isBlank space,
    tokensFrom_of_visible (by decide), star]
  simp only [List.take_zero, List.drop_zero]
  rw [tokensFrom_of_isBlank space, isFrom.tokensFrom_append (stops _), tokensFrom_of_isBlank space]
  rfl

/-- A selection from what spells a name reads it. -/
theorem Spells.tablesOf_selection
    {tokens : List Token}
    {name : String}
    (spells : Spells tokens name) :
    tablesOf (⟨.word, "SELECT", 0⟩ :: ⟨.symbol, "*", 7⟩ :: ⟨.word, "FROM", 9⟩ :: tokens) =
      .ofList [name] := by
  have read (behindFunction : Bool) :
      qualifiedName? (Mark.ofTokens behindFunction tokens) = some (name, []) := by
    refine qualifiedName?_eq_some_iff.2 ⟨Mark.ofTokens behindFunction tokens, by simp, ?_, by simp⟩
    rwa [Mark.map_token_ofTokens]
  unfold tablesOf
  simp only [Mark.ofTokens]
  rw [tablesFrom_of_token (by decide), Mark.nest_of_ne (by decide) (by decide),
    tablesFrom_of_token (by decide), Mark.nest_of_ne (by decide) (by decide),
    tablesFrom_of_head (by decide) (by decide), listedTables_of_last (read _) rfl fun _ => rfl]
  exact tablesFrom_nil [] _

/-- The text of a selection from a bare name. -/
def selectionFrom (name : String) : String :=
  selection ++ name

/-- The tokens of a selection from a bare name, none of which is a comment or a quoted name or ends a
statement. -/
theorem IsBareName.exists_tokens_selectionFrom
    {name : String}
    (isName : IsBareName name) :
    ∃ tokens, Spells tokens name ∧
      tokensFrom 0 (selectionFrom name).toList =
        ⟨.word, "SELECT", 0⟩ :: ⟨.symbol, "*", 7⟩ :: ⟨.word, "FROM", 9⟩ :: tokens ∧
      ∀ token ∈ tokensFrom 0 (selectionFrom name).toList,
        token.isComment = false ∧ token.kind ≠ .quotedIdent ∧ token.kind ≠ .semicolon := by
  obtain ⟨tokens, read, spells, kinds⟩ := isName.exists_spells 14
  have whole : tokensFrom 0 (selectionFrom name).toList =
      ⟨.word, "SELECT", 0⟩ :: ⟨.symbol, "*", 7⟩ :: ⟨.word, "FROM", 9⟩ :: tokens := by
    rw [selectionFrom, String.toList_append, tokensFrom_selection, read]
  refine ⟨tokens, spells, whole, ?_⟩
  rw [whole]
  simp only [List.forall_mem_cons]
  refine ⟨by decide, by decide, by decide, fun token member => ?_⟩
  rcases kinds token member with dot | word
  · simp [Token.isComment, dot]
  · simp [Token.isComment, word]

/-- A selection from a bare name is one statement, which reads the name and writes nothing. -/
theorem IsBareName.codeStatements_selectionFrom
    {name : String}
    (isName : IsBareName name) :
    (codeStatements (selectionFrom name)).map (fun statement =>
      ((readTables statement.sql).toList, writtenTable? statement.sql)) = [([name], none)] := by
  obtain ⟨tokens, spells, whole, kinds⟩ := isName.exists_tokens_selectionFrom
  have alone : Divides [(selectionFrom name).toList] (selectionFrom name).toList :=
    .singleton fun token member => (kinds token member).2.2
  have code : (Part.mk [] (selectionFrom name).toList).counts false = true := by
    simp [Part.counts, Part.hasCode, whole, Token.isComment]
  have uncommented : withoutComments (tokensFrom 0 (selectionFrom name).toList) =
      tokensFrom 0 (selectionFrom name).toList := by
    refine List.filter_eq_self.2 fun token member => ?_
    rw [(kinds token member).1]
    rfl
  have unpadded : ∀ token ∈ tokensFrom 0 (selectionFrom name).toList, token.kind = .quotedIdent →
      Text.trimEnd token.literal = token.literal := by
    intro token member quoted
    exact absurd quoted (kinds token member).2.1
  have reads := readTables_trim unpadded
  have writes := writtenTable?_trim unpadded
  rw [uncommented, whole, String.ofList_toList] at reads writes
  rw [spells.tablesOf_selection] at reads
  have writesNothing : writtenTable? (Text.trim (selectionFrom name)) = none := writes
  have single : (UniqueList.ofList [name]).toList = [name] := by
    rw [UniqueList.toList_ofList]
    rfl
  rw [codeStatements, statements_eq alone, Part.place, Part.place, List.filter_cons_of_pos]
  · simp [Part.statement, reads, writesNothing, single]
  · exact code

/-! ## Texts without quotes -/

/-- A text without quoted names reads tables by bare names. -/
theorem isBareName_of_mem_readTables
    {text : String}
    (unquoted : ∀ c ∈ text.toList, ¬(c = '"' ∨ c = '\x60' ∨ c = '['))
    {name : String}
    (isRead : name ∈ (readTables text).toList) :
    IsBareName name := by
  obtain ⟨taken, reads, mem_iff⟩ := exists_reads_codeTokens text
  obtain ⟨table, isTaken, rfl⟩ := List.mem_map.1 ((mem_iff name).1 isRead)
  obtain ⟨front, after, split, -, -, -, names⟩ := reads.named table isTaken
  obtain ⟨spelling, behind, rfl, spells, -⟩ := names
  refine spells.isBareName fun token member => ?_
  have inText : token ∈ tokensFrom 0 text.toList := by
    have inCode : token ∈ codeTokens text := by
      rw [List.append_nil] at split
      rw [split]
      exact List.mem_append_right _ (List.mem_append_left _ member)
    exact List.mem_of_mem_filter inCode
  constructor
  · intro quoted
    obtain ⟨c, inChars, opens⟩ := exists_opener_of_mem_tokensFrom inText quoted
    exact unquoted c inChars opens
  · exact isBareWord_of_mem_tokensFrom inText

/-- The characters of a statement are in its script. -/
theorem mem_script_of_mem_statement
    {script : String}
    {statement : Statement}
    (member : statement ∈ codeStatements script)
    {c : Char}
    (inStatement : c ∈ statement.sql.toList) :
    c ∈ script.toList := by
  obtain ⟨texts, divides⟩ := exists_divides script.toList
  rw [codeStatements, statements_eq divides] at member
  obtain ⟨index, bound, rfl⟩ := List.mem_mapIdx.1 member
  generalize isPart : ((Part.place [] texts).filter (·.counts false))[index] = part at inStatement
  have placed : part ∈ Part.place [] texts := by
    rw [← isPart]
    exact (List.mem_filter.1 (List.getElem_mem bound)).1
  obtain ⟨behind, split⟩ := Part.exists_behind_of_mem_place placed
  rw [List.nil_append, divides.joined] at split
  have inPart : c ∈ part.text := by
    obtain ⟨blanksBefore, blanksBehind, -, -, around⟩ := Text.exists_blanks_around part.text
    rw [Part.statement, Text.trim, String.toList_ofList, String.toList_ofList] at inStatement
    rw [around]
    exact List.mem_append_right _ (List.mem_append_left _ inStatement)
  rw [split]
  exact List.mem_append_right _ (List.mem_append_left _ inPart)

end Scan
end SqlLineage
