import SqlLineage.Proofs.Scan.SeenTokens

/-!
# Names that show nothing

A name of several parts shows at least a dot, and a word shows itself. So a scan finds a name that
shows nothing only where a quoted name stands alone that holds nothing but blanks, if anything; its
closing delimiter may be missing. Such a name is found as any other one.
-/

namespace SqlLineage

/-- A name shows nothing: it is empty or consists of blanks. -/
def Nameless (name : String) : Prop :=
  Text.allBlank name = true

instance (name : String) : Decidable (Nameless name) :=
  inferInstanceAs (Decidable (Text.allBlank name = true))

theorem nameless_iff {name : String} :
    Nameless name ↔ ∀ c ∈ name.toList, Text.isBlank c = true :=
  List.all_eq_true

/-- A name of several parts shows the dots between them. -/
theorem nameless_intercalate_iff {first : String} {others : List String} :
    Nameless (".".intercalate (first :: others)) ↔ others = [] ∧ Nameless first := by
  cases others with
  | nil => simp
  | cons second others =>
      have dot : '.' ∈ (".".intercalate (first :: second :: others)).toList := by
        simp
      simp only [reduceCtorEq, false_and, iff_false]
      intro nameless
      exact absurd (nameless_iff.1 nameless _ dot) (by decide)

/-- A trimmed name that shows nothing is empty. -/
theorem nameless_trim_iff {name : String} : Nameless (Text.trim name) ↔ Text.trim name = "" := by
  constructor
  · intro nameless
    have blank := nameless_iff.1 nameless
    have nothing := Text.trimStartList_append blank []
    rw [List.append_nil] at nothing
    rw [← Text.trim_trim, Text.trim, nothing]
    rfl
  · rintro empty
    rw [empty]
    rfl

namespace Scan

/-! ## Tokens that show nothing -/

/-- Every token begins with a character that is no blank. -/
theorem exists_visible_of_mem_tokensFrom
    {offset : Nat}
    {text : List Char}
    {token : Token}
    (member : token ∈ tokensFrom offset text) :
    ∃ c rest, token.literal.toList = c :: rest ∧ Text.isBlank c = false := by
  induction text using tokens_induction generalizing offset with
  | nil => simp at member
  | blank c cs blank inductionHypothesis =>
      rw [tokensFrom_of_isBlank blank] at member
      exact inductionHypothesis member
  | token c more rest visible ends inductionHypothesis =>
      rw [tokensFrom_cons_append visible ends] at member
      rcases List.mem_cons.1 member with rfl | member
      · exact ⟨c, more, String.toList_ofList, visible⟩
      · exact inductionHypothesis member

theorem not_nameless_literal
    (text : String)
    {token : Token}
    (member : token ∈ codeTokens text) :
    ¬Nameless token.literal := by
  obtain ⟨c, rest, literal, visible⟩ :=
    exists_visible_of_mem_tokensFrom (List.mem_of_mem_filter member)
  intro nameless
  have blank := nameless_iff.1 nameless c (by simp [literal])
  simp [visible] at blank

/-- A quoted name that shows nothing, without more parts, begins the tokens. -/
def ShowsNothing (tokens : List Token) (name : String) : Prop :=
  ∃ token behind, tokens = token :: behind ∧ token.kind = .quotedIdent ∧
    token.identifier? = some name ∧ ¬GoesOn behind ∧ Nameless name

/-- A spelled name that shows nothing is a quoted name that stands alone. -/
theorem Spells.showsNothing
    {spelling behind : List Token}
    {name : String}
    (spells : Spells spelling name)
    (visible : ∀ token ∈ spelling, ¬Nameless token.literal)
    (ends : ¬GoesOn behind)
    (nameless : Nameless name) :
    ShowsNothing (spelling ++ behind) name := by
  cases spells with
  | @mk first part others names isPart allowed parts =>
      obtain ⟨rfl, blank⟩ := nameless_intercalate_iff.1 nameless
      cases parts
      rcases Token.kind_of_identifier? isPart with ⟨-, rfl⟩ | quoted
      · exact absurd blank (visible first List.mem_cons_self)
      · exact ⟨first, behind, rfl, quoted, by simpa using isPart, ends, nameless⟩

theorem ShowsNothing.spells
    {tokens : List Token}
    {name : String}
    (shows : ShowsNothing tokens name) :
    ∃ token behind, tokens = [token] ++ behind ∧ Spells [token] name ∧ ¬GoesOn behind := by
  obtain ⟨token, behind, rfl, quoted, isPart, ends, -⟩ := shows
  have spells : Spells [token] (".".intercalate [name]) := .mk isPart (by simp [quoted]) .nil
  exact ⟨token, behind, rfl, by simpa using spells, ends⟩

/-! ## What a scan finds -/

/-- A scan of a text finds a table that shows nothing. -/
def ReadsNameless (text : String) : Prop :=
  ∃ name ∈ (readTables text).toList, Nameless name

/-- The table that a text writes shows nothing. -/
def WritesNameless (text : String) : Prop :=
  ∃ name, writtenTable? text = some name ∧ Nameless name

/-- A table that shows nothing is found where a table is listed. -/
theorem ReadsNameless.exists_showsNothing
    {text : String}
    (reads : ReadsNameless text) :
    ∃ before after name, codeTokens text = before ++ after ∧ (∃ isFrom, Listed isFrom before) ∧
      ShowsNothing after name := by
  obtain ⟨name, member, nameless⟩ := reads
  obtain ⟨taken, isRead, mem_iff⟩ := exists_reads_codeTokens text
  obtain ⟨table, isTaken, rfl⟩ := List.mem_map.1 ((mem_iff name).1 member)
  obtain ⟨front, after, split, -, -, listed, names⟩ := isRead.named table isTaken
  obtain ⟨spelling, behind, rfl, spells, ends, -⟩ := names
  rw [List.append_nil] at split
  refine ⟨front, spelling ++ behind, table.2, split, listed,
    spells.showsNothing (fun token inSpelling => ?_) ends nameless⟩
  apply not_nameless_literal text
  rw [split]
  exact List.mem_append_right _ (List.mem_append_left _ inSpelling)

/-- Right behind `FROM` or `JOIN` a name that shows nothing is found. -/
theorem readsNameless_of_showsNothing
    {text : String}
    {before after : List Token}
    {head : Token}
    {name : String}
    (split : codeTokens text = before ++ head :: after)
    (isHead : head.isHead = true)
    (undotted : ¬EndsInDot before)
    (outside : ¬InsideFunction before)
    (shows : ShowsNothing after name)
    (noArguments : ∀ token ∈ after.tail.head?, token.kind ≠ .lparen) :
    ReadsNameless text := by
  obtain ⟨taken, isRead, mem_iff⟩ := exists_reads_codeTokens text
  obtain ⟨token, behind, rfl, spells, ends⟩ := shows.spells
  obtain ⟨_, _, _, _, _, _, nameless⟩ := shows
  have isTaken := isRead.complete before head _ name split isHead (by simpa using undotted)
    (by simpa using outside) (by
      rw [List.append_nil]
      exact ⟨[token], behind, rfl, spells, ends, noArguments⟩)
  exact ⟨name, (mem_iff name).2 (List.mem_map_of_mem isTaken), nameless⟩

/-- The table that a text writes shows nothing just if such a name stands where the first keyword
has its table. -/
theorem writesNameless_iff (text : String) :
    WritesNameless text ↔
      ∃ first tokens words name, codeTokens text = first :: tokens ∧
        wordsBeforeTarget first = some words ∧
        ShowsNothing (tokens.dropWhile fun token => words.any token.isKeyword) name := by
  unfold WritesNameless
  constructor
  · rintro ⟨name, written, nameless⟩
    rw [writtenTable?_eq] at written
    have visible := @not_nameless_literal text
    generalize codeTokens text = tokens at written visible ⊢
    cases tokens with
    | nil => cases written
    | cons first tokens =>
        rw [writtenTableOf?] at written
        cases isWriting : wordsBeforeTarget first with
        | none => simp [isWriting] at written
        | some words =>
            simp only [isWriting, Option.map_eq_some_iff] at written
            obtain ⟨⟨read, rest⟩, isRead, rfl⟩ := written
            obtain ⟨spelled, split, spells, ends⟩ := qualifiedName?_eq_some_iff.1 isRead
            have tokens_eq : (tokens.dropWhile fun token => words.any token.isKeyword) =
                spelled.map Mark.token ++ rest.map Mark.token := by
              rw [← List.map_append, ← split, Mark.map_token_ofTokens]
            refine ⟨first, tokens, words, read, rfl, isWriting, ?_⟩
            rw [tokens_eq]
            refine spells.showsNothing (fun token inSpelling => ?_) ends nameless
            apply visible
            apply List.mem_cons_of_mem
            apply (List.dropWhile_suffix _).subset
            rw [tokens_eq]
            exact List.mem_append_left _ inSpelling
  · rintro ⟨first, tokens, words, name, split, isWriting, shows⟩
    obtain ⟨token, behind, rest_eq, spells, ends⟩ := shows.spells
    obtain ⟨_, _, _, _, _, _, nameless⟩ := shows
    refine ⟨name, ?_, nameless⟩
    have read : qualifiedName? (Mark.ofTokens false ([token] ++ behind)) =
        some (name, Mark.ofTokens (Mark.endsInFunction false [token]) behind) := by
      rw [Mark.ofTokens_append]
      refine qualifiedName?_eq_some_iff.2 ⟨_, rfl, ?_, ?_⟩ <;> rwa [Mark.map_token_ofTokens]
    rw [writtenTable?_eq, split, writtenTableOf?, isWriting]
    simp only [rest_eq, read, Option.map_some]

end Scan
end SqlLineage
