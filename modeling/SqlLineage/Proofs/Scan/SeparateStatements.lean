import SqlLineage.Proofs.Scan.HiddenTables

/-!
# Scanning statement by statement

A list of tables ends at a semicolon, so a scan of a script goes through its statements one after
the other. Only the open parentheses go on from one statement to the next: a function whose
arguments use `FROM` for something else, and whose parenthesis is not closed, hides the tables of
the statements behind it. Where it hides none, the script has the tables of its statements.
-/

namespace SqlLineage
namespace Scan

/-- A scan goes on behind a semicolon with the parentheses that are open there. -/
theorem tablesFrom_append_semicolon
    {semicolon : Mark}
    (ends : semicolon.token.kind = .semicolon)
    (parens : List Bool)
    (found : UniqueList String)
    (marks others : List Mark) :
    tablesFrom parens found (marks ++ semicolon :: others) =
      tablesFrom (marks.foldl Mark.nest parens) (tablesFrom parens found marks) others := by
  have noName : semicolon.token.identifier? = none := by
    unfold Token.identifier?
    rw [ends]
  have noHead := Token.isHead_of_kind_ne (by simp [ends] : semicolon.token.kind ≠ .word)
  rw [tablesFrom_append_stop ⟨.of_kind (by simp [ends]), by simp [ends]⟩ parens found (.inl noName),
    tablesFrom_of_token (by simp [noHead]), Mark.nest_of_ne (by simp [ends]) (by simp [ends])]

/-! ## Open arguments -/

/-- A `FROM` or `JOIN` in the arguments of a function that uses `FROM` for something else stands in
the same statement as the function. -/
def ArgumentsUndivided (tokens : List Token) : Prop :=
  ∀ before head after inner, tokens = before ++ head :: after → head.isHead = true →
    ArgumentsOpen before inner → ∀ token ∈ inner, token.kind ≠ .semicolon

/-- It is enough that no semicolon stands in front of a `FROM` or `JOIN` in arguments. -/
theorem ArgumentsUndivided.of_take
    {tokens : List Token}
    (checked : ∀ i < tokens.length, tokens[i]?.any Token.isHead = true →
      (openParens (tokens.take i)).head? = some true →
      ∀ token ∈ tokens.take i, token.kind ≠ .semicolon) :
    ArgumentsUndivided tokens := by
  rintro before head after inner rfl isHead isOpen token member
  have inside := head?_openParens_eq_true_iff.2 ⟨inner, isOpen⟩
  obtain ⟨front, function, opening, rfl, -⟩ := isOpen
  have noSemicolon := checked (front ++ function :: opening :: inner).length (by simp)
    (by simpa using isHead)
  rw [List.take_left] at noSemicolon
  exact noSemicolon inside token (by simp [member])

theorem ArgumentsOpen.append
    {tokens inner : List Token}
    (isOpen : ArgumentsOpen tokens inner)
    (before : List Token) :
    ArgumentsOpen (before ++ tokens) inner := by
  obtain ⟨front, function, opening, rfl, rest⟩ := isOpen
  exact ⟨before ++ front, function, opening, by simp, rest⟩

/-- Arguments without a semicolon begin behind the last semicolon. -/
theorem ArgumentsOpen.of_append
    {before front inner : List Token}
    {semicolon : Token}
    (ends : semicolon.kind = .semicolon)
    (isOpen : ArgumentsOpen (before ++ semicolon :: front) inner)
    (undivided : ∀ token ∈ inner, token.kind ≠ .semicolon) :
    ArgumentsOpen front inner := by
  obtain ⟨outer, function, opening, split, isFunction, opens, balanced⟩ := isOpen
  have noFunction : function.kind ≠ .semicolon := by
    intro kind
    simp [Mark.isFunction_of_kind_ne, kind] at isFunction
  have within : ∀ token ∈ function :: opening :: inner, token.kind ≠ .semicolon :=
    List.forall_mem_cons.2 ⟨noFunction, List.forall_mem_cons.2 ⟨by simp [opens], undivided⟩⟩
  rcases List.append_eq_append_iff.1 split with ⟨middle, rfl, behind⟩ | ⟨middle, -, behind⟩
  · cases middle with
    | nil =>
        rw [List.nil_append] at behind
        exact absurd ends (within _ (behind ▸ List.mem_cons_self))
    | cons first middle =>
        rw [List.cons_append] at behind
        exact ⟨middle, function, opening, (List.cons.inj behind).2, isFunction, opens, balanced⟩
  · rw [behind] at within
    exact absurd ends (within _ (List.mem_append_right _ List.mem_cons_self))

/-! ## Statements -/

/-- A statement begins behind the tokens: there are none, or the last one is a semicolon. -/
def EndsStatement (tokens : List Token) : Prop :=
  tokens = [] ∨ ∃ front semicolon, tokens = front ++ [semicolon] ∧ semicolon.kind = .semicolon

/-- From `tokens`, which stand between `before` and `behind`, a scan takes some of the tables, and
all of them unless arguments that were opened in another statement hide some. -/
structure TakesAmong (before tokens behind : List Token) (names tables : List String) : Prop where
  /-- The names come in. -/
  found : ∀ found, tablesFrom (openParens before) found (Mark.ofTokens false tokens) =
    found.extend names
  /-- Nothing but the tables comes in. -/
  subset : names ⊆ tables
  /-- The tables come in as well. -/
  same : ArgumentsUndivided (before ++ (tokens ++ behind)) →
    ∀ found : UniqueList String, found.extend names = found.extend tables

section

variable {before : List Token} (ends : EndsStatement before)

include ends

theorem EndsStatement.foldl_nest_openParens
    {tokens : List Token}
    {front rest : List Mark}
    (split : Mark.ofTokens false tokens = front ++ rest) :
    front.foldl Mark.nest (openParens before) = openParens (before ++ front.map Mark.token) := by
  have noFunction : Mark.endsInFunction false before = false := by
    obtain rfl | ⟨front, semicolon, rfl, kind⟩ := ends
    · rfl
    · simp [Mark.endsInFunction, Mark.isFunction_of_kind_ne, kind]
  rw [openParens, openParens, Mark.ofTokens_append, noFunction, List.foldl_append,
    Mark.ofTokens_map_token_of_append split]

theorem EndsStatement.argumentsOpen
    {front inner : List Token}
    (isOpen : ArgumentsOpen (before ++ front) inner)
    (undivided : ∀ token ∈ inner, token.kind ≠ .semicolon) :
    ArgumentsOpen front inner := by
  obtain rfl | ⟨outer, semicolon, rfl, kind⟩ := ends
  · exact isOpen
  · rw [List.append_assoc, List.singleton_append] at isOpen
    exact isOpen.of_append kind undivided

/-- From a statement a scan takes tables that the statement has by itself. -/
theorem EndsStatement.exists_takesAmong (tokens behind : List Token) :
    ∃ names, TakesAmong before tokens behind names (tablesOf tokens).toList := by
  have alone {front rest : List Mark} (split : Mark.ofTokens false tokens = front ++ rest) :
      front.foldl Mark.nest [] = openParens (front.map Mark.token) := by
    rw [openParens, Mark.ofTokens_map_token_of_append split]
  have hides : Hides (openParens before) [] (Mark.ofTokens false tokens) := by
    intro front rest split hidden
    rw [alone split, head?_openParens_eq_true_iff] at hidden
    rw [ends.foldl_nest_openParens split, head?_openParens_eq_true_iff]
    exact hidden.imp fun _ isOpen => isOpen.append before
  have hidesNoList (undivided : ArgumentsUndivided (before ++ (tokens ++ behind))) :
      HidesNoList (openParens before) [] (Mark.ofTokens false tokens) := by
    intro front head rest split isHead hidden
    rw [ends.foldl_nest_openParens split, head?_openParens_eq_true_iff] at hidden
    rw [alone split, head?_openParens_eq_true_iff]
    obtain ⟨inner, isOpen⟩ := hidden
    have place : before ++ (tokens ++ behind) =
        (before ++ front.map Mark.token) ++ head.token :: (rest.map Mark.token ++ behind) := by
      rw [← Mark.map_token_ofTokens false tokens, split]
      simp
    exact ⟨inner, ends.argumentsOpen isOpen (undivided _ _ _ _ place isHead isOpen)⟩
  obtain ⟨names, more, found, foundMore, subset, same⟩ := hides.exists_names
  have whole : tablesOf tokens = UniqueList.empty.extend more := foundMore .empty
  refine ⟨names, found, ?_, fun undivided start => ?_⟩
  · rw [whole]
    exact fun name member => UniqueList.mem_extend.2 (.inr (subset member))
  · rw [whole, UniqueList.extend_toList_extend, same (hidesNoList undivided)]
    rfl

/-- A scan goes through a statement, and then through those behind it. -/
theorem TakesAmong.append
    {tokens rest : List Token}
    {semicolon : Token}
    {names tables more others : List String}
    (takes : TakesAmong before tokens (semicolon :: rest) names tables)
    (kind : semicolon.kind = .semicolon)
    (takesMore : TakesAmong (before ++ (tokens ++ [semicolon])) rest [] more others) :
    TakesAmong before (tokens ++ semicolon :: rest) [] (names ++ more) (tables ++ others) where
  found start := by
    have noFunction : Mark.isFunction semicolon = false :=
      Mark.isFunction_of_kind_ne (by simp [kind])
    have opened := ends.foldl_nest_openParens (List.append_nil (Mark.ofTokens false tokens)).symm
    have still :
        openParens (before ++ (tokens ++ [semicolon])) = openParens (before ++ tokens) := by
      rw [← List.append_assoc, openParens_concat, Mark.nest_of_ne (by simp [kind]) (by simp [kind])]
    rw [Mark.ofTokens_append, Mark.ofTokens, noFunction, tablesFrom_append_semicolon kind,
      takes.found, opened, Mark.map_token_ofTokens, ← still, takesMore.found,
      UniqueList.extend_append]
  subset := List.append_subset.2
    ⟨List.subset_append_of_subset_left _ takes.subset,
      List.subset_append_of_subset_right _ takesMore.subset⟩
  same undivided start := by
    rw [List.append_nil] at undivided
    have place : before ++ (tokens ++ [semicolon]) ++ (rest ++ []) =
        before ++ (tokens ++ semicolon :: rest) := by simp
    rw [UniqueList.extend_append, UniqueList.extend_append, takes.same undivided,
      takesMore.same (place ▸ undivided)]

end

/-- The tables of parts of a script, each read by itself without the blanks around it. -/
def tablesOfParts (parts : List (List Char)) : List String :=
  parts.flatMap fun part => (readTables (Text.trim (String.ofList part))).toList

/-- From a script a scan takes tables of its parts. -/
theorem EndsStatement.exists_takesAmong_tablesOfParts
    {before : List Token}
    (ends : EndsStatement before)
    {offset : Nat}
    {parts : List (List Char)}
    (unpadded : ∀ token ∈ tokensOfParts offset parts, token.kind = .quotedIdent →
      Text.trimEnd token.literal = token.literal) :
    ∃ names, TakesAmong before (withoutComments (tokensOfParts offset parts)) [] names
      (tablesOfParts parts) := by
  match parts with
  | [] => exact ⟨[], tablesFrom_nil _, List.Subset.refl _, fun _ _ => rfl⟩
  | [part] =>
      obtain ⟨names, takes⟩ := ends.exists_takesAmong (withoutComments (tokensFrom offset part)) []
      rw [← readTables_trim unpadded] at takes
      exact ⟨names, by simpa [tablesOfParts, tokensOfParts] using takes⟩
  | part :: next :: parts =>
      obtain ⟨unpaddedPart, unpaddedRest⟩ := List.forall_mem_append.1 unpadded
      obtain ⟨names, takes⟩ := ends.exists_takesAmong (withoutComments (tokensFrom offset part)) _
      rw [← readTables_trim unpaddedPart] at takes
      have endsBehind : EndsStatement (before ++ (withoutComments (tokensFrom offset part) ++
          [⟨.semicolon, ";", offset + Text.byteLength part⟩])) :=
        .inr ⟨_, _, (List.append_assoc ..).symm, rfl⟩
      obtain ⟨more, takesMore⟩ := endsBehind.exists_takesAmong_tablesOfParts
        (List.forall_mem_cons.1 unpaddedRest).2
      have both := takes.append ends rfl takesMore
      refine ⟨names ++ more, ?_⟩
      rw [tokensOfParts, withoutComments, List.filter_append, List.filter_cons_of_pos (by rfl)]
      exact both

/-! ## The tables of a script -/

theorem flatMap_filter_of_eq_nil
    {α β : Type}
    {counts : α → Bool}
    {f : α → List β}
    (empty : ∀ a, counts a = false → f a = [])
    (members : List α) :
    (members.filter counts).flatMap f = members.flatMap f := by
  induction members with
  | nil => rfl
  | cons a members inductionHypothesis =>
      cases counted : counts a with
      | true => simp [counted, inductionHypothesis]
      | false => simp [counted, inductionHypothesis, empty a counted]

theorem Part.map_text_place (before : List Char) (texts : List (List Char)) :
    (place before texts).map Part.text = texts := by
  induction texts generalizing before with
  | nil => rfl
  | cons text texts inductionHypothesis => rw [place, List.map_cons, inductionHypothesis]

/-- A part that is no statement names no tables. -/
theorem readTables_of_not_counts
    {part : Part}
    (absent : part.counts false = false) :
    readTables (Text.trim (String.ofList part.text)) = .empty := by
  have comments : ∀ kind ∈ (tokensFrom 0 part.text).map Token.kind,
      kind = .lineComment ∨ kind = .blockComment := by
    simpa [Part.counts, Part.hasCode, Token.isComment, or_iff_not_imp_left] using absent
  rw [← map_kind_tokens_trim] at comments
  have noCode : codeTokens (Text.trim (String.ofList part.text)) = [] := by
    rw [codeTokens, List.filter_eq_nil_iff]
    simpa [Token.isComment, or_iff_not_imp_left] using comments
  rw [readTables, noCode]
  exact tablesFrom_nil _ _

/-- The tables of the statements of a script, each scanned by itself. -/
def tablesOfStatements (script : String) : List String :=
  (codeStatements script).flatMap fun statement => (readTables statement.sql).toList

/-- The statements of a script have the tables of its parts. -/
theorem tablesOfStatements_eq
    {script : String}
    {parts : List (List Char)}
    (divides : Divides parts script.toList) :
    tablesOfStatements script = tablesOfParts parts := by
  have sql : (codeStatements script).map Statement.sql =
      ((Part.place [] parts).filter (·.counts false)).map fun part =>
        Text.trim (String.ofList part.text) := by
    rw [codeStatements, statements_eq divides]
    exact List.ext_getElem (by simp) fun _ _ _ => by simp [Part.statement]
  have texts := Part.map_text_place [] parts
  rw [tablesOfStatements, ← List.flatMap_map Statement.sql fun text => (readTables text).toList,
    sql, List.flatMap_map, flatMap_filter_of_eq_nil, tablesOfParts]
  · conv => rhs; rw [← texts, List.flatMap_map]
  · intro part absent
    rw [readTables_of_not_counts absent]
    rfl

/-- **A scan of a script reads the tables of its statements.** If the script does not end in a quoted
name that is left open and has blanks at its end, then a scan of the whole script finds nothing but
tables of its statements. It finds the same list, each table where it occurs first, unless a `FROM`
or `JOIN` stands in arguments that an earlier statement leaves open. -/
theorem readTables_reads_tablesOfStatements
    (script : String)
    (unpadded : ∀ token ∈ (tokens script).getLast?, token.kind = .quotedIdent →
      Text.trimEnd token.literal = token.literal) :
    (readTables script).toList ⊆ tablesOfStatements script ∧
      (ArgumentsUndivided (codeTokens script) →
        (readTables script).toList = (tablesOfStatements script).eraseDups) := by
  obtain ⟨parts, divides⟩ := exists_divides script.toList
  have solid := trimEnd_literal_of_quotedIdent unpadded
  rw [divides.tokens_eq] at solid
  have start : EndsStatement [] := .inl rfl
  obtain ⟨names, takes⟩ := start.exists_takesAmong_tablesOfParts solid
  rw [tablesOfStatements_eq divides]
  have whole : readTables script = UniqueList.empty.extend names := by
    rw [← takes.found, ← divides.tokens_eq]
    rfl
  constructor
  · intro name member
    rw [whole, UniqueList.mem_extend] at member
    exact takes.subset (member.resolve_left List.not_mem_nil)
  · intro undivided
    have tokens_eq : codeTokens script =
        [] ++ (withoutComments (tokensOfParts 0 parts) ++ []) := by
      rw [← divides.tokens_eq, List.append_nil]
      rfl
    rw [tokens_eq] at undivided
    rw [whole, takes.same undivided, ← UniqueList.toList_ofList]
    rfl

/-- Two statements, of which the first leaves a parenthesis and the second a quoted name open. -/
def brokenScript : String :=
  "SELECT EXTRACT(YEAR FROM d), f(a FROM t AS \"x;y\", u; SELECT * FROM t JOIN \"v"

theorem brokenScript_reads_tablesOfStatements :
    (∀ token ∈ (tokens brokenScript).getLast?, token.kind = .quotedIdent →
        Text.trimEnd token.literal = token.literal) ∧
      ArgumentsUndivided (codeTokens brokenScript) ∧
      (readTables brokenScript).toList = (tablesOfStatements brokenScript).eraseDups ∧
      (tablesOfStatements brokenScript).eraseDups = ["t", "u", "v"] := by
  have unpadded : ∀ token ∈ (tokens brokenScript).getLast?, token.kind = .quotedIdent →
      Text.trimEnd token.literal = token.literal := by decide +kernel
  have undivided : ArgumentsUndivided (codeTokens brokenScript) := .of_take (by decide +kernel)
  exact ⟨unpadded, undivided,
    (readTables_reads_tablesOfStatements brokenScript unpadded).2 undivided, by decide +kernel⟩

/-- A script whose first statement leaves the arguments of `EXTRACT` open. -/
def openArguments : String :=
  "SELECT EXTRACT(YEAR ; SELECT * FROM t"

/-- A script that ends in an open name and a blank. -/
def openName : String :=
  "SELECT * FROM \"t "

/-- Open arguments hide the tables of a later statement, and a blank in an open name is taken from
the statement only. -/
theorem open_arguments_and_open_name_differ :
    (readTables openArguments).toList = [] ∧
      (tablesOfStatements openArguments).eraseDups = ["t"] ∧
      (readTables openName).toList = ["t "] ∧
      (tablesOfStatements openName).eraseDups = ["t"] := by
  decide +kernel

end Scan
end SqlLineage
