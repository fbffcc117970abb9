import SqlLineage.Proofs.Scan.HiddenTables

/-!
# The list of a FROM clause

The list behind a `FROM` may hold tables, derived tables and table functions. A scan takes the
tables up to the first derived table or table function and leaves the list there. It goes on token
by token, so it takes the tables inside of the parentheses, but a table behind them is passed over:
nothing tells any more that a comma of a list stands in front of it.
-/

namespace SqlLineage
namespace Scan

/-! ## What stands in a list -/

/-- A table of a list, with an optional alias. -/
structure PlainTable where
  /-- The name. -/
  name : String
  /-- The tokens of the name. -/
  spelling : List Token
  /-- The tokens of the alias. -/
  label : List Token
  /-- The tokens spell the name. -/
  spells : Spells spelling name
  /-- The tokens are an alias. -/
  isAlias : IsAlias label

/-- Tokens are the name of a function, which may be a reserved word. -/
inductive NamesFunction : List Token → Prop
  | mk {first : Token} {name : String} {others : List Token} {names : List String}
      (isPart : first.identifier? = some name)
      (parts : DottedParts others names) :
      NamesFunction (first :: others)

/-- Parentheses in a list, with an optional alias: a derived table if nothing stands in front of
them, and else a table function with its arguments. -/
structure Group where
  /-- The name of the function, if any. -/
  function : List Token
  /-- The parenthesis that opens. -/
  opening : Token
  /-- What stands inside. -/
  inner : List Token
  /-- The parenthesis that closes. -/
  closing : Token
  /-- The tokens of the alias. -/
  label : List Token
  /-- A function has a name. -/
  isFunction : function = [] ∨ NamesFunction function
  /-- It opens. -/
  opens : opening.kind = .lparen
  /-- It closes. -/
  closes : closing.kind = .rparen
  /-- Each parenthesis inside is closed. -/
  balanced : Balanced inner
  /-- The tokens are an alias. -/
  isAlias : IsAlias label

/-- The tables inside of the parentheses. Arguments of a function that uses `FROM` for something
else hide those that no further parenthesis holds. -/
def Group.tables (group : Group) : List String :=
  let parens := if Mark.endsInFunction false group.function then [true] else []
  (tablesFrom parens .empty (Mark.ofTokens false group.inner)).toList

/-- What a comma separates in the list of a `FROM`. -/
inductive FromItem
  /-- A table. -/
  | table (plain : PlainTable)
  /-- A derived table or a table function. -/
  | group (parens : Group)

namespace FromItem

/-- The tokens of an item. -/
def tokens : FromItem → List Token
  | table plain => plain.spelling ++ plain.label
  | group parens =>
      parens.function ++ parens.opening :: (parens.inner ++ parens.closing :: parens.label)

/-- The name of a table of the list. -/
def names : FromItem → List String
  | table plain => [plain.name]
  | group _ => []

/-- The tables inside of the parentheses of an item. -/
def inside : FromItem → List String
  | table _ => []
  | group parens => parens.tables

/-- Whether the item is a table. -/
def isTable : FromItem → Bool
  | table _ => true
  | group _ => false

/-- No part of the name of the item is a `FROM` or `JOIN`. -/
def NoHead : FromItem → Prop
  | table plain => ∀ token ∈ plain.spelling, token.isHead = false
  | group parens => ∀ token ∈ parens.function, token.isHead = false

instance : (item : FromItem) → Decidable item.NoHead
  | table plain => inferInstanceAs (Decidable (∀ token ∈ plain.spelling, token.isHead = false))
  | group parens => inferInstanceAs (Decidable (∀ token ∈ parens.function, token.isHead = false))

end FromItem

/-- Tokens are items with commas between them. -/
inductive FromList : List FromItem → List Token → Prop
  | last (item : FromItem) : FromList [item] item.tokens
  | comma {comma : Token} {items : List FromItem} {tokens : List Token}
      (item : FromItem)
      (isComma : comma.kind = .comma)
      (others : FromList items tokens) :
      FromList (item :: items) (item.tokens ++ comma :: tokens)

/-- The tables of a list in front of the first derived table or table function. -/
def leadingNames (items : List FromItem) : List String :=
  (items.takeWhile FromItem.isTable).flatMap FromItem.names

/-- The items of a list from the first derived table or table function on. -/
def itemsFromGroup (items : List FromItem) : List FromItem :=
  items.dropWhile FromItem.isTable

/-- The tables that a scan takes from `tokens` behind the tokens `before`. -/
def tablesBehind (before tokens : List Token) : List String :=
  (tablesFrom (openParens before) .empty
    (Mark.ofTokens (Mark.endsInFunction false before) tokens)).toList

/-! ## Passing items over -/

/-- What stands in front of the marks matters only to a parenthesis. -/
theorem tablesFrom_ofTokens_eq
    {tokens : List Token}
    (notOpening : ∀ token ∈ tokens.head?, token.kind ≠ .lparen)
    (behindFunction : Bool)
    (parens : List Bool)
    (found : UniqueList String) :
    tablesFrom parens found (Mark.ofTokens behindFunction tokens) =
      tablesFrom parens found (Mark.ofTokens false tokens) := by
  cases tokens with
  | nil => rfl
  | cons token tokens =>
      rw [Mark.ofTokens, Mark.ofTokens]
      by_cases begins : token.isHead = true ∧ parens.head? ≠ some true
      · rw [tablesFrom_of_head begins.1 begins.2, tablesFrom_of_head begins.1 begins.2]
      · have noList : token.isHead = true → parens.head? = some true := by simpa using begins
        rw [tablesFrom_of_token noList, tablesFrom_of_token noList]
        have notOpeningHere := notOpening token rfl
        by_cases closes : token.kind = .rparen
        · rw [Mark.nest_of_rparen closes, Mark.nest_of_rparen closes]
        · rw [Mark.nest_of_ne notOpeningHere closes, Mark.nest_of_ne notOpeningHere closes]

theorem IsAlias.noHead
    {tokens : List Token}
    (isAlias : IsAlias tokens) :
    ∀ token ∈ tokens, token.isHead = false := by
  cases isAlias with
  | none => simp
  | bare isLabel => simpa using Token.isHead_of_isAlias isLabel
  | missing isAs => simpa using Token.isHead_of_isAs isAs
  | behindAs isAs isLabel =>
      simpa using ⟨Token.isHead_of_isAs isAs, Token.isHead_of_isAlias isLabel⟩

theorem NamesFunction.noParens
    {tokens : List Token}
    (named : NamesFunction tokens) :
    ∀ token ∈ tokens, token.kind ≠ .lparen ∧ token.kind ≠ .rparen := by
  cases named with
  | mk isPart parts =>
      refine List.forall_mem_cons.2 ⟨?_, parts.passed.noParens⟩
      rcases Token.kind_of_identifier? isPart with ⟨kind, -⟩ | kind <;> simp [kind]

/-- Tokens that begin no list and are no parentheses are passed over. -/
theorem tablesFrom_ofTokens_append
    {passed rest : List Token}
    (noHead : ∀ token ∈ passed, token.isHead = false)
    (noParens : ∀ token ∈ passed, token.kind ≠ .lparen ∧ token.kind ≠ .rparen)
    (behindFunction : Bool)
    (parens : List Bool)
    (found : UniqueList String) :
    tablesFrom parens found (Mark.ofTokens behindFunction (passed ++ rest)) =
      tablesFrom parens found
        (Mark.ofTokens (Mark.endsInFunction behindFunction passed) rest) := by
  have isToken {mark : Mark} (member : mark ∈ Mark.ofTokens behindFunction passed) :
      mark.token ∈ passed := by
    rw [← Mark.map_token_ofTokens behindFunction passed]
    exact List.mem_map_of_mem member
  rw [Mark.ofTokens_append]
  apply tablesFrom_of_noLists
  · intro mark member isHead
    simp [noHead mark.token (isToken member)] at isHead
  · intro mark member
    exact noParens mark.token (isToken member)

/-- From parentheses a scan takes the tables inside. -/
theorem Group.tablesFrom_append
    (group : Group)
    (noHead : ∀ token ∈ group.function, token.isHead = false)
    (parens : List Bool)
    (found : UniqueList String)
    {rest : List Token}
    (notOpening : ∀ token ∈ rest.head?, token.kind ≠ .lparen) :
    tablesFrom parens found (Mark.ofTokens false ((FromItem.group group).tokens ++ rest)) =
      tablesFrom parens (found.extend group.tables) (Mark.ofTokens false rest) := by
  have noParens : ∀ token ∈ group.function, token.kind ≠ .lparen ∧ token.kind ≠ .rparen := by
    rcases group.isFunction with none | named
    · simp [none]
    · exact named.noParens
  have functionOpens : Mark.isFunction group.opening = false :=
    Mark.isFunction_of_kind_ne (by simp [group.opens])
  have functionCloses : Mark.isFunction group.closing = false :=
    Mark.isFunction_of_kind_ne (by simp [group.closes])
  have opensNoList := Token.isHead_of_kind_ne (by simp [group.opens] : group.opening.kind ≠ .word)
  have closesNoList :=
    Token.isHead_of_kind_ne (by simp [group.closes] : group.closing.kind ≠ .word)
  have closesNoName : group.closing.identifier? = none := by
    unfold Token.identifier?
    rw [group.closes]
  have closesEndsList : group.closing.EndsList :=
    ⟨.of_kind (by simp [group.closes]), by simp [group.closes]⟩
  -- The tables inside do not depend on the parentheses around, except for the innermost one.
  have inner (function : Bool) (same : Mark.endsInFunction false group.function = function) :
      tablesFrom (function :: parens) found (Mark.ofTokens false group.inner) =
        found.extend group.tables := by
    rw [tablesFrom_eq_extend, Group.tables, same]
    congr 2
    apply tablesFrom_of_balanced
    · rw [Mark.map_token_ofTokens]
      exact group.balanced
    · cases function <;> simp
  have split : (FromItem.group group).tokens ++ rest =
      group.function ++ group.opening :: (group.inner ++ group.closing :: (group.label ++ rest)) := by
    simp [FromItem.tokens]
  rw [split, tablesFrom_ofTokens_append noHead noParens, Mark.ofTokens, functionOpens,
    tablesFrom_of_token (by simp [opensNoList]), Mark.nest_of_lparen group.opens,
    Mark.ofTokens_append, Mark.ofTokens, functionCloses,
    tablesFrom_append_stop closesEndsList _ _ (.inl closesNoName), inner _ rfl,
    group.balanced.foldl_nest (Mark.map_token_ofTokens _ _),
    tablesFrom_of_token (by simp [closesNoList]), Mark.nest_of_rparen group.closes, List.tail_cons,
    tablesFrom_ofTokens_append group.isAlias.noHead group.isAlias.passed.noParens,
    tablesFrom_ofTokens_eq notOpening]

/-- From an item that begins no list a scan takes the tables inside. -/
theorem FromItem.tablesFrom_append
    (item : FromItem)
    (noHead : item.NoHead)
    (parens : List Bool)
    (found : UniqueList String)
    {rest : List Token}
    (notOpening : ∀ token ∈ rest.head?, token.kind ≠ .lparen) :
    tablesFrom parens found (Mark.ofTokens false (item.tokens ++ rest)) =
      tablesFrom parens (found.extend item.inside) (Mark.ofTokens false rest) := by
  cases item with
  | table plain =>
      rw [tokens, tablesFrom_ofTokens_append, tablesFrom_ofTokens_eq notOpening, inside,
        UniqueList.extend_nil]
      · exact List.forall_mem_append.2 ⟨noHead, plain.isAlias.noHead⟩
      · exact List.forall_mem_append.2
          ⟨plain.spells.passed.noParens, plain.isAlias.passed.noParens⟩
  | group parens => exact parens.tablesFrom_append noHead _ found notOpening

namespace FromList

variable {items : List FromItem} {tokens rest : List Token} {parens : List Bool}

/-- From items that begin no list a scan takes the tables inside. -/
theorem tablesFrom_append
    (list : FromList items tokens)
    (noHead : ∀ item ∈ items, item.NoHead)
    (found : UniqueList String)
    (notOpening : ∀ token ∈ rest.head?, token.kind ≠ .lparen) :
    tablesFrom parens found (Mark.ofTokens false (tokens ++ rest)) =
      tablesFrom parens (found.extend (items.flatMap FromItem.inside))
        (Mark.ofTokens false rest) := by
  induction list generalizing found with
  | last item =>
      rw [item.tablesFrom_append (noHead item List.mem_cons_self) _ found notOpening]
      simp
  | @comma comma items tokens item isComma _ inductionHypothesis =>
      obtain ⟨noHeadHere, noHeadBehind⟩ := List.forall_mem_cons.1 noHead
      have noList := Token.isHead_of_kind_ne (by simp [isComma] : comma.kind ≠ .word)
      rw [List.append_assoc, List.cons_append,
        item.tablesFrom_append noHeadHere _ found (by simp [isComma]), Mark.ofTokens,
        Mark.isFunction_of_kind_ne (by simp [isComma]), tablesFrom_of_token (by simp [noList]),
        Mark.nest_of_ne (by simp [isComma]) (by simp [isComma]), inductionHypothesis noHeadBehind,
        List.flatMap_cons, UniqueList.extend_append]

end FromList

/-! ## Up to the first parentheses -/

/-- A table of a list is read up to where it ends. -/
theorem PlainTable.exists_entry
    (plain : PlainTable)
    {rest : List Token}
    (ends : ∀ token ∈ rest.head?, token.EndsEntry) :
    ∃ spelled label behindFunction,
      Mark.ofTokens false ((FromItem.table plain).tokens ++ rest) =
        spelled ++ (label ++ Mark.ofTokens behindFunction rest) ∧
      Entry spelled label (Mark.ofTokens behindFunction rest) plain.name := by
  let behindName := Mark.endsInFunction false plain.spelling
  refine ⟨Mark.ofTokens false plain.spelling, Mark.ofTokens behindName plain.label,
    Mark.endsInFunction behindName plain.label, ?_, .of_ends ?_ ?_ ?_⟩
  · rw [FromItem.tokens, List.append_assoc, Mark.ofTokens_append, Mark.ofTokens_append]
  · rw [Mark.map_token_ofTokens]
    exact plain.spells
  · rw [Mark.map_token_ofTokens]
    exact plain.isAlias
  · intro mark first
    cases rest with
    | nil => cases first
    | cons token rest =>
        obtain rfl := Option.some.inj first
        exact ends token rfl

/-- Parentheses name no table, with or without a function in front of them. -/
theorem Group.not_namesTable (group : Group) (rest : List Token) (name : String) :
    ¬NamesTable ((FromItem.group group).tokens ++ rest) name := by
  have noPart : group.opening.identifier? = none := by
    unfold Token.identifier?
    rw [group.opens]
  rw [← Mark.map_token_ofTokens false ((FromItem.group group).tokens ++ rest), namesTable_iff]
  rintro ⟨behind, read, noArguments⟩
  rcases group.isFunction with none | named
  · simp [FromItem.tokens, none, Mark.ofTokens, qualifiedName?, noPart] at read
  · have split : (FromItem.group group).tokens ++ rest = group.function ++
        group.opening :: (group.inner ++ group.closing :: (group.label ++ rest)) := by
      simp [FromItem.tokens]
    generalize group.inner ++ group.closing :: (group.label ++ rest) = inner at split
    rw [split, Mark.ofTokens_append] at read
    generalize group.function = function at named read
    cases named with
    | @mk first part others names isPart parts =>
        -- A name is read up to the parenthesis, where arguments begin.
        have spelled (behindFunction : Bool) :
            qualifiedName? (Mark.ofTokens false (first :: others) ++
                Mark.ofTokens behindFunction (group.opening :: inner)) =
              some (".".intercalate (part :: names),
                Mark.ofTokens behindFunction (group.opening :: inner)) := by
          refine qualifiedName?_eq_some_iff.2 ⟨_, rfl, ?_, ?_⟩
          · rw [Mark.map_token_ofTokens]
            refine .mk isPart ?_ parts
            rintro ⟨word, reserved⟩
            simp [Mark.ofTokens, qualifiedName?, isPart, Mark.is, word, reserved] at read
          · rw [Mark.map_token_ofTokens]
            rintro ⟨dot, _, _, split, isDot, -⟩
            simp [← (List.cons.inj split).1, group.opens] at isDot
        cases read.symm.trans (spelled _)
        simp [Mark.ofTokens, Mark.next, Mark.is, group.opens] at noArguments

/-- A list gives its tables up to the first parentheses, and the scan behind it those inside of
them. -/
theorem FromList.tablesFrom_listedTables
    {items : List FromItem}
    {tokens rest : List Token}
    (list : FromList items tokens)
    (noHead : ∀ item ∈ itemsFromGroup items, item.NoHead)
    (parens : List Bool)
    (found : UniqueList String)
    (ends : ∀ token ∈ rest.head?, token.EndsList) :
    tablesFrom parens (listedTables true found (Mark.ofTokens false (tokens ++ rest))).1
        (listedTables true found (Mark.ofTokens false (tokens ++ rest))).2 =
      tablesFrom parens (found.extend (leadingNames items ++ items.flatMap FromItem.inside))
        (Mark.ofTokens false rest) := by
  have notOpening : ∀ token ∈ rest.head?, token.kind ≠ .lparen :=
    fun token first => (ends token first).notOpening
  -- At parentheses the list is left, so that the scan goes over the remaining items.
  have left {group : Group} {items : List FromItem} {tokens : List Token}
      (list : FromList (.group group :: items) tokens)
      (noHead : ∀ item ∈ FromItem.group group :: items, item.NoHead)
      (found : UniqueList String) :
      tablesFrom parens (listedTables true found (Mark.ofTokens false (tokens ++ rest))).1
          (listedTables true found (Mark.ofTokens false (tokens ++ rest))).2 =
        tablesFrom parens
          (found.extend ((FromItem.group group :: items).flatMap FromItem.inside))
          (Mark.ofTokens false rest) := by
    have unnamed (name : String) :
        ¬NamesTable ((Mark.ofTokens false (tokens ++ rest)).map Mark.token) name := by
      rw [Mark.map_token_ofTokens]
      cases list with
      | last => exact group.not_namesTable rest name
      | comma _ isComma others =>
          rw [List.append_assoc]
          exact group.not_namesTable _ name
    have listing := (Listing.of_not_named unnamed true).listedTables_eq found
    rw [List.nil_append] at listing
    rw [listing]
    exact list.tablesFrom_append noHead _ notOpening
  induction list generalizing found with
  | last item =>
      cases item with
      | group group => exact left (.last _) noHead found
      | table plain =>
          obtain ⟨spelled, label, behindFunction, split, entry⟩ :=
            plain.exists_entry fun token first => (ends token first).toEndsEntry
          have noComma : Mark.next .comma (Mark.ofTokens behindFunction rest) = false := by
            apply next_eq_false_iff.2
            rw [Mark.map_token_ofTokens]
            exact fun token first => (ends token first).notComma
          rw [split, listedTables_of_last entry.read entry.noArguments
            (fun _ => by rw [entry.behind, noComma]), entry.behind, tablesFrom_ofTokens_eq notOpening]
          rfl
  | @comma comma items tokens item isComma others inductionHypothesis =>
      cases item with
      | group group => exact left (.comma _ isComma others) noHead found
      | table plain =>
          have commaEnds : ∀ token ∈ (comma :: (tokens ++ rest)).head?, token.EndsEntry := by
            intro token first
            obtain rfl := Option.some.inj first
            exact .of_kind (by simp [isComma])
          obtain ⟨spelled, label, behindFunction, split, entry⟩ := plain.exists_entry commaEnds
          rw [Mark.ofTokens] at split entry
          rw [List.append_assoc, List.cons_append, split,
            listedTables_of_comma entry.read entry.noArguments entry.behind
              (by simp [Mark.is, isComma]),
            Mark.isFunction_of_kind_ne (by simp [isComma]), inductionHypothesis noHead]
          rfl

/-! ## A list within a text -/

theorem Mark.isFunction_of_isFrom
    {token : Token}
    (isFrom : token.isKeyword "FROM" = true) :
    isFunction token = false := by
  simp only [Token.isKeyword, Bool.and_eq_true, Text.eqIgnoreAsciiCase, beq_iff_eq] at isFrom
  unfold isFunction fromArgumentFunctions
  simp [Token.isKeyword, Text.eqIgnoreAsciiCase, isFrom.2]

/-- A list leaves the open parentheses as they are. -/
theorem FromList.balanced
    {items : List FromItem}
    {tokens : List Token}
    (list : FromList items tokens) :
    Balanced tokens := by
  have item (item : FromItem) : Balanced item.tokens := by
    cases item with
    | table plain =>
        exact .of_noParens (List.forall_mem_append.2
          ⟨plain.spells.passed.noParens, plain.isAlias.passed.noParens⟩)
    | group group =>
        have front : Balanced group.function := by
          rcases group.isFunction with none | named
          · rw [none]
            exact .nil
          · exact .of_noParens named.noParens
        exact front.append (.group group.opens group.closes group.balanced
          (.of_noParens group.isAlias.passed.noParens))
  induction list with
  | last last => exact item last
  | comma first isComma _ inductionHypothesis =>
      exact (item first).append (.token (by simp [isComma]) (by simp [isComma])
        inductionHypothesis)

/-- **A scan takes the tables of a `FROM` list up to the first parentheses.** Let a text hold a
`FROM` that is no part of a name and stands outside the arguments of functions that use `FROM` for
something else, and a list of tables, derived tables and table functions behind it. Then the scan
finds the tables in front of the `FROM`, the tables of the list that stand in front of the first
derived table or table function, those inside of the parentheses of the list and those behind the
list, in this order. So it finds all tables of the list just if those behind the first parentheses
are found elsewhere. No name from these parentheses on may have a part `FROM` or `JOIN`. -/
theorem readTables_follows_list_to_parentheses
    {text : String}
    {before tokens rest : List Token}
    {head : Token}
    {items : List FromItem}
    (split : codeTokens text = before ++ head :: (tokens ++ rest))
    (isFrom : head.isKeyword "FROM" = true)
    (undotted : ¬EndsInDot before)
    (outside : ¬InsideFunction before)
    (list : FromList items tokens)
    (ends : ∀ token ∈ rest.head?, token.EndsList)
    (noHead : ∀ item ∈ itemsFromGroup items, item.NoHead) :
    let found := (tablesOf before).toList ++ leadingNames items ++
      items.flatMap FromItem.inside ++ tablesBehind (before ++ head :: tokens) rest
    (readTables text).toList = found.eraseDups ∧
      ((∀ name ∈ items.flatMap FromItem.names, name ∈ (readTables text).toList) ↔
        ∀ name ∈ (itemsFromGroup items).flatMap FromItem.names, name ∈ found) := by
  intro found
  have isHead : head.isHead = true := by
    rw [Token.isHead, isFrom, Bool.true_or]
  have notOpening : ∀ token ∈ rest.head?, token.kind ≠ .lparen :=
    fun token first => (ends token first).notOpening
  have outsideParens : (openParens before).head? ≠ some true := by
    rwa [Ne, head?_openParens_eq_true_iff]
  have still : openParens (before ++ head :: tokens) = openParens before := by
    have kind := Token.kind_of_isHead isHead
    have balanced : Balanced (head :: tokens) :=
      .token (by simp [kind]) (by simp [kind]) list.balanced
    rw [openParens, Mark.ofTokens_append, List.foldl_append,
      balanced.foldl_nest (Mark.map_token_ofTokens _ _), ← openParens]
  have leavesOut : LeavesOut head ((Mark.ofTokens false before).map Mark.token) := by
    rw [Mark.map_token_ofTokens]
    exact .inr undotted
  have whole : readTables text = UniqueList.ofList found := by
    have scanned : readTables text = tablesFrom (openParens before)
        ((tablesOf before).extend (leadingNames items ++ items.flatMap FromItem.inside))
        (Mark.ofTokens false rest) := by
      rw [readTables, split, Mark.ofTokens_append, Mark.ofTokens, Mark.isFunction_of_isFrom isFrom,
        tablesFrom_append_stop (.of_isHead isHead) _ _ leavesOut, ← openParens, ← tablesOf,
        tablesFrom_of_head isHead outsideParens, isFrom,
        list.tablesFrom_listedTables noHead _ _ ends]
    rw [scanned, tablesFrom_eq_extend, ← tablesFrom_ofTokens_eq notOpening
      (Mark.endsInFunction false (before ++ head :: tokens)), ← still, ← tablesBehind]
    simp only [found, UniqueList.ofList, UniqueList.extend_append]
    congr 3
    exact tablesFrom_eq_extend [] .empty (Mark.ofTokens false before)
  have members (name : String) : name ∈ (readTables text).toList ↔ name ∈ found := by
    rw [whole, UniqueList.toList_ofList, List.mem_eraseDups]
  refine ⟨by rw [whole, UniqueList.toList_ofList], ?_⟩
  simp only [members]
  have parts : items.flatMap FromItem.names =
      leadingNames items ++ (itemsFromGroup items).flatMap FromItem.names := by
    rw [leadingNames, itemsFromGroup, ← List.flatMap_append, List.takeWhile_append_dropWhile]
  constructor
  · intro all name behind
    exact all name (by rw [parts]; exact List.mem_append_right _ behind)
  · intro behind name member
    rw [parts] at member
    rcases List.mem_append.1 member with leading | behindGroup
    · simp [found, leading]
    · exact behind name behindGroup

/-- A word that is not reserved, as a table without an alias. -/
def PlainTable.ofWord
    (word : Token)
    (isWord : word.kind = .word)
    (unreserved : isReserved word.literal = false) :
    PlainTable where
  name := ".".intercalate [word.literal]
  spelling := [word]
  label := []
  spells := .mk (by simp [Token.identifier?, isWord]) (by simp [unreserved]) .nil
  isAlias := .none

/-- A derived table without tables. -/
def derivedTable : Group where
  function := []
  opening := ⟨.lparen, "(", 17⟩
  inner := [⟨.word, "SELECT", 18⟩, ⟨.number, "1", 25⟩]
  closing := ⟨.rparen, ")", 26⟩
  label := [⟨.word, "x", 28⟩]
  isFunction := .inl rfl
  opens := rfl
  closes := rfl
  balanced := .of_noParens (by decide)
  isAlias := .bare (by decide)

/-- The table in front of the derived table. -/
def tableInFront : FromItem :=
  .table (.ofWord ⟨.word, "a", 14⟩ rfl (by decide))

/-- The table behind the derived table. -/
def tableBehind : FromItem :=
  .table (.ofWord ⟨.word, "b", 31⟩ rfl (by decide))

/-- The tokens of a list with a table on either side of a derived table. -/
def listAroundDerivedTable : List Token :=
  tableInFront.tokens ++ ⟨.comma, ",", 15⟩ ::
    ((FromItem.group derivedTable).tokens ++ ⟨.comma, ",", 29⟩ :: tableBehind.tokens)

theorem fromList_around_derivedTable :
    FromList [tableInFront, .group derivedTable, tableBehind] listAroundDerivedTable :=
  .comma _ rfl (.comma _ rfl (.last _))

/-- A query of the tables in the list. -/
def queryAroundDerivedTable : String :=
  "SELECT * FROM a, (SELECT 1) x, b"

/-- The tokens in front of the list. -/
def selectAll : List Token :=
  [⟨.word, "SELECT", 0⟩, ⟨.symbol, "*", 7⟩]

theorem codeTokens_queryAroundDerivedTable :
    codeTokens queryAroundDerivedTable =
      selectAll ++ ⟨.word, "FROM", 9⟩ :: (listAroundDerivedTable ++ []) := by
  decide +kernel

/-- The table in front of a derived table is found, and the one behind it is not. -/
theorem readTables_leaves_list_at_derived_table :
    (readTables queryAroundDerivedTable).toList = ["a"] ∧
      ¬∀ name ∈ [tableInFront, .group derivedTable, tableBehind].flatMap FromItem.names,
        name ∈ (readTables queryAroundDerivedTable).toList := by
  obtain ⟨names, all_iff⟩ := readTables_follows_list_to_parentheses
    codeTokens_queryAroundDerivedTable rfl (by decide) (by decide)
    fromList_around_derivedTable (by simp) (by decide)
  exact ⟨names.trans (by decide +kernel), fun all => absurd (all_iff.1 all) (by decide +kernel)⟩

/-- Not all tables of a list are found. -/
theorem table_behind_parentheses_lost :
    ¬∀ (text : String) (before tokens rest : List Token) (head : Token) (items : List FromItem),
      codeTokens text = before ++ head :: (tokens ++ rest) → head.isKeyword "FROM" = true →
        ¬EndsInDot before → ¬InsideFunction before → FromList items tokens →
        (∀ token ∈ rest.head?, token.EndsList) →
        ∀ name ∈ items.flatMap FromItem.names, name ∈ (readTables text).toList := by
  intro all
  have found := all _ _ _ _ _ _ codeTokens_queryAroundDerivedTable rfl (by decide) (by decide)
    fromList_around_derivedTable (by simp)
  exact absurd (found "b" (by decide +kernel)) (by decide +kernel)

end Scan
end SqlLineage
