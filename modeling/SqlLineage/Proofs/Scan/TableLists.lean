import SqlLineage.Proofs.Scan.Parentheses
import SqlLineage.Proofs.Scan.TableNames
import SqlLineage.Proofs.UniqueList

/-!
# Lists of tables

Where a table can be named is described by the tokens in front: they end in `FROM` or `JOIN`, or in
a comma of a list behind `FROM`. A list is read from such a place to behind its last table. What it
passes over holds no parenthesis, and no `FROM` or `JOIN` but as a part of a name.
-/

namespace SqlLineage
namespace Scan

/-! ## Where tables are named -/

/-- The tokens begin with a name that is read to its end and has no arguments behind it. -/
def NamesTable (tokens : List Token) (name : String) : Prop :=
  ∃ spelling behind, tokens = spelling ++ behind ∧ Spells spelling name ∧ ¬GoesOn behind ∧
    ∀ token ∈ behind.head?, token.kind ≠ .lparen

/-- Behind the tokens a table is listed: they end in `FROM` or `JOIN` outside the arguments of
functions that use `FROM` for something else, or they end in a comma that continues a list behind
such a `FROM`. Between the place of a table in the list and the comma stand its name and an optional
alias, so that the name ends there and has no arguments. The flag says whether the list is one
behind `FROM`. -/
inductive Listed : Bool → List Token → Prop
  | head {before : List Token} {head : Token}
      (isHead : head.isHead = true)
      (outside : ¬InsideFunction before) :
      Listed (head.isKeyword "FROM") (before ++ [head])
  | comma {before spelling label : List Token} {comma : Token} {name : String}
      (listed : Listed true before)
      (spells : Spells spelling name)
      (isAlias : IsAlias label)
      (isComma : comma.kind = .comma) :
      Listed true (before ++ (spelling ++ (label ++ [comma])))

/-- The last token is a dot. -/
def EndsInDot (tokens : List Token) : Prop :=
  ∃ front dot, tokens = front ++ [dot] ∧ dot.kind = .dot

/-! ## What a list passes over -/

/-- Tokens without parentheses in which `FROM` and `JOIN` stand behind dots only. -/
inductive Passed : List Token → Prop
  | nil : Passed []
  | token {token : Token} {others : List Token}
      (noHead : token.isHead = false)
      (notOpening : token.kind ≠ .lparen)
      (notClosing : token.kind ≠ .rparen)
      (passed : Passed others) :
      Passed (token :: others)
  | dotted {dot part : Token} {others : List Token}
      (isDot : dot.kind = .dot)
      (notOpening : part.kind ≠ .lparen)
      (notClosing : part.kind ≠ .rparen)
      (passed : Passed others) :
      Passed (dot :: part :: others)

theorem Token.isHead_of_kind_ne
    {token : Token}
    (noWord : token.kind ≠ .word) :
    token.isHead = false := by
  simp [isHead, isKeyword, noWord]

theorem Token.kind_of_identifier?
    {token : Token}
    {name : String}
    (isPart : token.identifier? = some name) :
    token.kind = .word ∧ token.literal = name ∨ token.kind = .quotedIdent := by
  unfold identifier? at isPart
  split at isPart
  next word => exact .inl ⟨word, Option.some.inj isPart⟩
  next quoted => exact .inr quoted
  next => cases isPart

theorem Token.isHead_of_isAlias
    {token : Token}
    (isAlias : token.isAlias = true) :
    token.isHead = false := by
  cases head : token.isHead with
  | false => rfl
  | true => simp [Token.isAlias, kind_of_isHead head, isReserved_of_isHead head] at isAlias

theorem Token.isHead_of_isAs
    {token : Token}
    (isAs : token.isKeyword "AS" = true) :
    token.isHead = false := by
  simp only [isKeyword, Bool.and_eq_true, Text.eqIgnoreAsciiCase, beq_iff_eq] at isAs
  simp only [isHead, isKeyword, Text.eqIgnoreAsciiCase, isAs.2]
  simp

namespace Passed

theorem append
    {front back : List Token}
    (passedFront : Passed front)
    (passedBack : Passed back) :
    Passed (front ++ back) := by
  induction passedFront with
  | nil => exact passedBack
  | token noHead notOpening notClosing _ inductionHypothesis =>
      exact .token noHead notOpening notClosing inductionHypothesis
  | dotted isDot notOpening notClosing _ inductionHypothesis =>
      exact .dotted isDot notOpening notClosing inductionHypothesis

theorem single
    {token : Token}
    (noHead : token.isHead = false)
    (notOpening : token.kind ≠ .lparen)
    (notClosing : token.kind ≠ .rparen) :
    Passed [token] :=
  .token noHead notOpening notClosing .nil

theorem noParens
    {tokens : List Token}
    (passed : Passed tokens) :
    ∀ token ∈ tokens, token.kind ≠ .lparen ∧ token.kind ≠ .rparen := by
  induction passed with
  | nil => simp
  | token _ notOpening notClosing _ inductionHypothesis =>
      exact List.forall_mem_cons.2 ⟨⟨notOpening, notClosing⟩, inductionHypothesis⟩
  | dotted isDot notOpening notClosing _ inductionHypothesis =>
      refine List.forall_mem_cons.2 ⟨by simp [isDot], ?_⟩
      exact List.forall_mem_cons.2 ⟨⟨notOpening, notClosing⟩, inductionHypothesis⟩

/-- No `FROM` or `JOIN` is passed over unless a dot stands in front of it. -/
theorem endsInDot
    {front after : List Token}
    {head : Token}
    (passed : Passed (front ++ head :: after))
    (isHead : head.isHead = true) :
    EndsInDot front := by
  generalize split : front ++ head :: after = tokens at passed
  induction passed generalizing front with
  | nil => simp at split
  | token noHead _ _ _ inductionHypothesis =>
      match front with
      | [] =>
          obtain ⟨rfl, -⟩ := List.cons.inj split
          simp [isHead] at noHead
      | first :: front =>
          obtain ⟨before, dot, rfl, isDot⟩ := inductionHypothesis (List.cons.inj split).2
          exact ⟨first :: before, dot, rfl, isDot⟩
  | dotted isDot _ _ _ inductionHypothesis =>
      match front with
      | [] =>
          obtain ⟨rfl, -⟩ := List.cons.inj split
          simp [Token.kind_of_isHead isHead] at isDot
      | [first] =>
          obtain ⟨rfl, -⟩ := List.cons.inj split
          exact ⟨[], first, rfl, isDot⟩
      | first :: second :: front =>
          obtain ⟨before, dot, rfl, isDot⟩ :=
            inductionHypothesis (List.cons.inj (List.cons.inj split).2).2
          exact ⟨first :: second :: before, dot, rfl, isDot⟩

end Passed

theorem DottedParts.passed
    {tokens : List Token}
    {names : List String}
    (parts : DottedParts tokens names) :
    Passed tokens := by
  induction parts with
  | nil => exact .nil
  | cons isDot isPart _ inductionHypothesis =>
      rcases Token.kind_of_identifier? isPart with ⟨kind, -⟩ | kind <;>
        exact .dotted isDot (by simp [kind]) (by simp [kind]) inductionHypothesis

theorem Spells.ne_nil
    {tokens : List Token}
    {name : String}
    (spells : Spells tokens name) :
    tokens ≠ [] := by
  cases spells
  exact List.cons_ne_nil _ _

theorem Spells.passed
    {tokens : List Token}
    {name : String}
    (spells : Spells tokens name) :
    Passed tokens := by
  cases spells with
  | mk isPart allowed others =>
      rcases Token.kind_of_identifier? isPart with ⟨kind, rfl⟩ | kind
      · refine .token ?_ (by simp [kind]) (by simp [kind]) others.passed
        rw [Bool.eq_false_iff]
        exact fun head => allowed ⟨kind, Token.isReserved_of_isHead head⟩
      · exact .token (Token.isHead_of_kind_ne (by simp [kind])) (by simp [kind]) (by simp [kind])
          others.passed

theorem Token.passed_of_isAlias
    {token : Token}
    (isAlias : token.isAlias = true) :
    Passed [token] := by
  have kinds : token.kind = .quotedIdent ∨ token.kind = .word := by
    simp only [Token.isAlias, Bool.or_eq_true, Bool.and_eq_true, beq_iff_eq] at isAlias
    exact isAlias.imp_right And.left
  rcases kinds with kind | kind <;>
    exact .single (isHead_of_isAlias isAlias) (by simp [kind]) (by simp [kind])

theorem Token.passed_of_isAs
    {token : Token}
    (isAs : token.isKeyword "AS" = true) :
    Passed [token] := by
  have kind := kind_of_isKeyword isAs
  exact .single (isHead_of_isAs isAs) (by simp [kind]) (by simp [kind])

theorem IsAlias.passed
    {tokens : List Token}
    (isAlias : IsAlias tokens) :
    Passed tokens := by
  cases isAlias with
  | none => exact .nil
  | bare isAlias => exact Token.passed_of_isAlias isAlias
  | missing isAs => exact Token.passed_of_isAs isAs
  | behindAs isAs isAlias =>
      exact (Token.passed_of_isAs isAs).append (Token.passed_of_isAlias isAlias)

/-! ## What is taken -/

/-- Tables, each with its position, are taken from the tokens `passed` of a text: they stand there
in order, and each is named where a table is listed. -/
structure Takes (before passed behind : List Token) (taken : List (Nat × String)) : Prop where
  /-- The tables are named where tables are listed. -/
  named : ∀ table ∈ taken, ∃ front after, passed ++ behind = front ++ after ∧
    front.length < passed.length ∧ table.1 = (before ++ front).length ∧
    (∃ isFrom, Listed isFrom (before ++ front)) ∧ NamesTable after table.2
  /-- The tables are in order. -/
  ordered : taken.Pairwise fun table other => table.1 < other.1

namespace Takes

theorem nil (before passed behind : List Token) : Takes before passed behind [] where
  named := by simp
  ordered := .nil

theorem append
    {before passed others behind : List Token}
    {taken more : List (Nat × String)}
    (takes : Takes before passed (others ++ behind) taken)
    (takesMore : Takes (before ++ passed) others behind more) :
    Takes before (passed ++ others) behind (taken ++ more) where
  named := by
    intro table member
    rcases List.mem_append.1 member with member | member
    · obtain ⟨front, after, split, within, position, listed, names⟩ := takes.named table member
      refine ⟨front, after, by rw [← split, List.append_assoc], ?_, position, listed, names⟩
      rw [List.length_append]
      omega
    · obtain ⟨front, after, split, within, position, listed, names⟩ := takesMore.named table member
      rw [List.append_assoc] at position listed
      refine ⟨passed ++ front, after, by simp [split], ?_, position, listed, names⟩
      simpa using within
  ordered := by
    refine List.pairwise_append.2
      ⟨takes.ordered, takesMore.ordered, fun table member other later => ?_⟩
    obtain ⟨front, _, _, within, position, _⟩ := takes.named table member
    obtain ⟨front, _, _, _, otherPosition, _⟩ := takesMore.named other later
    simp only [List.length_append] at position otherPosition
    omega

/-- One table where a table is listed. -/
theorem single
    {isFrom : Bool}
    {before passed behind : List Token}
    {name : String}
    (listed : Listed isFrom before)
    (names : NamesTable (passed ++ behind) name)
    (nonempty : passed ≠ []) :
    Takes before passed behind [(before.length, name)] where
  named := by
    rw [List.forall_mem_singleton]
    exact ⟨[], passed ++ behind, rfl, List.length_pos_iff.2 nonempty, by simp,
      ⟨isFrom, by rwa [List.append_nil]⟩, names⟩
  ordered := List.pairwise_singleton _ _

end Takes

/-! ## Lists of tables -/

section

variable {isFrom : Bool} {found : UniqueList String} {marks rest : List Mark} {name : String}

theorem listedTables_of_not_named
    (unnamed : ∀ name rest, qualifiedName? marks = some (name, rest) →
      Mark.next .lparen rest = true) :
    listedTables isFrom found marks = (found, marks) := by
  rw [listedTables]
  split
  next => rfl
  next name rest read => rw [if_pos (unnamed name rest read)]

theorem listedTables_of_comma
    {comma : Mark}
    {more : List Mark}
    (read : qualifiedName? marks = some (name, rest))
    (noArguments : Mark.next .lparen rest = false)
    (behind : skipAlias rest = comma :: more)
    (isComma : comma.is .comma = true) :
    listedTables true found marks = listedTables true (found.insert name) more := by
  conv => lhs; rw [listedTables]
  split
  next unread => simp [read] at unread
  next _ _ readAgain =>
    cases readAgain.symm.trans read
    rw [if_neg (by simp [noArguments])]
    split
    next ends => simp [behind] at ends
    next _ _ behindAgain =>
      cases behindAgain.symm.trans behind
      rw [if_pos (by simp [isComma])]

theorem listedTables_of_last
    (read : qualifiedName? marks = some (name, rest))
    (noArguments : Mark.next .lparen rest = false)
    (last : isFrom = true → Mark.next .comma (skipAlias rest) = false) :
    listedTables isFrom found marks = (found.insert name, skipAlias rest) := by
  rw [listedTables]
  split
  next unread => simp [read] at unread
  next _ _ readAgain =>
    cases readAgain.symm.trans read
    rw [if_neg (by simp [noArguments])]
    split
    next ends => rw [ends]
    next behind =>
      rw [behind] at last ⊢
      rw [if_neg]
      simpa [Mark.next] using last

theorem next_eq_false_iff {kind : Kind} :
    Mark.next kind marks = false ↔
      ∀ token ∈ (marks.map Mark.token).head?, token.kind ≠ kind := by
  cases marks <;> simp [Mark.next, Mark.is]

/-- A table is named just if its name is read and has no arguments. -/
theorem namesTable_iff :
    NamesTable (marks.map Mark.token) name ↔
      ∃ rest, qualifiedName? marks = some (name, rest) ∧ Mark.next .lparen rest = false := by
  simp only [next_eq_false_iff, qualifiedName?_eq_some_iff]
  constructor
  · rintro ⟨spelling, behind, split, spells, ends, noArguments⟩
    obtain ⟨spelled, rest, rfl, rfl, rfl⟩ := List.map_eq_append_iff.1 split
    exact ⟨rest, ⟨spelled, rfl, spells, ends⟩, noArguments⟩
  · rintro ⟨rest, ⟨spelled, rfl, spells, ends⟩, noArguments⟩
    exact ⟨_, _, List.map_append, spells, ends, noArguments⟩

end

/-- A table in a list: the marks of its name and of its alias, and what is behind them. -/
structure Entry (spelled label rest : List Mark) (name : String) : Prop where
  /-- The name is read. -/
  read : qualifiedName? (spelled ++ (label ++ rest)) = some (name, label ++ rest)
  /-- The name has no arguments behind it. -/
  noArguments : Mark.next .lparen (label ++ rest) = false
  /-- The alias is skipped. -/
  behind : skipAlias (label ++ rest) = rest
  /-- The marks are those of the name. -/
  spells : Spells (spelled.map Mark.token) name
  /-- The marks are those of an alias. -/
  isAlias : IsAlias (label.map Mark.token)

theorem exists_entry
    {marks : List Mark}
    {name : String}
    (names : NamesTable (marks.map Mark.token) name) :
    ∃ spelled label rest, marks = spelled ++ (label ++ rest) ∧ Entry spelled label rest name := by
  obtain ⟨behindName, read, noArguments⟩ := namesTable_iff.1 names
  obtain ⟨spelled, rfl, spells, -⟩ := qualifiedName?_eq_some_iff.1 read
  obtain ⟨label, split, isAlias⟩ := exists_alias behindName
  generalize behind : skipAlias behindName = rest at split
  subst split
  exact ⟨spelled, label, rest, rfl, read, noArguments, behind, spells, isAlias⟩

namespace Entry

variable {spelled label rest : List Mark} {name : String}

theorem passed (entry : Entry spelled label rest name) :
    Passed ((spelled ++ label).map Mark.token) := by
  rw [List.map_append]
  exact entry.spells.passed.append entry.isAlias.passed

/-- The entry names a table, and no other. -/
theorem namesTable_iff_eq (entry : Entry spelled label rest name) {other : String} :
    NamesTable ((spelled ++ (label ++ rest)).map Mark.token) other ↔ other = name := by
  rw [namesTable_iff]
  constructor
  · rintro ⟨_, read, -⟩
    cases read.symm.trans entry.read
    rfl
  · rintro rfl
    exact ⟨_, entry.read, entry.noArguments⟩

/-- The table of an entry is taken where a table is listed. -/
theorem takes
    {isFrom : Bool}
    {before passed behind : List Token}
    (entry : Entry spelled label rest name)
    (listed : Listed isFrom before)
    (split : (spelled ++ (label ++ rest)).map Mark.token = passed ++ behind)
    (nonempty : passed ≠ []) :
    Takes before passed behind [(before.length, name)] := by
  apply Takes.single listed _ nonempty
  rw [← split]
  exact entry.namesTable_iff_eq.2 rfl

end Entry

/-- What a list passes over, and the names of the tables that it takes. -/
structure Listing (isFrom : Bool) (passed rest : List Mark) (names : List String) : Prop where
  /-- The names come in, and the list is left. -/
  listedTables_eq : ∀ found, listedTables isFrom found (passed ++ rest) = (found.extend names, rest)
  /-- There are no parentheses and no other lists in it. -/
  isPassed : Passed (passed.map Mark.token)
  /-- Its tables stand where tables are listed, and a table in front is the first of them. -/
  takes : ∀ before, Listed isFrom before → ∃ taken, taken.map Prod.snd = names ∧
    Takes before (passed.map Mark.token) (rest.map Mark.token) taken ∧
    ∀ name, NamesTable ((passed ++ rest).map Mark.token) name → (before.length, name) ∈ taken

namespace Listing

theorem of_not_named
    {marks : List Mark}
    (unnamed : ∀ name, ¬NamesTable (marks.map Mark.token) name)
    (isFrom : Bool) :
    Listing isFrom [] marks [] where
  listedTables_eq found := by
    apply listedTables_of_not_named
    intro name rest read
    rw [← Bool.not_eq_false]
    exact fun noArguments => unnamed name (namesTable_iff.2 ⟨rest, read, noArguments⟩)
  isPassed := .nil
  takes before _ := ⟨[], rfl, .nil _ _ _, fun name names => absurd names (unnamed name)⟩

variable {isFrom : Bool} {spelled label rest : List Mark} {name : String}

theorem last
    (entry : Entry spelled label rest name)
    (ends : isFrom = true → Mark.next .comma rest = false) :
    Listing isFrom (spelled ++ label) rest [name] where
  listedTables_eq found := by
    have behind := entry.behind
    rw [List.append_assoc, listedTables_of_last entry.read entry.noArguments (by rwa [behind]),
      behind]
    rfl
  isPassed := entry.passed
  takes before listed := by
    refine ⟨[(before.length, name)], rfl, entry.takes listed (by simp) ?_, fun other names => ?_⟩
    · simp [entry.spells.ne_nil]
    · rw [List.append_assoc, entry.namesTable_iff_eq] at names
      rw [names]
      exact List.mem_cons_self

theorem comma
    {comma : Mark}
    {passed : List Mark}
    {names : List String}
    (entry : Entry spelled label (comma :: (passed ++ rest)) name)
    (isComma : comma.is .comma = true)
    (listing : Listing true passed rest names) :
    Listing true (spelled ++ label ++ comma :: passed) rest (name :: names) where
  listedTables_eq found := by
    have split : spelled ++ label ++ comma :: passed ++ rest =
        spelled ++ (label ++ comma :: (passed ++ rest)) := by simp
    rw [split, listedTables_of_comma entry.read entry.noArguments entry.behind isComma,
      listing.listedTables_eq]
    rfl
  isPassed := by
    have kind : comma.token.kind = .comma := by simpa [Mark.is] using isComma
    have noHead := Token.isHead_of_kind_ne (by simp [kind] : comma.token.kind ≠ .word)
    rw [List.map_append]
    exact entry.passed.append (.token noHead (by simp [kind]) (by simp [kind]) listing.isPassed)
  takes before listed := by
    have kind : comma.token.kind = .comma := by simpa [Mark.is] using isComma
    obtain ⟨taken, rfl, takes, -⟩ := listing.takes _ (.comma listed entry.spells entry.isAlias kind)
    have first : Takes before ((spelled ++ label ++ [comma]).map Mark.token)
        (passed.map Mark.token ++ rest.map Mark.token) [(before.length, name)] :=
      entry.takes listed (by simp) (by simp)
    refine ⟨(before.length, name) :: taken, rfl, ?_, fun other names => ?_⟩
    · have both := first.append (by simpa using takes)
      simpa using both
    · have split : spelled ++ label ++ comma :: passed ++ rest =
          spelled ++ (label ++ comma :: (passed ++ rest)) := by simp
      rw [split, entry.namesTable_iff_eq] at names
      rw [names]
      exact List.mem_cons_self

end Listing

/-- Marks begin with a list, which may be empty. -/
theorem exists_listing (isFrom : Bool) (marks : List Mark) :
    ∃ passed rest names, marks = passed ++ rest ∧ Listing isFrom passed rest names := by
  by_cases named : ∃ name, NamesTable (marks.map Mark.token) name
  · obtain ⟨name, names⟩ := named
    obtain ⟨spelled, label, rest, split, entry⟩ := exists_entry names
    by_cases continues : isFrom = true ∧ Mark.next .comma rest = true
    · obtain ⟨rfl, isComma⟩ := continues
      match rest with
      | [] => cases isComma
      | comma :: more =>
          have shorter : more.length < marks.length := by
            simp only [split, List.length_append, List.length_cons]
            omega
          obtain ⟨passed, rest, others, rfl, listing⟩ := exists_listing true more
          exact ⟨_, rest, name :: others, by simp [split], .comma entry isComma listing⟩
    · exact ⟨_, rest, [name], by rw [split, List.append_assoc],
        .last entry (by simpa using continues)⟩
  · exact ⟨[], marks, [], rfl, .of_not_named (not_exists.1 named) isFrom⟩
termination_by marks.length

end Scan
end SqlLineage
