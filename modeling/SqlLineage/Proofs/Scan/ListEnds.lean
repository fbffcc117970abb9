import SqlLineage.Proofs.Scan.SeenTokens

/-!
# Where a list of tables ends

A token that is no alias and goes on with neither a name nor a list ends the list in front of it,
unless it is a word behind a dot and so a part of a name. A scan goes up to such a token as if
nothing stood behind, and goes on from there with the parentheses that are open. What a scan finds
does not depend on what it has found already, and a token that begins no list is passed over.
-/

namespace SqlLineage
namespace Scan

/-- The token ends a table of a list: it is no alias and goes on with no name. -/
structure Token.EndsEntry (token : Token) : Prop where
  /-- It is no alias. -/
  notAlias : token.isAlias = false
  /-- It begins no alias. -/
  notAs : token.isKeyword "AS" = false
  /-- It does not go on with a name. -/
  notDot : token.kind ≠ .dot
  /-- It does not begin arguments. -/
  notOpening : token.kind ≠ .lparen

/-- The token ends a list of tables: it ends a table and does not go on with the list. -/
structure Token.EndsList (token : Token) : Prop extends token.EndsEntry where
  /-- It does not go on with a list. -/
  notComma : token.kind ≠ .comma

/-- A token that is no word, no quoted name and no punctuation of names ends a table. -/
theorem Token.EndsEntry.of_kind
    {token : Token}
    (kind : token.kind ∉ [Kind.word, .quotedIdent, .dot, .lparen]) :
    token.EndsEntry := by
  simp only [List.mem_cons, List.not_mem_nil, or_false, not_or] at kind
  obtain ⟨noWord, noQuoted, noDot, noOpening⟩ := kind
  exact ⟨by simp [isAlias, noWord, noQuoted], by simp [isKeyword, noWord], noDot, noOpening⟩

/-- A word that begins a list ends the list in front of it. -/
theorem Token.EndsList.of_isHead
    {token : Token}
    (isHead : token.isHead = true) :
    token.EndsList := by
  have kind := Token.kind_of_isHead isHead
  refine ⟨⟨?_, ?_, by simp [kind], by simp [kind]⟩, by simp [kind]⟩
  · rw [Bool.eq_false_iff]
    intro isAlias
    simp [Token.isHead_of_isAlias isAlias] at isHead
  · rw [Bool.eq_false_iff]
    intro isAs
    simp [Token.isHead_of_isAs isAs] at isHead

theorem endsInDot_iff {tokens : List Token} :
    EndsInDot tokens ↔ ∃ token ∈ tokens.getLast?, token.kind = .dot := by
  constructor
  · rintro ⟨front, dot, rfl, isDot⟩
    exact ⟨dot, by simp, isDot⟩
  · rintro ⟨dot, last, isDot⟩
    obtain ⟨front, rfl⟩ := List.getLast?_eq_some_iff.1 last
    exact ⟨front, dot, rfl, isDot⟩

instance (tokens : List Token) : Decidable (EndsInDot tokens) :=
  decidable_of_iff _ endsInDot_iff.symm

/-- Tokens in front of another one leave it out of their names: it is no word or quoted name, or it
does not stand behind a dot. -/
def LeavesOut (stop : Token) (tokens : List Token) : Prop :=
  stop.identifier? = none ∨ ¬EndsInDot tokens

theorem LeavesOut.of_append
    {stop : Token}
    {front rest : List Token}
    (leavesOut : LeavesOut stop (front ++ rest)) :
    LeavesOut stop rest := by
  refine leavesOut.imp_right fun undotted => ?_
  rintro ⟨before, dot, rfl, isDot⟩
  exact undotted ⟨front ++ before, dot, (List.append_assoc ..).symm, isDot⟩

theorem LeavesOut.tail
    {stop token : Token}
    {tokens : List Token}
    (leavesOut : LeavesOut stop (token :: tokens)) :
    LeavesOut stop tokens := by
  rw [← List.singleton_append] at leavesOut
  exact leavesOut.of_append

/-! ## Aliases -/

theorem skipAlias_of_endsEntry
    {marks : List Mark}
    (ends : ∀ mark ∈ marks.head?, mark.token.EndsEntry) :
    skipBareAlias marks = marks ∧ skipAlias marks = marks := by
  cases marks with
  | nil => exact ⟨rfl, rfl⟩
  | cons mark marks =>
      obtain ⟨notAlias, notAs, -, -⟩ := ends mark rfl
      have bare : skipBareAlias (mark :: marks) = mark :: marks := by
        unfold skipBareAlias
        exact if_neg (Bool.eq_false_iff.1 notAlias)
      exact ⟨bare, by rw [skipAlias, if_neg (Bool.eq_false_iff.1 notAs), bare]⟩

/-- An alias is skipped up to the end of its table. -/
theorem IsAlias.skipAlias_append
    {label rest : List Mark}
    (isAlias : IsAlias (label.map Mark.token))
    (ends : ∀ mark ∈ rest.head?, mark.token.EndsEntry) :
    skipAlias (label ++ rest) = rest := by
  obtain ⟨bare, aliased⟩ := skipAlias_of_endsEntry ends
  have skipped {mark : Mark} (isLabel : mark.token.isAlias = true) :
      skipBareAlias (mark :: rest) = rest := by
    unfold skipBareAlias
    exact if_pos isLabel
  have notAs {token : Token} (isLabel : token.isAlias = true) :
      ¬token.isKeyword "AS" = true := by
    intro isAs
    have reserved := Token.isReserved_of_isKeyword (by decide) isAs
    simp [Token.isAlias, Token.kind_of_isKeyword isAs, reserved] at isLabel
  generalize marked : label.map Mark.token = tokens at isAlias
  cases isAlias with
  | none =>
      obtain rfl := List.map_eq_nil_iff.1 marked
      exact aliased
  | bare isLabel =>
      obtain ⟨mark, rfl, rfl⟩ := List.map_eq_singleton_iff.1 marked
      rw [List.singleton_append, skipAlias, if_neg (notAs isLabel), skipped isLabel]
  | missing isAs =>
      obtain ⟨mark, rfl, rfl⟩ := List.map_eq_singleton_iff.1 marked
      rw [List.singleton_append, skipAlias, if_pos isAs, bare]
  | behindAs isAs isLabel =>
      obtain ⟨word, label, rfl, rfl, others⟩ := List.map_eq_cons_iff.1 marked
      obtain ⟨mark, rfl, rfl⟩ := List.map_eq_singleton_iff.1 others
      rw [List.cons_append, skipAlias, if_pos isAs, List.singleton_append, skipped isLabel]

theorem IsAlias.endsEntry_append
    {label rest : List Token}
    (isAlias : IsAlias label)
    (ends : ∀ token ∈ rest.head?, token.EndsEntry) :
    ∀ token ∈ (label ++ rest).head?, token.kind ≠ .dot ∧ token.kind ≠ .lparen := by
  have ofAlias {token : Token} (isLabel : token.isAlias = true) :
      token.kind ≠ .dot ∧ token.kind ≠ .lparen := by
    constructor <;> intro kind <;> simp [Token.isAlias, kind] at isLabel
  have ofAs {token : Token} (isAs : token.isKeyword "AS" = true) :
      token.kind ≠ .dot ∧ token.kind ≠ .lparen := by
    simp [Token.kind_of_isKeyword isAs]
  cases isAlias with
  | none => exact fun token first => ⟨(ends token first).notDot, (ends token first).notOpening⟩
  | bare isLabel => simpa using ofAlias isLabel
  | missing isAs => simpa using ofAs isAs
  | behindAs isAs isLabel => simpa using ofAs isAs

/-- A name with an optional alias is a table of a list, up to where the table ends. -/
theorem Entry.of_ends
    {spelled label rest : List Mark}
    {name : String}
    (spells : Spells (spelled.map Mark.token) name)
    (isAlias : IsAlias (label.map Mark.token))
    (ends : ∀ mark ∈ rest.head?, mark.token.EndsEntry) :
    Entry spelled label rest name := by
  have behind : ∀ token ∈ ((label ++ rest).map Mark.token).head?,
      token.kind ≠ .dot ∧ token.kind ≠ .lparen := by
    rw [List.map_append]
    apply isAlias.endsEntry_append
    intro token first
    rw [List.head?_map, Option.mem_def, Option.map_eq_some_iff] at first
    obtain ⟨mark, isFirst, rfl⟩ := first
    exact ends mark isFirst
  refine ⟨qualifiedName?_eq_some_iff.2 ⟨spelled, rfl, spells, ?_⟩, ?_,
    isAlias.skipAlias_append ends, spells, isAlias⟩
  · rintro ⟨dot, part, others, split, isDot, -⟩
    exact (behind dot (by rw [split]; rfl)).1 isDot
  · exact next_eq_false_iff.2 fun token first => (behind token first).2

/-! ## Up to the end of a list -/

section

variable {stop : Mark} (ends : stop.token.EndsList)

include ends

theorem nameParts_append_stop
    {marks : List Mark}
    (leavesOut : LeavesOut stop.token (marks.map Mark.token))
    (others : List Mark) :
    nameParts (marks ++ stop :: others) =
      ((nameParts marks).1, (nameParts marks).2 ++ stop :: others) := by
  have noDot : stop.is .dot = false := by simp [Mark.is, ends.notDot]
  fun_induction nameParts marks with
  | case1 => cases others <;> simp [nameParts, noDot]
  | case2 mark =>
      rw [List.singleton_append, nameParts]
      split
      next isDot =>
        -- A word behind the last dot would go on with the name.
        have dotted : EndsInDot [mark.token] := ⟨[], mark.token, rfl, by simpa [Mark.is] using isDot⟩
        rw [leavesOut.resolve_right (not_not.2 dotted)]
      next => rfl
  | case3 dot part marks isDot name isPart names rest read inductionHypothesis =>
      have behind := leavesOut.tail.tail
      rw [List.cons_append, List.cons_append, nameParts, if_pos isDot, isPart]
      simp only [inductionHypothesis behind, read]
  | case4 dot part marks isDot noPart =>
      rw [List.cons_append, List.cons_append, nameParts, if_pos isDot, noPart]
  | case5 dot part marks notDot =>
      rw [List.cons_append, List.cons_append, nameParts, if_neg notDot]

theorem qualifiedName?_append_stop
    {marks : List Mark}
    (leavesOut : LeavesOut stop.token (marks.map Mark.token))
    (others : List Mark) :
    qualifiedName? (marks ++ stop :: others) =
      (qualifiedName? marks).map fun read => (read.1, read.2 ++ stop :: others) := by
  cases marks with
  | nil =>
      have unread : qualifiedName? [] = none := rfl
      rw [List.nil_append, unread, qualifiedName?, Option.map_none]
      split
      next => rfl
      next first isPart =>
        -- A word that is no alias is reserved.
        rcases Token.kind_of_identifier? isPart with ⟨word, rfl⟩ | quoted
        · have reserved := ends.notAlias
          simp only [Token.isAlias, word] at reserved
          rw [if_pos (by simpa [Mark.is, word] using reserved)]
        · have unquoted := ends.notAlias
          simp [Token.isAlias, quoted] at unquoted
  | cons mark marks =>
      have behind := leavesOut.tail
      simp only [List.cons_append, qualifiedName?, nameParts_append_stop ends behind]
      split
      next => rfl
      next first isPart =>
        split <;> rfl

theorem skipBareAlias_append_stop (marks others : List Mark) :
    skipBareAlias (marks ++ stop :: others) = skipBareAlias marks ++ stop :: others := by
  cases marks with
  | nil =>
      have notAlias : ¬(stop.is .quotedIdent ||
          (stop.is .word && !isReserved stop.token.literal)) = true :=
        Bool.eq_false_iff.1 ends.notAlias
      simp only [List.nil_append, skipBareAlias, if_neg notAlias]
  | cons mark marks =>
      simp only [List.cons_append, skipBareAlias]
      split <;> rfl

theorem skipAlias_append_stop (marks others : List Mark) :
    skipAlias (marks ++ stop :: others) = skipAlias marks ++ stop :: others := by
  cases marks with
  | nil =>
      simp only [List.nil_append, skipAlias, ends.notAs, Bool.false_eq_true, if_false]
      exact skipBareAlias_append_stop ends [] others
  | cons mark marks =>
      simp only [List.cons_append, skipAlias]
      split
      next => exact skipBareAlias_append_stop ends marks others
      next => exact skipBareAlias_append_stop ends (mark :: marks) others

omit ends in
theorem next_append_stop
    {kind : Kind}
    (other : stop.token.kind ≠ kind)
    (marks others : List Mark) :
    Mark.next kind (marks ++ stop :: others) = Mark.next kind marks := by
  cases marks with
  | nil => simpa [Mark.next, Mark.is] using other
  | cons mark marks => rfl

theorem unnoticed_append_stop (others : List Mark) :
    Unnoticed (fun marks => LeavesOut stop.token (marks.map Mark.token))
      (· ++ stop :: others) where
  suffix {front marks} leavesOut := by
    rw [List.map_append] at leavesOut
    exact leavesOut.of_append
  read {_} leavesOut := qualifiedName?_append_stop ends leavesOut others
  skipped marks := skipAlias_append_stop ends marks others
  next_lparen marks := next_append_stop ends.notOpening marks others
  next_comma marks := next_append_stop ends.notComma marks others
  tail _ _ := rfl

/-- A scan goes on from the end of a list with the parentheses that are open there. -/
theorem tablesFrom_append_stop
    (parens : List Bool)
    (found : UniqueList String)
    {marks : List Mark}
    (leavesOut : LeavesOut stop.token (marks.map Mark.token))
    (others : List Mark) :
    tablesFrom parens found (marks ++ stop :: others) =
      tablesFrom (marks.foldl Mark.nest parens) (tablesFrom parens found marks)
        (stop :: others) := by
  induction parens, marks using tables_induction generalizing found with
  | nil parens => rw [List.nil_append, tablesFrom_nil, List.foldl_nil]
  | list parens head passed rest names isHead outside listing inductionHypothesis =>
      have unchanged := listing.foldl_nest isHead parens
      have inList : LeavesOut stop.token ((passed ++ rest).map Mark.token) := leavesOut.tail
      have behind : LeavesOut stop.token (rest.map Mark.token) := by
        rw [List.map_append] at inList
        exact inList.of_append
      rw [tablesFrom_of_listing isHead outside listing, List.cons_append,
        tablesFrom_of_head isHead outside,
        (unnoticed_append_stop ends others).listedTables_eq _ _ inList, listing.listedTables_eq,
        inductionHypothesis _ behind, ← List.cons_append, List.foldl_append, unchanged]
  | token parens mark marks noList inductionHypothesis =>
      have behind : LeavesOut stop.token (marks.map Mark.token) := leavesOut.tail
      rw [List.cons_append, tablesFrom_of_token noList, tablesFrom_of_token noList,
        inductionHypothesis _ behind]
      rfl

end

/-! ## What a scan adds -/

/-- A scan adds the same names to whatever was found. -/
theorem tablesFrom_eq_extend
    (parens : List Bool)
    (found : UniqueList String)
    (marks : List Mark) :
    tablesFrom parens found marks = found.extend (tablesFrom parens .empty marks).toList := by
  induction parens, marks using tables_induction generalizing found with
  | nil parens => simp
  | list parens head passed rest names isHead outside listing inductionHypothesis =>
      rw [tablesFrom_of_listing isHead outside listing, tablesFrom_of_listing isHead outside listing,
        inductionHypothesis, inductionHypothesis (UniqueList.empty.extend names),
        UniqueList.extend_toList_extend, UniqueList.extend_toList_extend]
      rfl
  | token parens mark marks noList inductionHypothesis =>
      rw [tablesFrom_of_token noList, tablesFrom_of_token noList, inductionHypothesis]

/-- Tokens that begin no list and are no parentheses are passed over. -/
theorem tablesFrom_of_noLists
    {parens : List Bool}
    {passed : List Mark}
    (noList : ∀ mark ∈ passed, mark.token.isHead = true → parens.head? = some true)
    (noParens : ∀ mark ∈ passed, mark.token.kind ≠ .lparen ∧ mark.token.kind ≠ .rparen)
    (found : UniqueList String)
    (rest : List Mark) :
    tablesFrom parens found (passed ++ rest) = tablesFrom parens found rest := by
  induction passed with
  | nil => rfl
  | cons mark passed inductionHypothesis =>
      obtain ⟨noListHere, noListBehind⟩ := List.forall_mem_cons.1 noList
      obtain ⟨notParen, noParensBehind⟩ := List.forall_mem_cons.1 noParens
      rw [List.cons_append, tablesFrom_of_token noListHere, Mark.nest_of_ne notParen.1 notParen.2,
        inductionHypothesis noListBehind noParensBehind]

end Scan
end SqlLineage
