import SqlLineage.Proofs.Scan.ReadTables
import SqlLineage.Proofs.Scan.Statements

/-!
# What a scan for tables sees

Of a token a scan for tables sees the kind, and the literal if the token is a name; of other tokens
neither literals nor places matter. Trimming a text takes at most blanks from the literals of its
tokens, so it changes the tables only if the text ends in an open quoted name with blanks in it.
-/

namespace SqlLineage
namespace Scan

/-! ## The seen part of a token -/

namespace Token

/-- The token as a scan for tables sees it. -/
def seen (token : Token) : Token where
  kind := token.kind
  literal := if token.kind = .word ∨ token.kind = .quotedIdent then token.literal else ""
  offset := 0

@[simp] theorem kind_seen (token : Token) : token.seen.kind = token.kind := rfl

theorem literal_seen
    {token : Token}
    (name : token.kind = .word ∨ token.kind = .quotedIdent) :
    token.seen.literal = token.literal :=
  if_pos name

@[simp] theorem isKeyword_seen (token : Token) (keyword : String) :
    token.seen.isKeyword keyword = token.isKeyword keyword := by
  by_cases word : token.kind = .word
  · rw [isKeyword, isKeyword, literal_seen (.inl word), kind_seen]
  · rw [isKeyword, isKeyword, kind_seen, beq_false_of_ne word, Bool.false_and, Bool.false_and]

@[simp] theorem identifier?_seen (token : Token) : token.seen.identifier? = token.identifier? := by
  unfold identifier?
  rw [kind_seen]
  split
  next word => rw [literal_seen (.inl word)]
  next quoted => rw [literal_seen (.inr quoted)]
  next => rfl

end Token

namespace Mark

/-- The mark as a scan for tables sees it. -/
def seen (mark : Mark) : Mark :=
  { mark with token := mark.token.seen }

@[simp] theorem token_seen (mark : Mark) : mark.seen.token = mark.token.seen := rfl

@[simp] theorem is_seen (mark : Mark) (kind : Kind) : mark.seen.is kind = mark.is kind := rfl

@[simp] theorem next_seen (kind : Kind) (marks : List Mark) :
    next kind (marks.map seen) = next kind marks := by
  cases marks <;> rfl

theorem ofTokens_seen (behindFunction : Bool) (tokens : List Token) :
    ofTokens behindFunction (tokens.map Token.seen) =
      (ofTokens behindFunction tokens).map seen := by
  induction tokens generalizing behindFunction with
  | nil => rfl
  | cons token tokens inductionHypothesis =>
      have same : isFunction token.seen = isFunction token :=
        congrArg fromArgumentFunctions.any (funext token.isKeyword_seen)
      rw [List.map_cons, ofTokens, same, inductionHypothesis]
      rfl

end Mark

/-! ## A scan of seen tokens -/

theorem nameParts_seen (marks : List Mark) :
    nameParts (marks.map Mark.seen) =
      ((nameParts marks).1, (nameParts marks).2.map Mark.seen) := by
  fun_induction nameParts marks <;> simp_all [nameParts]

theorem qualifiedName?_seen (marks : List Mark) :
    qualifiedName? (marks.map Mark.seen) =
      (qualifiedName? marks).map fun read => (read.1, read.2.map Mark.seen) := by
  cases marks with
  | nil => rfl
  | cons mark marks =>
      simp only [List.map_cons, qualifiedName?, Mark.token_seen, Token.identifier?_seen,
        Mark.is_seen, nameParts_seen]
      split
      next => rfl
      next first isPart =>
        split <;> rfl

theorem skipBareAlias_seen (marks : List Mark) :
    skipBareAlias (marks.map Mark.seen) = (skipBareAlias marks).map Mark.seen := by
  cases marks with
  | nil => rfl
  | cons mark marks =>
      have same : (mark.is .word && !isReserved mark.token.seen.literal) =
          (mark.is .word && !isReserved mark.token.literal) := by
        by_cases word : mark.token.kind = .word
        · rw [Token.literal_seen (.inl word)]
        · rw [Mark.is, beq_false_of_ne word, Bool.false_and, Bool.false_and]
      simp only [List.map_cons, skipBareAlias, Mark.is_seen, Mark.token_seen, same]
      split <;> rfl

theorem skipAlias_seen (marks : List Mark) :
    skipAlias (marks.map Mark.seen) = (skipAlias marks).map Mark.seen := by
  cases marks with
  | nil => rfl
  | cons mark marks =>
      simp only [List.map_cons, skipAlias, Mark.token_seen, Token.isKeyword_seen]
      split
      next => exact skipBareAlias_seen marks
      next => exact skipBareAlias_seen (mark :: marks)

/-- A change of marks that the readers of names and aliases do not notice among certain marks. -/
structure Unnoticed (among : List Mark → Prop) (change : List Mark → List Mark) : Prop where
  /-- With some marks those at their end are among them. -/
  suffix : ∀ {front marks}, among (front ++ marks) → among marks
  /-- The same name is read. -/
  read : ∀ {marks}, among marks → qualifiedName? (change marks) =
    (qualifiedName? marks).map fun read => (read.1, change read.2)
  /-- The same alias is skipped. -/
  skipped : ∀ marks, skipAlias (change marks) = change (skipAlias marks)
  /-- A parenthesis begins the marks as before. -/
  next_lparen : ∀ marks, Mark.next .lparen (change marks) = Mark.next .lparen marks
  /-- A comma begins the marks as before. -/
  next_comma : ∀ marks, Mark.next .comma (change marks) = Mark.next .comma marks
  /-- Behind the first mark the change goes on. -/
  tail : ∀ mark marks, (change (mark :: marks)).tail = change marks

/-- A change that is not noticed leaves the tables of a list as they are. -/
theorem Unnoticed.listedTables_eq
    {among : List Mark → Prop}
    {change : List Mark → List Mark}
    (unnoticed : Unnoticed among change)
    (isFrom : Bool)
    (found : UniqueList String)
    {marks : List Mark}
    (isAmong : among marks) :
    listedTables isFrom found (change marks) =
      ((listedTables isFrom found marks).1, change (listedTables isFrom found marks).2) := by
  have read {marks rest : List Mark} {name : String}
      (isAmong : among marks)
      (named : qualifiedName? marks = some (name, rest)) :
      qualifiedName? (change marks) = some (name, change rest) := by
    rw [unnoticed.read isAmong, named]
    rfl
  have comma {rest : List Mark} : Mark.next .comma (skipAlias (change rest)) =
      Mark.next .comma (skipAlias rest) := by
    rw [unnoticed.skipped, unnoticed.next_comma]
  fun_induction listedTables isFrom found marks with
  | case1 found marks unread =>
      exact listedTables_of_not_named (by simp [unnoticed.read isAmong, unread])
  | case2 found marks name rest named arguments =>
      exact listedTables_of_not_named (by simp [read isAmong named, unnoticed.next_lparen,
        arguments])
  | case3 found marks name rest named noArguments ends =>
      rw [listedTables_of_last (read isAmong named)
        (by simpa [unnoticed.next_lparen] using noArguments) (fun _ => by rw [comma, ends]; rfl),
        unnoticed.skipped, ends]
  | case4 found marks name rest named noArguments mark more behind isComma inductionHypothesis =>
      obtain ⟨rfl, mark_is⟩ := Bool.and_eq_true_iff.1 isComma
      have isNext : Mark.next .comma (skipAlias (change rest)) = true := by
        rwa [comma, behind]
      obtain ⟨first, others, split⟩ : ∃ first others,
          skipAlias (change rest) = first :: others := by
        cases begins : skipAlias (change rest) with
        | nil => simp [begins, Mark.next] at isNext
        | cons first others => exact ⟨first, others, rfl⟩
      obtain rfl : others = change more := by
        rw [← unnoticed.tail mark, ← behind, ← unnoticed.skipped, split, List.tail_cons]
      have moreAmong : among more := by
        obtain ⟨spelled, rfl, -⟩ := qualifiedName?_eq_some_iff.1 named
        obtain ⟨label, aliased, -⟩ := exists_alias rest
        rw [aliased, behind, ← List.append_assoc, List.append_cons] at isAmong
        exact unnoticed.suffix isAmong
      rw [split] at isNext
      rw [listedTables_of_comma (read isAmong named)
        (by simpa [unnoticed.next_lparen] using noArguments) split isNext,
        inductionHypothesis moreAmong]
  | case5 found marks name rest named noArguments mark more behind noComma =>
      rw [listedTables_of_last (read isAmong named)
        (by simpa [unnoticed.next_lparen] using noArguments)
        (fun isList => by rw [comma, behind]; simpa [isList, Mark.next] using noComma),
        unnoticed.skipped, behind]

theorem unnoticed_seen : Unnoticed (fun _ => True) (List.map Mark.seen) where
  suffix _ := trivial
  read _ := qualifiedName?_seen _
  skipped := skipAlias_seen
  next_lparen := Mark.next_seen .lparen
  next_comma := Mark.next_seen .comma
  tail _ _ := rfl

theorem tablesFrom_seen (parens : List Bool) (found : UniqueList String) (marks : List Mark) :
    tablesFrom parens found (marks.map Mark.seen) = tablesFrom parens found marks := by
  induction parens, marks using tables_induction generalizing found with
  | nil parens => rfl
  | list parens head passed rest names isHead outside listing inductionHypothesis =>
      have isHeadSeen : head.seen.token.isHead = true := by
        simpa [Token.isHead] using isHead
      rw [tablesFrom_of_listing isHead outside listing, List.map_cons,
        tablesFrom_of_head isHeadSeen outside, unnoticed_seen.listedTables_eq _ _ trivial,
        Mark.token_seen, Token.isKeyword_seen, listing.listedTables_eq, inductionHypothesis]
  | token parens mark marks noList inductionHypothesis =>
      have noListSeen : mark.seen.token.isHead = true → parens.head? = some true := by
        simpa [Token.isHead] using noList
      rw [List.map_cons, tablesFrom_of_token noListSeen, tablesFrom_of_token noList,
        ← inductionHypothesis]
      rfl

/-- The tables that are read from tokens. -/
def tablesOf (tokens : List Token) : UniqueList String :=
  tablesFrom [] .empty (Mark.ofTokens false tokens)

theorem tablesOf_congr
    {tokens others : List Token}
    (seen : tokens.map Token.seen = others.map Token.seen) :
    tablesOf tokens = tablesOf others := by
  rw [tablesOf, tablesOf, ← tablesFrom_seen, ← tablesFrom_seen _ _ (Mark.ofTokens false others),
    ← Mark.ofTokens_seen, ← Mark.ofTokens_seen, seen]

/-- The table that is written by tokens. -/
def writtenTableOf? : List Token → Option String
  | [] => none
  | first :: tokens =>
    match wordsBeforeTarget first with
    | none => none
    | some words =>
      let rest := tokens.dropWhile fun token => words.any token.isKeyword
      (qualifiedName? (Mark.ofTokens false rest)).map Prod.fst

theorem writtenTable?_eq (text : String) :
    writtenTable? text = writtenTableOf? (codeTokens text) := rfl

theorem writtenTableOf?_seen (tokens : List Token) :
    writtenTableOf? (tokens.map Token.seen) = writtenTableOf? tokens := by
  cases tokens with
  | nil => rfl
  | cons first tokens =>
      have sameWords : wordsBeforeTarget first.seen = wordsBeforeTarget first := by
        simp only [wordsBeforeTarget, Token.isKeyword_seen]
      rw [List.map_cons, writtenTableOf?, writtenTableOf?, sameWords]
      cases wordsBeforeTarget first with
      | none => rfl
      | some words =>
          have sameTest : (fun token : Token => words.any token.isKeyword) ∘ Token.seen =
              fun token => words.any token.isKeyword := by
            funext token
            exact congrArg words.any (funext token.isKeyword_seen)
          simp only [List.dropWhile_map, sameTest, Mark.ofTokens_seen, qualifiedName?_seen,
            Option.map_map]
          rfl

theorem writtenTableOf?_congr
    {tokens others : List Token}
    (seen : tokens.map Token.seen = others.map Token.seen) :
    writtenTableOf? tokens = writtenTableOf? others := by
  rw [← writtenTableOf?_seen, seen, writtenTableOf?_seen]

/-! ## Trimmed texts -/

/-- A token whose literal blanks were taken from looks the same if it is a name that does not end in
blanks. -/
theorem Token.PaddedTo.seen_eq
    {token padded : Token}
    (isPadded : token.PaddedTo padded)
    (unpadded : padded.kind = .word ∨ padded.kind = .quotedIdent →
      Text.trimEnd padded.literal = padded.literal) :
    token.seen = padded.seen := by
  by_cases name : padded.kind = .word ∨ padded.kind = .quotedIdent
  · obtain ⟨blanks, blank, literal⟩ := isPadded.literal
    have whole := congrArg String.toList (unpadded name)
    rw [Text.trimEnd, String.toList_ofList, literal, Text.trimEndList_append _ blank] at whole
    have bound := (List.rdropWhile_prefix Text.isBlank (l := token.literal.toList)).length_le
    rw [← Text.trimEndList_eq_rdropWhile, whole, List.length_append] at bound
    obtain rfl : blanks = [] := by
      rw [← List.length_eq_zero_iff]
      omega
    rw [List.append_nil, String.toList_inj] at literal
    simp [seen, isPadded.kind, literal]
  · have nameless : ¬(token.kind = .word ∨ token.kind = .quotedIdent) := by
      rwa [← isPadded.kind]
    rw [seen, seen, if_neg name, if_neg nameless, isPadded.kind]

theorem map_seen_of_paddedTo
    {tokens padded : List Token}
    (arePadded : List.Forall₂ Token.PaddedTo tokens padded)
    (unpadded : ∀ token ∈ padded, token.kind = .word ∨ token.kind = .quotedIdent →
      Text.trimEnd token.literal = token.literal) :
    tokens.map Token.seen = padded.map Token.seen := by
  induction arePadded with
  | nil => rfl
  | cons isPadded _ inductionHypothesis =>
      obtain ⟨head, tail⟩ := List.forall_mem_cons.1 unpadded
      rw [List.map_cons, List.map_cons, isPadded.seen_eq head, inductionHypothesis tail]

/-- The tokens that are no comments. -/
def withoutComments (tokens : List Token) : List Token :=
  tokens.filter fun token => !token.isComment

theorem map_seen_withoutComments (tokens : List Token) :
    (withoutComments tokens).map Token.seen = withoutComments (tokens.map Token.seen) := by
  rw [withoutComments, withoutComments, List.filter_map]
  rfl

/-- The tokens of a trimmed text look the same, unless it ends in a quoted name with blanks. -/
theorem map_seen_codeTokens_trim
    {offset : Nat}
    {text : List Char}
    (unpadded : ∀ token ∈ tokensFrom offset text, token.kind = .quotedIdent →
      Text.trimEnd token.literal = token.literal) :
    (codeTokens (Text.trim (String.ofList text))).map Token.seen =
      (withoutComments (tokensFrom offset text)).map Token.seen := by
  rw [codeTokens, ← withoutComments, map_seen_withoutComments, map_seen_withoutComments,
    map_seen_of_paddedTo (paddedTo_tokens_trim offset text)]
  rintro token member (word | quoted)
  · exact trimEnd_literal_of_word member word
  · exact unpadded token member quoted

/-- A trimmed text reads the tables of the text, unless that ends in a quoted name with blanks. -/
theorem readTables_trim
    {offset : Nat}
    {text : List Char}
    (unpadded : ∀ token ∈ tokensFrom offset text, token.kind = .quotedIdent →
      Text.trimEnd token.literal = token.literal) :
    readTables (Text.trim (String.ofList text)) =
      tablesOf (withoutComments (tokensFrom offset text)) :=
  tablesOf_congr (map_seen_codeTokens_trim unpadded)

/-- A trimmed text writes the table of the text, unless that ends in a quoted name with blanks. -/
theorem writtenTable?_trim
    {offset : Nat}
    {text : List Char}
    (unpadded : ∀ token ∈ tokensFrom offset text, token.kind = .quotedIdent →
      Text.trimEnd token.literal = token.literal) :
    writtenTable? (Text.trim (String.ofList text)) =
      writtenTableOf? (withoutComments (tokensFrom offset text)) :=
  writtenTableOf?_congr (map_seen_codeTokens_trim unpadded)

end Scan
end SqlLineage
