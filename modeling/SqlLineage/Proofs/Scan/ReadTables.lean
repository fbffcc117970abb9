import SqlLineage.Proofs.Scan.TableLists

/-!
# The tables behind FROM and JOIN

A scan goes on token by token, and from each `FROM` and `JOIN` it jumps behind the tables that are
listed there. A jump skips no parenthesis and no other list, so all that the scan takes is named
where a table is listed, and it takes what each `FROM` and `JOIN` names first.
-/

namespace SqlLineage
namespace Scan

/-! ## What a scan takes -/

/-- The tables are all that is taken from the tokens `passed` of a text. -/
structure Reads (before passed behind : List Token) (taken : List (Nat × String)) : Prop extends
    Takes before passed behind taken where
  /-- The first table behind each `FROM` and `JOIN` is among them. -/
  complete : ∀ front head after name, passed = front ++ head :: after → head.isHead = true →
    ¬EndsInDot (before ++ front) → ¬InsideFunction (before ++ front) →
    NamesTable (after ++ behind) name → ((before ++ front).length + 1, name) ∈ taken

namespace Reads

theorem append
    {before passed others behind : List Token}
    {taken more : List (Nat × String)}
    (reads : Reads before passed (others ++ behind) taken)
    (readsMore : Reads (before ++ passed) others behind more) :
    Reads before (passed ++ others) behind (taken ++ more) where
  toTakes := reads.toTakes.append readsMore.toTakes
  complete := by
    intro front head after name split isHead undotted outside names
    have inOthers (middle : List Token) (frontSplit : front = passed ++ middle)
        (within : others = middle ++ head :: after) :
        ((before ++ front).length + 1, name) ∈ taken ++ more := by
      rw [frontSplit, ← List.append_assoc] at undotted outside ⊢
      exact List.mem_append_right _
        (readsMore.complete middle head after name within isHead undotted outside names)
    rcases List.append_eq_append_iff.1 split with
      ⟨middle, frontSplit, within⟩ | ⟨middle, rfl, within⟩
    · exact inOthers middle frontSplit within
    · cases middle with
      | nil => exact inOthers [] (by simp) within.symm
      | cons first middle =>
          rw [List.cons_append] at within
          obtain ⟨rfl, rfl⟩ := List.cons.inj within
          rw [List.append_assoc] at names
          exact List.mem_append_left _
            (reads.complete front head middle name rfl isHead undotted outside names)

/-- A token that begins no list is passed over. -/
theorem token
    {before behind : List Token}
    {token : Token}
    (noList : token.isHead = true → InsideFunction before) :
    Reads before [token] behind [] where
  toTakes := .nil _ _ _
  complete := by
    intro front head after name split isHead undotted outside names
    match front with
    | [] =>
        obtain ⟨rfl, -⟩ := List.cons.inj split
        rw [List.append_nil] at outside
        exact absurd (noList isHead) outside
    | _ :: _ => simp at split

/-- A word that begins a list is read with the tables behind it. -/
theorem list
    {before passed behind : List Token}
    {head : Token}
    {taken : List (Nat × String)}
    (takes : Takes (before ++ [head]) passed behind taken)
    (isPassed : Passed passed)
    (first : ∀ name, NamesTable (passed ++ behind) name → (before.length + 1, name) ∈ taken) :
    Reads before (head :: passed) behind taken where
  toTakes := (Takes.nil before [head] (passed ++ behind)).append takes
  complete := by
    intro front other after name split isHead undotted outside names
    match front with
    | [] =>
        obtain ⟨rfl, rfl⟩ := List.cons.inj split
        simpa using first name names
    | _ :: front =>
        obtain ⟨rfl, rfl⟩ := List.cons.inj split
        obtain ⟨inner, dot, rfl, isDot⟩ := isPassed.endsInDot isHead
        exact absurd ⟨before ++ head :: inner, dot, by simp, isDot⟩ undotted

end Reads

/-! ## The scan -/

@[simp] theorem tablesFrom_nil (parens : List Bool) (found : UniqueList String) :
    tablesFrom parens found [] = found := by
  rw [tablesFrom]

theorem tablesFrom_of_head
    {parens : List Bool}
    {head : Mark}
    (isHead : head.token.isHead = true)
    (outside : parens.head? ≠ some true)
    (found : UniqueList String)
    (marks : List Mark) :
    tablesFrom parens found (head :: marks) =
      tablesFrom parens (listedTables (head.token.isKeyword "FROM") found marks).1
        (listedTables (head.token.isKeyword "FROM") found marks).2 := by
  rw [tablesFrom]
  simp only [Token.kind_of_isHead isHead]
  rw [if_neg (by simpa using outside)]
  exact if_pos isHead

theorem tablesFrom_of_token
    {parens : List Bool}
    {mark : Mark}
    (noList : mark.token.isHead = true → parens.head? = some true)
    (found : UniqueList String)
    (marks : List Mark) :
    tablesFrom parens found (mark :: marks) = tablesFrom (mark.nest parens) found marks := by
  rw [tablesFrom]
  split
  next opens => rw [Mark.nest_of_lparen opens]
  next closes => rw [Mark.nest_of_rparen closes]
  next word =>
    rw [Mark.nest_of_ne (by simp [word]) (by simp [word])]
    split
    next => rfl
    next outside =>
      exact if_neg fun isHead => outside (by simpa using noList isHead)
  next notOpening notClosing _ => rw [Mark.nest_of_ne notOpening notClosing]

/-- What holds at the end of a scan, and goes from behind a list and from behind any other token to
the front, holds of all scans. -/
theorem tables_induction
    {motive : List Bool → List Mark → Prop}
    (nil : ∀ parens, motive parens [])
    (list : ∀ parens head passed rest names, head.token.isHead = true → parens.head? ≠ some true →
      Listing (head.token.isKeyword "FROM") passed rest names → motive parens rest →
      motive parens (head :: (passed ++ rest)))
    (token : ∀ parens mark marks, (mark.token.isHead = true → parens.head? = some true) →
      motive (mark.nest parens) marks → motive parens (mark :: marks))
    (parens : List Bool)
    (marks : List Mark) :
    motive parens marks := by
  match marks with
  | [] => exact nil parens
  | mark :: marks =>
      by_cases begins : mark.token.isHead = true ∧ parens.head? ≠ some true
      · obtain ⟨passed, rest, names, split, listing⟩ :=
          exists_listing (mark.token.isKeyword "FROM") marks
        have shorter : rest.length < marks.length + 1 := by
          rw [split, List.length_append]
          omega
        rw [split]
        exact list parens mark passed rest names begins.1 begins.2 listing
          (tables_induction nil list token parens rest)
      · exact token parens mark marks (by simpa using begins)
          (tables_induction nil list token (mark.nest parens) marks)
termination_by marks.length

theorem tablesFrom_of_listing
    {parens : List Bool}
    {head : Mark}
    {passed rest : List Mark}
    {names : List String}
    (isHead : head.token.isHead = true)
    (outside : parens.head? ≠ some true)
    (listing : Listing (head.token.isKeyword "FROM") passed rest names)
    (found : UniqueList String) :
    tablesFrom parens found (head :: (passed ++ rest)) =
      tablesFrom parens (found.extend names) rest := by
  rw [tablesFrom_of_head isHead outside, listing.listedTables_eq]

/-- A list leaves the open parentheses as they are. -/
theorem Listing.foldl_nest
    {isFrom : Bool}
    {head : Mark}
    {passed rest : List Mark}
    {names : List String}
    (isHead : head.token.isHead = true)
    (listing : Listing isFrom passed rest names)
    (parens : List Bool) :
    (head :: passed).foldl Mark.nest parens = parens := by
  have kind := Token.kind_of_isHead isHead
  rw [List.foldl_cons, Mark.nest_of_ne (by simp [kind]) (by simp [kind]),
    (Balanced.of_noParens listing.isPassed.noParens).foldl_nest rfl]

/-- What is taken from the marks of a text behind those in `before`. -/
theorem exists_reads
    {tokens : List Token}
    {before marks : List Mark}
    (split : Mark.ofTokens false tokens = before ++ marks) :
    ∃ taken, Reads (before.map Mark.token) (marks.map Mark.token) [] taken ∧
      ∀ found, tablesFrom (before.foldl Mark.nest []) found marks =
        found.extend (taken.map Prod.snd) := by
  generalize opened : before.foldl Mark.nest [] = parens
  -- Behind a list the same parentheses are open as in front of it, so that `opened` goes on.
  induction parens, marks using tables_induction generalizing before with
  | nil parens =>
      exact ⟨[], ⟨.nil _ _ _, by simp⟩, tablesFrom_nil parens⟩
  | list parens head passed rest names isHead outside listing inductionHypothesis =>
      have inside : ¬InsideFunction (before.map Mark.token) := by
        rwa [← head?_openParens_eq_true_iff, openParens, Mark.ofTokens_map_token_of_append split,
          opened]
      obtain ⟨taken, rfl, takes, first⟩ := listing.takes _ (.head isHead inside)
      have moved : Mark.ofTokens false tokens = (before ++ head :: passed) ++ rest := by
        simp [split]
      have still : (before ++ head :: passed).foldl Mark.nest [] = parens := by
        rw [List.foldl_append, listing.foldl_nest isHead, opened]
      obtain ⟨more, reads, extends_⟩ := inductionHypothesis moved still
      refine ⟨taken ++ more, ?_, fun found => ?_⟩
      · have readsList : Reads (before.map Mark.token) (head.token :: passed.map Mark.token)
            (rest.map Mark.token) taken :=
          .list takes listing.isPassed (by simpa using first)
        rw [List.map_cons, List.map_append, ← List.cons_append]
        apply Reads.append
        · rwa [List.append_nil]
        · simpa using reads
      · rw [tablesFrom_of_listing isHead outside listing, extends_, List.map_append,
          UniqueList.extend_append]
  | token parens mark marks noList inductionHypothesis =>
      have noListInside : mark.token.isHead = true → InsideFunction (before.map Mark.token) := by
        rwa [← head?_openParens_eq_true_iff, openParens, Mark.ofTokens_map_token_of_append split,
          opened]
      have moved : Mark.ofTokens false tokens = (before ++ [mark]) ++ marks := by
        simp [split]
      obtain ⟨taken, reads, extends_⟩ := inductionHypothesis moved (by simp [opened])
      refine ⟨taken, ?_, fun found => ?_⟩
      · rw [List.map_cons, ← List.singleton_append, ← List.nil_append taken]
        apply (Reads.token noListInside).append
        simpa using reads
      · rw [tablesFrom_of_token noList, extends_]

/-- The tables of a text are those that are taken from all of its tokens. -/
theorem exists_reads_codeTokens (text : String) :
    ∃ taken, Reads [] (codeTokens text) [] taken ∧
      ∀ name, name ∈ (readTables text).toList ↔ name ∈ taken.map Prod.snd := by
  obtain ⟨taken, isRead, extends_⟩ :=
    exists_reads (List.nil_append (Mark.ofTokens false (codeTokens text))).symm
  have whole : readTables text = UniqueList.empty.extend (taken.map Prod.snd) := extends_ .empty
  rw [List.map_nil, Mark.map_token_ofTokens] at isRead
  refine ⟨taken, isRead, fun name => ?_⟩
  rw [whole, UniqueList.mem_extend]
  simp

example : (readTables "SELECT TRIM(x FROM y) FROM a AS b, c.d JOIN f(1) JOIN a").toList =
    ["a", "c.d"] := by
  decide +kernel

end Scan
end SqlLineage
