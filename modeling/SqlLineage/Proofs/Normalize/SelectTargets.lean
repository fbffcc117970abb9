import SqlLineage.Proofs.Normalize.VariableLists
import SqlLineage.Proofs.Scan.Literals

/-!
# Selections that end in their variables

A statement that ends in `INTO` and a list of variables loses both, if a selection begins in it that
no semicolon follows. A semicolon that ends no statement, since it stands in a literal or in a
quoted name, counts here: behind the last one there has to be another `SELECT`, or the variables
stay.
-/

namespace SqlLineage
namespace Normalize

open Scan (tokens tokensFrom)

/-! ## The word `INTO` in front of a list -/

section

variable {word spelled : List Char}

/-- In front of a word there is a boundary if no word goes on in it. -/
theorem isBoundary_head?_iff
    (spells : spelled.map Text.foldChar = word)
    (ascii : ∀ c ∈ word, Text.isAsciiLetter c = true)
    (nonempty : word ≠ [])
    {before : Option Char} :
    isBoundary before spelled.head? = true ↔ ∀ c ∈ before, Text.isWordChar c = false := by
  have solid := ne_nil_of_spells spells nonempty
  have wordChar := Text.isWordChar_of_isLetter
    (isLetter_of_spells spells ascii _ (List.head_mem solid))
  rw [List.head?_eq_some_head solid]
  cases before <;> simp [isBoundary, wordChar]

/-- Behind a word there is a boundary if it does not go on. -/
theorem isBoundary_getLast?_iff
    (spells : spelled.map Text.foldChar = word)
    (ascii : ∀ c ∈ word, Text.isAsciiLetter c = true)
    (nonempty : word ≠ [])
    {behind : Option Char} :
    isBoundary spelled.getLast? behind = true ↔ ∀ c ∈ behind, Text.isWordChar c = false := by
  have solid := ne_nil_of_spells spells nonempty
  have wordChar := Text.isWordChar_of_isLetter
    (isLetter_of_spells spells ascii _ (List.getLast_mem solid))
  rw [List.getLast?_eq_some_getLast solid]
  cases behind <;> simp [isBoundary, wordChar]

end

/-- Characters that are no delimiters stand behind the last delimiter. -/
theorem exists_of_undelimited
    {front run before inner : List Char}
    {opener : Char}
    (split : front ++ run = before ++ opener :: inner)
    (undelimited : opener ∉ run) :
    ∃ more, front = before ++ opener :: more ∧ inner = more ++ run := by
  rcases List.append_eq_append_iff.1 split with ⟨more, -, inRun⟩ | ⟨more, rfl, inFront⟩
  · exact absurd (by simp [inRun]) undelimited
  · cases more with
    | nil =>
        obtain rfl : opener :: inner = run := inFront
        exact absurd List.mem_cons_self undelimited
    | cons c more =>
        obtain ⟨rfl, rfl⟩ := List.cons.inj inFront
        exact ⟨more, rfl, rfl⟩

section

variable {first : Variable} {more : List Variable} {terminator : List Char}

/-- In a text in front of a list no other one is read: what ends it would be a semicolon, and this
would stand with its `INTO` in one literal or quoted name. -/
theorem intoVariables?_eq_none_of_no_into
    {text front back : List Char}
    (undivided : ∀ token ∈ tokensFrom 0 text, token.kind ≠ .semicolon)
    (uncommented : ∀ token ∈ tokensFrom 0 text, token.isComment = false)
    (noInto : ∀ token ∈ tokensFrom 0 text,
      token.kind = .stringLiteral ∨ token.kind = .quotedIdent →
        ¬HoldsWord ['i', 'n', 't', 'o'] token.literal.toList)
    (split : text = front ++ back)
    (nonempty : skipBlanks back ≠ []) :
    intoVariables? front.getLast? (back ++ intoTail first more terminator) = none := by
  cases found : intoVariables? front.getLast? (back ++ intoTail first more terminator) with
  | none => rfl
  | some result =>
      obtain ⟨end_, rest⟩ := result
      obtain ⟨others, ends⟩ := exists_end_of_intoVariables?_append nonempty found
      obtain ⟨blanks, spelled, blank, list, whole, blankFront, boundary, spells, isBlank,
        undelimited⟩ := exists_list_of_intoVariables? found
      obtain rfl : back = blanks ++ (spelled ++ blank :: (list ++ ';' :: others)) := by
        rw [ends] at whole
        exact (List.append_left_inj (intoTail first more terminator)).1 (by simpa using whole)
      have undelimitedRun : ∀ c ∈ spelled ++ blank :: list, c ∉ delimiters := by
        have undelimitedBlank := not_mem_delimiters Text.isBlank isBlank (by decide)
        exact List.forall_mem_append.2 ⟨undelimited_of_folds spells,
          List.forall_mem_cons.2 ⟨undelimitedBlank, undelimited⟩⟩
      have placed : text = (front ++ blanks ++ (spelled ++ blank :: list)) ++ ';' :: others := by
        simp [split]
      subst placed
      obtain ⟨token, member, kind, before, opener, inner, post, inBefore, opens, literal⟩ :=
        Scan.exists_delimited_token_of_semicolon undivided uncommented
      have delimits : opener ∉ spelled ++ blank :: list := by
        intro inRun
        have openers : ∀ c ∈ ['\'', '"', '\x60', '['], c ∈ delimiters :=
          forall_mem_of_all (by decide)
        exact undelimitedRun opener inRun (openers opener opens)
      obtain ⟨inFront, frontSplit, rfl⟩ := exists_of_undelimited inBefore delimits
      refine absurd ?_ (noInto token member kind)
      refine ⟨opener :: inFront, spelled, blank :: (list ++ ';' :: post), by simp [literal], spells,
        ?_, ?_⟩
      · intro c last
        have lastFront : c ∈ (front ++ blanks).getLast? := by
          rwa [frontSplit, List.getLast?_append_of_ne_nil _ (List.cons_ne_nil _ _)]
        by_cases empty : blanks = []
        · subst empty
          rw [if_pos rfl, isBoundary_head?_iff spells (forall_mem_of_all (by decide)) (by decide)]
            at boundary
          exact boundary c (by simpa using lastFront)
        · rw [List.getLast?_append_of_ne_nil _ empty] at lastFront
          exact Text.isWordChar_of_isBlank (blankFront c (List.mem_of_getLast? lastFront))
      · simpa using Text.isWordChar_of_isBlank isBlank

end

/-! ## Selections in front of a list -/

/-- A selection that no semicolon follows begins behind a text. -/
def BeginsSelection (front text : List Char) : Prop :=
  ∃ spelled behind, text = spelled ++ behind ∧
    IsWord ['s', 'e', 'l', 'e', 'c', 't'] front spelled behind ∧ ';' ∉ behind

/-- In a text that stands behind another one begins a selection that no semicolon follows. -/
def HasSelectionBehind (front text : List Char) : Prop :=
  ∃ inFront back, text = inFront ++ back ∧ BeginsSelection (front ++ inFront) back

/-- In a text begins a selection that no semicolon follows. -/
def HasSelection (text : String) : Prop :=
  HasSelectionBehind [] text.toList

theorem not_beginsSelection_nil (front : List Char) : ¬BeginsSelection front [] := by
  rintro ⟨spelled, behind, split, isWord, -⟩
  obtain ⟨rfl, -⟩ := List.append_eq_nil_iff.1 split.symm
  cases isWord.spells

theorem not_hasSelectionBehind_nil (front : List Char) : ¬HasSelectionBehind front [] := by
  rintro ⟨inFront, back, split, begins⟩
  obtain ⟨rfl, rfl⟩ := List.append_eq_nil_iff.1 split.symm
  exact not_beginsSelection_nil _ begins

/-- A selection begins at the first character, or behind it. -/
theorem hasSelectionBehind_cons_iff
    {front text : List Char}
    {c : Char} :
    HasSelectionBehind front (c :: text) ↔
      BeginsSelection front (c :: text) ∨ HasSelectionBehind (front ++ [c]) text := by
  constructor
  · rintro ⟨inFront, back, split, begins⟩
    cases inFront with
    | nil =>
        rw [List.nil_append] at split
        subst split
        rw [List.append_nil] at begins
        exact .inl begins
    | cons d inFront =>
        obtain ⟨rfl, rfl⟩ := List.cons.inj split
        exact .inr ⟨inFront, back, rfl, by simpa using begins⟩
  · rintro (begins | ⟨inFront, back, rfl, begins⟩)
    · exact ⟨[], c :: text, rfl, by simpa using begins⟩
    · exact ⟨c :: inFront, back, rfl, by simpa using begins⟩

section

variable {text front back : List Char} {first : Variable} {more : List Variable}
variable {terminator : List Char}

/-- No list is read in a text in front of a list. -/
def ReadsNoInto (text : List Char) (first : Variable) (more : List Variable)
    (terminator : List Char) : Prop :=
  ∀ front back, text = front ++ back → back ≠ [] →
    intoVariables? front.getLast? (back ++ intoTail first more terminator) = none

/-- A selection goes on to the list at the end, unless there is a semicolon in front of it. -/
theorem shorten?_append
    (ends : terminator = [] ∨ terminator = [';'])
    (readsNoInto : ReadsNoInto text first more terminator)
    {kept : List Char}
    (split : text = front ++ back)
    (last : kept.head? = front.getLast?) :
    shorten? kept (back ++ intoTail first more terminator) =
      if ';' ∈ back then none else some ⟨back.reverse ++ kept, terminator, []⟩ := by
  induction back generalizing front kept with
  | nil =>
      rw [List.nil_append, shorten?.eq_def, intoVariables?_intoTail _ _ _ ends]
      rfl
  | cons c back inductionHypothesis =>
      have nothing := readsNoInto front (c :: back) split (List.cons_ne_nil c back)
      have splitNext : text = (front ++ [c]) ++ back := by simp [split]
      have lastNext : (c :: kept).head? = (front ++ [c]).getLast? := by simp
      have next := inductionHypothesis splitNext lastNext
      rw [List.cons_append] at nothing ⊢
      rw [shorten?, last, nothing]
      by_cases semicolon : c = ';'
      · simp [semicolon]
      · simp [semicolon, next, Ne.symm semicolon]

/-- The word of a selection is read if boundaries are around it. -/
theorem shortenedSelect?_of_spells
    {spelled : List Char}
    (spells : spelled.map Text.foldChar = ['s', 'e', 'l', 'e', 'c', 't'])
    (before : Option Char)
    (behind : List Char) :
    shortenedSelect? before (spelled ++ behind) =
      if isBoundary before spelled.head? = true ∧
          isBoundary spelled.getLast? behind.head? = true then
        shorten? spelled.reverse behind
      else none := by
  have head : (spelled ++ behind).head? = spelled.head? := by
    cases spelled with
    | nil => cases spells
    | cons c spelled => rfl
  have kept : (spelled ++ behind).take ((spelled ++ behind).length - behind.length) = spelled := by
    rw [List.length_append, Nat.add_sub_cancel, List.take_left]
  rw [shortenedSelect?, head, behindWord?_of_spells spells]
  simp only [kept, List.head?_reverse]
  by_cases begins : isBoundary before spelled.head? = true <;> simp [begins]

/-- The word of a selection decides where its text begins. -/
theorem beginsSelection_iff_of_spells
    {spelled behind : List Char}
    (spells : spelled.map Text.foldChar = ['s', 'e', 'l', 'e', 'c', 't']) :
    BeginsSelection front (spelled ++ behind) ↔
      (∀ c ∈ front.getLast?, Text.isWordChar c = false) ∧
        (∀ c ∈ behind.head?, Text.isWordChar c = false) ∧ ';' ∉ behind := by
  constructor
  · rintro ⟨other, rest, split, ⟨spellsOther, begins, ends⟩, noSemicolon⟩
    have same := behindWord?_of_spells spellsOther rest
    rw [← split, behindWord?_of_spells spells] at same
    obtain rfl := Option.some.inj same
    exact ⟨begins, ends, noSemicolon⟩
  · rintro ⟨begins, ends, noSemicolon⟩
    exact ⟨spelled, behind, rfl, ⟨spells, begins, ends⟩, noSemicolon⟩

/-- Where a selection begins in front of the list, it loses the list; elsewhere no list is lost. -/
theorem shortenedSelect?_append
    (ends : terminator = [] ∨ terminator = [';'])
    (readsNoInto : ReadsNoInto text first more terminator)
    (split : text = front ++ back) :
    shortenedSelect? front.getLast? (back ++ intoTail first more terminator) =
        some ⟨back.reverse, terminator, []⟩ ∧ BeginsSelection front back ∨
      shortenedSelect? front.getLast? (back ++ intoTail first more terminator) = none ∧
        ¬BeginsSelection front back := by
  cases isSelect : behindWord? ['s', 'e', 'l', 'e', 'c', 't'] back with
  | none =>
      refine .inr ⟨?_, ?_⟩
      · rw [shortenedSelect?, behindWord?_append_intoTail (forall_mem_of_all (by decide)), isSelect]
        exact ite_self none
      · rintro ⟨spelled, behind, rfl, isWord, -⟩
        rw [behindWord?_of_spells isWord.spells] at isSelect
        cases isSelect
  | some behind =>
      obtain ⟨spelled, rfl, spells⟩ := exists_of_behindWord? isSelect
      have next : (∀ c ∈ (behind ++ intoTail first more terminator).head?,
          Text.isWordChar c = false) ↔ ∀ c ∈ behind.head?, Text.isWordChar c = false := by
        cases behind with
        | nil =>
            have blank : Text.isWordChar ' ' = false := by decide +kernel
            simp [intoTail, blank]
        | cons c behind => rfl
      have splitBehind : text = (front ++ spelled) ++ behind := by rw [split, List.append_assoc]
      have last : spelled.reverse.head? = (front ++ spelled).getLast? := by
        rw [List.head?_reverse,
          List.getLast?_append_of_ne_nil _ (ne_nil_of_spells spells (by decide))]
      have boundaries : (isBoundary front.getLast? spelled.head? = true ∧
          isBoundary spelled.getLast? (behind ++ intoTail first more terminator).head? = true) ↔
          (∀ c ∈ front.getLast?, Text.isWordChar c = false) ∧
            ∀ c ∈ behind.head?, Text.isWordChar c = false := by
        rw [isBoundary_head?_iff spells (forall_mem_of_all (by decide)) (by decide),
          isBoundary_getLast?_iff spells (forall_mem_of_all (by decide)) (by decide), next]
      rw [List.append_assoc, shortenedSelect?_of_spells spells,
        beginsSelection_iff_of_spells spells, shorten?_append ends readsNoInto splitBehind last]
      simp only [boundaries]
      by_cases word : (∀ c ∈ front.getLast?, Text.isWordChar c = false) ∧
          ∀ c ∈ behind.head?, Text.isWordChar c = false
      · by_cases semicolon : ';' ∈ behind
        · exact .inr ⟨by rw [if_pos word, if_pos semicolon],
            fun begins => begins.2.2 semicolon⟩
        · refine .inl ⟨?_, word.1, word.2, semicolon⟩
          rw [if_pos word, if_neg semicolon, List.reverse_append]
      · exact .inr ⟨by rw [if_neg word], fun begins => word ⟨begins.1, begins.2.1⟩⟩

end

/-! ## Lists without a selection in front -/

theorem shorten?_eq_none
    {text : List Char}
    (nothing : ∀ before rest, rest <:+ text → intoVariables? before rest = none)
    (kept : List Char) :
    shorten? kept text = none := by
  induction text generalizing kept with
  | nil => rw [shorten?.eq_def, nothing _ [] List.suffix_rfl]
  | cons c text inductionHypothesis =>
      rw [shorten?, nothing _ _ List.suffix_rfl]
      have behind := inductionHypothesis
        (fun before rest suffix => nothing before rest (suffix.trans (List.suffix_cons c text)))
        (c :: kept)
      by_cases semicolon : c = ';' <;> simp [semicolon, behind]

theorem dropInto_eq_self
    {text : List Char}
    (nothing : ∀ before rest, rest <:+ text → shortenedSelect? before rest = none)
    (fuel : Nat)
    (before : Option Char) :
    dropInto fuel before text = text := by
  induction text generalizing fuel before with
  | nil => cases fuel <;> rfl
  | cons c text inductionHypothesis =>
      cases fuel with
      | zero => rfl
      | succ fuel =>
          rw [dropInto, nothing _ _ List.suffix_rfl]
          have behind := inductionHypothesis
            (fun before rest suffix => nothing before rest (suffix.trans (List.suffix_cons c text)))
            fuel (some c)
          exact congrArg (c :: ·) behind

/-- In a list stands no selection that has variables. -/
theorem dropInto_intoTail
    (first : Variable)
    (more : List Variable)
    {terminator : List Char}
    (ends : terminator = [] ∨ terminator = [';'])
    (fuel : Nat)
    (before : Option Char) :
    dropInto fuel before (intoTail first more terminator) = intoTail first more terminator := by
  refine dropInto_eq_self (fun before rest suffix => ?_) fuel before
  cases isSelect : behindWord? ['s', 'e', 'l', 'e', 'c', 't'] rest with
  | none =>
      rw [shortenedSelect?, isSelect]
      exact ite_self none
  | some behind =>
      obtain ⟨spelled, rfl, spells⟩ := exists_of_behindWord? isSelect
      -- The word is as long as `INTO` with the blanks around it, so that the list is behind it.
      have inList : behind <:+ first.text.toList ++ (followers more ++ terminator) := by
        refine List.suffix_of_suffix_length_le ((List.suffix_append spelled behind).trans suffix)
          (List.suffix_append [' ', 'I', 'N', 'T', 'O', ' '] _) ?_
        have length := suffix.length_le
        have six := congrArg List.length spells
        simp only [intoTail, List.length_append, List.length_map, List.length_cons,
          List.length_nil] at length six ⊢
        omega
      rw [shortenedSelect?_of_spells spells, shorten?_eq_none]
      · exact ite_self none
      · intro before rest inBehind
        have divided := namesDivided_list first more ends
        exact divided.intoVariables?_eq_none (inBehind.trans inList) before

/-! ## Texts with a list at the end -/

/-- A list at the end of a text is taken away if a selection begins in the text that no semicolon
follows, and otherwise it stays. -/
theorem dropInto_append
    {text front back : List Char}
    {first : Variable}
    {more : List Variable}
    {terminator : List Char}
    (ends : terminator = [] ∨ terminator = [';'])
    (readsNoInto : ReadsNoInto text first more terminator)
    (split : text = front ++ back)
    {fuel : Nat}
    (enough : back.length < fuel) :
    dropInto fuel front.getLast? (back ++ intoTail first more terminator) =
        back ++ ' ' :: terminator ∧ HasSelectionBehind front back ∨
      dropInto fuel front.getLast? (back ++ intoTail first more terminator) =
        back ++ intoTail first more terminator ∧ ¬HasSelectionBehind front back := by
  induction back generalizing front fuel with
  | nil => exact .inr ⟨dropInto_intoTail first more ends fuel _, not_hasSelectionBehind_nil front⟩
  | cons c back inductionHypothesis =>
      obtain ⟨fuel, rfl⟩ := Nat.exists_eq_succ_of_ne_zero (Nat.ne_zero_of_lt enough)
      have selection := shortenedSelect?_append ends readsNoInto split
      rw [hasSelectionBehind_cons_iff]
      rw [List.cons_append] at selection ⊢
      rw [dropInto]
      rcases selection with ⟨isSelect, begins⟩ | ⟨isSelect, notBegins⟩
      · rw [isSelect]
        refine .inl ⟨?_, .inl begins⟩
        have nothing (fuel : Nat) (before : Option Char) : dropInto fuel before [] = [] := by
          cases fuel <;> rfl
        simp [nothing]
      · rw [isSelect]
        have splitNext : text = (front ++ [c]) ++ back := by simp [split]
        have next := inductionHypothesis splitNext (Nat.lt_of_succ_lt_succ enough)
        rw [List.getLast?_concat] at next
        rcases next with ⟨result, begins⟩ | ⟨result, notBehind⟩
        · exact .inl ⟨congrArg (c :: ·) result, .inr begins⟩
        · exact .inr ⟨congrArg (c :: ·) result, not_or.2 ⟨notBegins, notBehind⟩⟩

/-- **Variables are removed behind a selection that no semicolon follows.** `INTO` and a list of
variables at the end of a statement are removed as a whole, up to a space, exactly if the word
`SELECT` stands in the statement with no semicolon behind it; otherwise nothing is. The statement may
hold semicolons in literals and quoted names, but no `INTO` there. -/
theorem withoutSelectTargets_removes_variables_iff
    {body terminator : String}
    {targets : List Variable}
    (nonempty : targets ≠ [])
    (ends : terminator = "" ∨ terminator = ";")
    (visible : ∀ c ∈ body.toList.getLast?, Text.isBlank c = false)
    (undivided : ∀ token ∈ tokens body, token.kind ≠ .semicolon)
    (uncommented : ∀ token ∈ tokens body, token.isComment = false)
    (noInto : ∀ token ∈ tokens body, token.kind = .stringLiteral ∨ token.kind = .quotedIdent →
      ¬HoldsWord ['i', 'n', 't', 'o'] token.literal.toList) :
    (withoutSelectTargets (body ++ " INTO " ++ variableList targets ++ terminator) =
        body ++ " " ++ terminator ↔ HasSelection body) ∧
      (¬HasSelection body →
        withoutSelectTargets (body ++ " INTO " ++ variableList targets ++ terminator) =
          body ++ " INTO " ++ variableList targets ++ terminator) := by
  obtain ⟨first, more, rfl⟩ := List.exists_cons_of_ne_nil nonempty
  have endsList : terminator.toList = [] ∨ terminator.toList = [';'] := by
    rcases ends with rfl | rfl
    · exact .inl rfl
    · exact .inr rfl
  have whole : (body ++ " INTO " ++ variableList (first :: more) ++ terminator).toList =
      body.toList ++ intoTail first more terminator.toList := by
    simp [intoTail, toList_variableList]
  have readsNoInto : ReadsNoInto body.toList first more terminator.toList := by
    intro front back split solid
    refine intoVariables?_eq_none_of_no_into undivided uncommented noInto split fun empty => ?_
    have blank := List.dropWhile_eq_nil_iff.1 empty _ (List.getLast_mem solid)
    have last : back.getLast solid ∈ body.toList.getLast? := by
      rw [split, List.getLast?_append_of_ne_nil _ solid, List.getLast?_eq_some_getLast solid]
      rfl
    rw [visible _ last] at blank
    cases blank
  have enough : body.toList.length <
      (body.toList ++ intoTail first more terminator.toList).length := by
    rw [List.length_append]
    exact Nat.lt_add_of_pos_right (Nat.succ_pos _)
  have result := dropInto_append endsList readsNoInto (List.nil_append body.toList).symm enough
  rw [List.getLast?_nil] at result
  rw [withoutSelectTargets]
  simp only [whole]
  rcases result with ⟨removed, selection⟩ | ⟨kept, noSelection⟩
  · have same : String.ofList (body.toList ++ ' ' :: terminator.toList) =
        body ++ " " ++ terminator := by
      simp [← String.toList_inj]
    rw [removed, same]
    exact ⟨⟨fun _ => selection, fun _ => rfl⟩, fun notHas => absurd selection notHas⟩
  · have same : String.ofList (body.toList ++ intoTail first more terminator.toList) =
        body ++ " INTO " ++ variableList (first :: more) ++ terminator := by
      rw [← whole, String.ofList_toList]
    rw [kept, same]
    refine ⟨⟨fun removed => ?_, fun selection => absurd selection noSelection⟩, fun _ => rfl⟩
    have length := congrArg (List.length ∘ String.toList) removed
    simp [toList_variableList] at length
    omega

/-- The variable `@v`. -/
def sessionVariable : Variable where
  before := ""
  name := "@v"
  behind := ""
  blankBefore := Text.allBlank_empty
  isName := ⟨'v', [], .inr rfl, by decide +kernel, nofun⟩
  blankBehind := Text.allBlank_empty

/-- The variable `w` on a line of its own. -/
def localVariable : Variable where
  before := "\n"
  name := "w"
  behind := " "
  blankBefore := by decide
  isName := ⟨'w', [], .inl rfl, by decide +kernel, nofun⟩
  blankBehind := by decide

/-- Two selections, the first one with a semicolon in a literal. -/
def unionText : String :=
  "SELECT ';' AS a UNION\nSELECT b FROM [t]"

theorem withoutSelectTargets_removes_variables_of_unionText :
    withoutSelectTargets "SELECT ';' AS a UNION\nSELECT b FROM [t] INTO @v,\nw ;" =
      "SELECT ';' AS a UNION\nSELECT b FROM [t] ;" := by
  have visible : ∀ c ∈ unionText.toList.getLast?, Text.isBlank c = false := by
    rintro c ⟨⟩
    decide
  have noInto : ∀ token ∈ tokens unionText,
      token.kind = .stringLiteral ∨ token.kind = .quotedIdent →
        'i' ∉ token.literal.toList.map Text.foldChar := by
    decide +kernel
  have isWord : IsWord ['s', 'e', 'l', 'e', 'c', 't'] "SELECT ';' AS a UNION\n".toList
      "SELECT".toList " b FROM [t]".toList := by
    refine ⟨by decide, ?_, ?_⟩
    · rintro c ⟨⟩
      decide +kernel
    · rintro c ⟨⟩
      decide +kernel
  have selection : HasSelection unionText :=
    ⟨"SELECT ';' AS a UNION\n".toList, "SELECT b FROM [t]".toList, by decide, "SELECT".toList,
      " b FROM [t]".toList, by decide, isWord, by decide⟩
  have removed : withoutSelectTargets (unionText ++ " INTO " ++
      variableList [sessionVariable, localVariable] ++ ";") = unionText ++ " " ++ ";" :=
    (withoutSelectTargets_removes_variables_iff (by decide) (.inr rfl) visible
      (by decide +kernel) (by decide +kernel)
      fun token member kind holds => noInto token member kind (holds.mem_map (by decide))).1.2
      selection
  exact removed

/-- Behind a semicolon in a literal the variables stay. -/
theorem semicolon_in_literal_keeps_variables :
    (tokens "SELECT a FROM t WHERE k = ';'").map (fun token => (token.kind, token.literal)) =
        [(.word, "SELECT"), (.word, "a"), (.word, "FROM"), (.word, "t"), (.word, "WHERE"),
          (.word, "k"), (.symbol, "="), (.stringLiteral, "';'")] ∧
      withoutSelectTargets
          ("SELECT a FROM t WHERE k = ';'" ++ " INTO " ++ variableList [sessionVariable] ++ ";") ≠
        "SELECT a FROM t WHERE k = ';'" ++ " " ++ ";" ∧
      withoutSelectTargets "SELECT a FROM t WHERE k = ';' INTO @v;" =
        "SELECT a FROM t WHERE k = ';' INTO @v;" := by
  decide +kernel

end Normalize
end SqlLineage
