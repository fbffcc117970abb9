import SqlLineage.Proofs.Normalize.Edits
import SqlLineage.Proofs.Text.Blank
import SqlLineage.Proofs.Text.Case
import SqlLineage.Text.Trim

/-!
# Lists of variables

`INTO` and a list of variables are read as a whole if the end of a statement is behind them: each
variable is followed by a comma or by that end. So a reading that begins in front of another `INTO`
with its list does not go past it: it comes to an end there, or it fails.
-/

namespace SqlLineage
namespace Normalize

/-! ## Words -/

/-- A word stands between two texts if it spells `word` in any case of letters and is not part of a
longer word. -/
structure IsWord (word front spelled behind : List Char) : Prop where
  /-- The word is spelled in any case. -/
  spells : spelled.map Text.foldChar = word
  /-- No word goes on in it. -/
  begins : ∀ c ∈ front.getLast?, Text.isWordChar c = false
  /-- It does not go on. -/
  ends : ∀ c ∈ behind.head?, Text.isWordChar c = false

/-- A word stands somewhere in a text. -/
def HoldsWord (word text : List Char) : Prop :=
  ∃ front spelled behind, text = front ++ (spelled ++ behind) ∧ IsWord word front spelled behind

theorem HoldsWord.mem_map
    {word text : List Char}
    (holds : HoldsWord word text)
    {c : Char}
    (member : c ∈ word) :
    c ∈ text.map Text.foldChar := by
  obtain ⟨front, spelled, behind, rfl, isWord⟩ := holds
  rw [← isWord.spells] at member
  simp [member]

theorem behindWord?_append
    {tail : List Char}
    {word : List Char}
    (differs : ∀ c ∈ tail.head?, Text.foldChar c ∉ word)
    (text : List Char) :
    behindWord? word (text ++ tail) = (behindWord? word text).map (· ++ tail) := by
  fun_induction behindWord? word text with
  | case1 text => rw [behindWord?, Option.map_some]
  | case2 w word =>
      cases tail with
      | nil => rfl
      | cons c tail =>
          have other : Text.foldChar c ≠ w := fun same => differs c rfl (by simp [same])
          rw [List.nil_append, behindWord?, if_neg other, Option.map_none]
  | case3 word c text inductionHypothesis =>
      rw [List.cons_append, behindWord?, if_pos rfl]
      exact inductionHypothesis fun d first member =>
        differs d first (List.mem_cons_of_mem _ member)
  | case4 w word c text other => rw [List.cons_append, behindWord?, if_neg other, Option.map_none]

theorem behindWord?_of_spells
    {word spelled : List Char}
    (spells : spelled.map Text.foldChar = word)
    (rest : List Char) :
    behindWord? word (spelled ++ rest) = some rest := by
  subst spells
  induction spelled with
  | nil => rw [List.map_nil, List.nil_append, behindWord?]
  | cons c spelled inductionHypothesis =>
      rw [List.map_cons, List.cons_append, behindWord?, if_pos rfl, inductionHypothesis]

/-- The characters that spell a word of ASCII letters are letters. -/
theorem isLetter_of_spells
    {word spelled : List Char}
    (spells : spelled.map Text.foldChar = word)
    (ascii : ∀ c ∈ word, Text.isAsciiLetter c = true) :
    ∀ c ∈ spelled, Text.isLetter c = true := by
  subst spells
  intro c member
  exact Text.isLetter_of_isAsciiLetter_foldChar (ascii _ (List.mem_map_of_mem member))

theorem ne_nil_of_spells
    {word spelled : List Char}
    (spells : spelled.map Text.foldChar = word)
    (nonempty : word ≠ []) :
    spelled ≠ [] := by
  rintro rfl
  exact nonempty spells.symm

/-! ## Variables -/

/-- Names of variables begin with a letter or an underscore and go on with letters, numbers and
underscores. There may be an at sign in front. -/
def IsVariableName (name : List Char) : Prop :=
  ∃ first others, (name = first :: others ∨ name = '@' :: first :: others) ∧
    beginsVariable first = true ∧ ∀ c ∈ others, continuesVariable c = true

/-- A variable with blanks around it. -/
structure Variable where
  /-- The blanks in front. -/
  before : String
  /-- The name of the variable. -/
  name : String
  /-- The blanks behind. -/
  behind : String
  /-- Nothing else is in front. -/
  blankBefore : Text.allBlank before = true
  /-- The name is one of a variable. -/
  isName : IsVariableName name.toList
  /-- Nothing else is behind. -/
  blankBehind : Text.allBlank behind = true

/-- The text of a variable. -/
def Variable.text (variable_ : Variable) : String :=
  variable_.before ++ variable_.name ++ variable_.behind

/-- Variables with commas between them. -/
def variableList (targets : List Variable) : String :=
  ",".intercalate (targets.map Variable.text)

theorem continuesVariable_of_beginsVariable
    {c : Char}
    (begins : beginsVariable c = true) :
    continuesVariable c = true := by
  rw [continuesVariable, begins, Bool.true_or]

theorem continuesVariable_of_isLetter
    {c : Char}
    (letter : Text.isLetter c = true) :
    continuesVariable c = true := by
  simp [continuesVariable, beginsVariable, letter]

theorem continuesVariable_of_isBlank
    {c : Char}
    (blank : Text.isBlank c = true) :
    continuesVariable c = false :=
  Text.eq_false_of_isBlank blank continuesVariable (by decide +kernel)

theorem isBlank_of_continuesVariable
    {c : Char}
    (continues : continuesVariable c = true) :
    Text.isBlank c = false := by
  rw [Bool.eq_false_iff]
  intro blank
  rw [continuesVariable_of_isBlank blank] at continues
  cases continues

/-- A name ends where a text does, and where the next character does not continue it. -/
def Stops (rest : List Char) : Prop :=
  ∀ c ∈ rest.head?, continuesVariable c = false

theorem dropWhile_append_of_stops
    {rest : List Char}
    (stops : Stops rest)
    (text : List Char) :
    (text ++ rest).dropWhile continuesVariable = text.dropWhile continuesVariable ++ rest := by
  rw [List.dropWhile_append]
  split
  next empty =>
    rw [List.isEmpty_iff.1 empty, List.nil_append]
    cases rest with
    | nil => rfl
    | cons c rest => exact List.dropWhile_cons_of_neg (by simp [stops c rfl])
  next => rfl

theorem behindVariable?_sign (c : Char) (text : List Char) :
    behindVariable? ('@' :: c :: text) =
      if beginsVariable c then some (text.dropWhile continuesVariable) else none := rfl

theorem behindVariable?_of_ne
    {c : Char}
    (noSign : c ≠ '@')
    (text : List Char) :
    behindVariable? (c :: text) =
      if beginsVariable c then some (text.dropWhile continuesVariable) else none := by
  unfold behindVariable?
  split
  next same => exact absurd (List.cons.inj same).1 noSign
  next => rfl

/-- What stands behind the end of a name does not change what is read in front of it. -/
theorem behindVariable?_append
    {rest : List Char}
    (stops : Stops rest)
    {text : List Char}
    (nonempty : text ≠ []) :
    behindVariable? (text ++ rest) = (behindVariable? text).map (· ++ rest) := by
  have name (c : Char) (text : List Char) :
      (if beginsVariable c then some ((text ++ rest).dropWhile continuesVariable) else none) =
        (if beginsVariable c then some (text.dropWhile continuesVariable) else none).map
          (· ++ rest) := by
    rw [dropWhile_append_of_stops stops]
    split <;> rfl
  obtain ⟨c, text, rfl⟩ := List.exists_cons_of_ne_nil nonempty
  by_cases sign : c = '@'
  · subst sign
    cases text with
    | cons c text => exact name c text
    | nil =>
        cases rest with
        | nil => rfl
        | cons c rest =>
            have noName : ¬beginsVariable c = true := by
              intro begins
              have continues := continuesVariable_of_beginsVariable begins
              rw [stops c rfl] at continues
              cases continues
            rw [List.singleton_append, behindVariable?_sign, if_neg noName]
            rfl
  · rw [List.cons_append, behindVariable?_of_ne sign, behindVariable?_of_ne sign, name]

/-- A variable is read to the end of its name. -/
theorem IsVariableName.behindVariable?_append
    {name rest : List Char}
    (isName : IsVariableName name)
    (stops : Stops rest) :
    behindVariable? (name ++ rest) = some rest := by
  obtain ⟨first, others, spelling, begins, continues⟩ := isName
  have whole : (others ++ rest).dropWhile continuesVariable = rest := by
    rw [dropWhile_append_of_stops stops, List.dropWhile_eq_nil_iff.2 continues, List.nil_append]
  rcases spelling with rfl | rfl
  · have noSign : first ≠ '@' := by
      rintro rfl
      exact absurd begins (by decide +kernel)
    rw [List.cons_append, behindVariable?_of_ne noSign, if_pos begins, whole]
  · rw [List.cons_append, List.cons_append, behindVariable?_sign, if_pos begins, whole]

/-- A name begins with a visible character that divides no list. -/
theorem IsVariableName.exists_head
    {name : List Char}
    (isName : IsVariableName name) :
    ∃ c others, name = c :: others ∧ Text.isBlank c = false ∧ c ≠ ',' ∧ c ≠ ';' := by
  obtain ⟨first, others, rfl | rfl, begins, -⟩ := isName
  · refine ⟨first, others, rfl,
      isBlank_of_continuesVariable (continuesVariable_of_beginsVariable begins), ?_, ?_⟩ <;>
    · rintro rfl
      exact absurd begins (by decide +kernel)
  · exact ⟨'@', first :: others, rfl, by decide, by decide, by decide⟩

/-! ## Blanks -/

theorem skipBlanks_append
    {blanks : List Char}
    (blank : ∀ c ∈ blanks, Text.isBlank c = true)
    (rest : List Char) :
    skipBlanks (blanks ++ rest) = skipBlanks rest :=
  List.dropWhile_append_of_pos blank

theorem skipBlanks_of_visible
    {c : Char}
    (visible : Text.isBlank c = false)
    (rest : List Char) :
    skipBlanks (c :: rest) = c :: rest :=
  List.dropWhile_cons_of_neg (by simp [visible])

/-- Blanks are skipped up to the text behind, or up to a character in front of it. -/
theorem skipBlanks_append_cases (text rest : List Char) :
    skipBlanks text = [] ∧ skipBlanks (text ++ rest) = skipBlanks rest ∨
      skipBlanks text ≠ [] ∧ skipBlanks (text ++ rest) = skipBlanks text ++ rest := by
  rw [skipBlanks, skipBlanks, List.dropWhile_append]
  split
  next empty => exact .inl ⟨List.isEmpty_iff.1 empty, rfl⟩
  next nonempty => exact .inr ⟨fun empty => nonempty (List.isEmpty_iff.2 empty), rfl⟩

/-! ## Lists -/

/-- A comma, the end of a statement or the end of the text stands here. -/
def IsDivided (rest : List Char) : Prop :=
  ∀ c ∈ rest.head?, c = ',' ∨ c = ';'

/-- The variables behind the first one, each with a comma in front of it. -/
def followers (more : List Variable) : List Char :=
  more.flatMap fun variable_ => ',' :: variable_.text.toList

theorem toList_variableList (first : Variable) (more : List Variable) :
    (variableList (first :: more)).toList = first.text.toList ++ followers more := by
  rw [variableList, String.toList_intercalate]
  induction more generalizing first with
  | nil => simp [followers]
  | cons second more inductionHypothesis =>
      rw [List.map_cons, List.map_cons, List.map_cons, List.map_cons,
        List.intercalate_cons_cons, ← List.map_cons, ← List.map_cons, inductionHypothesis second]
      simp [followers]

theorem length_le_length_followers (more : List Variable) :
    more.length ≤ (followers more).length := by
  induction more with
  | nil => exact Nat.zero_le _
  | cons next more inductionHypothesis =>
      simp only [followers, List.flatMap_cons, List.length_append, List.length_cons] at *
      omega

theorem isDivided_followers_append
    (more : List Variable)
    {terminator : List Char}
    (ends : terminator = [] ∨ terminator = [';']) :
    IsDivided (followers more ++ terminator) := by
  cases more with
  | nil => rcases ends with rfl | rfl <;> simp [IsDivided, followers]
  | cons second more => simp [IsDivided, followers]

theorem IsDivided.visible
    {rest : List Char}
    (divided : IsDivided rest) :
    ∀ c ∈ rest.head?, Text.isBlank c = false := by
  intro c first
  rcases divided c first with rfl | rfl <;> decide

theorem IsDivided.skipBlanks_append
    {rest blanks : List Char}
    (divided : IsDivided rest)
    (blank : ∀ c ∈ blanks, Text.isBlank c = true) :
    skipBlanks (blanks ++ rest) = rest := by
  rw [Normalize.skipBlanks_append blank]
  cases rest with
  | nil => rfl
  | cons c rest => exact skipBlanks_of_visible (divided.visible c rfl) rest

theorem IsDivided.stops_append
    {rest blanks : List Char}
    (divided : IsDivided rest)
    (blank : ∀ c ∈ blanks, Text.isBlank c = true) :
    Stops (blanks ++ rest) := by
  intro c first
  cases blanks with
  | nil => rcases divided c first with rfl | rfl <;> decide +kernel
  | cons blank_ blanks =>
      obtain rfl : blank_ = c := by simpa using first
      exact continuesVariable_of_isBlank (blank _ List.mem_cons_self)

namespace Variable

variable (variable_ : Variable)

theorem isBlank_before : ∀ c ∈ variable_.before.toList, Text.isBlank c = true :=
  List.all_eq_true.1 variable_.blankBefore

theorem isBlank_behind : ∀ c ∈ variable_.behind.toList, Text.isBlank c = true :=
  List.all_eq_true.1 variable_.blankBehind

theorem toList_text :
    variable_.text.toList =
      variable_.before.toList ++ (variable_.name.toList ++ variable_.behind.toList) := by
  rw [text, String.toList_append, String.toList_append, List.append_assoc]

theorem skipBlanks_append (rest : List Char) :
    skipBlanks (variable_.text.toList ++ rest) =
      variable_.name.toList ++ (variable_.behind.toList ++ rest) := by
  obtain ⟨c, others, spelling, visible, -⟩ := variable_.isName.exists_head
  rw [toList_text, List.append_assoc, List.append_assoc,
    Normalize.skipBlanks_append variable_.isBlank_before, spelling, List.cons_append,
    skipBlanks_of_visible visible]

/-- A variable is read to the blanks behind it. -/
theorem behindVariable?_append
    {rest : List Char}
    (divided : IsDivided rest) :
    behindVariable? (skipBlanks (variable_.text.toList ++ rest)) =
      some (variable_.behind.toList ++ rest) := by
  rw [skipBlanks_append]
  exact variable_.isName.behindVariable?_append (divided.stops_append variable_.isBlank_behind)

end Variable

section

variable {fuel : Nat} {text rest : List Char}

/-- A list does not go on where no comma is. -/
theorem behindVariables_of_no_comma
    (noComma : (skipBlanks text).head? ≠ some ',') :
    behindVariables fuel text = text := by
  cases fuel with
  | zero => rw [behindVariables]
  | succ fuel =>
      rw [behindVariables]
      split
      next rest comma => simp [comma] at noComma
      next => rfl

theorem behindVariables_of_comma
    (comma : skipBlanks text = ',' :: rest) :
    behindVariables (fuel + 1) text =
      ((behindVariable? (skipBlanks rest)).map (behindVariables fuel)).getD text := by
  cases found : behindVariable? (skipBlanks rest) <;> simp [behindVariables, comma, found]

theorem terminator?_of_ne
    {c : Char}
    (here : skipBlanks text = c :: rest)
    (noSemicolon : c ≠ ';') :
    terminator? text = none := by
  simp [terminator?, here, noSemicolon]

end

/-- A list of variables is read to the end of the statement. -/
theorem terminator?_behindVariables_followers
    {terminator : List Char}
    (ends : terminator = [] ∨ terminator = [';'])
    {blanks : List Char}
    (blank : ∀ c ∈ blanks, Text.isBlank c = true)
    {more : List Variable}
    {fuel : Nat}
    (enough : more.length ≤ fuel) :
    terminator? (behindVariables fuel (blanks ++ (followers more ++ terminator))) =
      some (terminator, []) := by
  have here := (isDivided_followers_append more ends).skipBlanks_append blank
  induction more generalizing fuel blanks with
  | nil =>
      change skipBlanks (blanks ++ terminator) = terminator at here
      change terminator? (behindVariables fuel (blanks ++ terminator)) = some (terminator, [])
      have noComma : (skipBlanks (blanks ++ terminator)).head? ≠ some ',' := by
        rw [here]
        rcases ends with rfl | rfl <;> decide
      rw [behindVariables_of_no_comma noComma, terminator?, here]
      rcases ends with rfl | rfl <;> rfl
  | cons next more inductionHypothesis =>
      obtain ⟨fuel, rfl⟩ := Nat.exists_eq_succ_of_ne_zero (Nat.ne_zero_of_lt enough)
      have divided := isDivided_followers_append more ends
      have split : followers (next :: more) ++ terminator =
          ',' :: (next.text.toList ++ (followers more ++ terminator)) := by
        simp [followers]
      rw [split] at here ⊢
      rw [behindVariables_of_comma here, next.behindVariable?_append divided, Option.map_some,
        Option.getD_some]
      exact inductionHypothesis next.isBlank_behind (Nat.le_of_succ_le_succ enough)
        (divided.skipBlanks_append next.isBlank_behind)

/-- `INTO` between blanks is read wherever it stands. -/
theorem intoVariables?_into (before : Option Char) (rest : List Char) :
    intoVariables? before ([' ', 'I', 'N', 'T', 'O', ' '] ++ rest) =
      (behindVariable? (skipBlanks rest)).bind fun behind =>
        terminator? (behindVariables behind.length behind) := by
  have here : skipBlanks ([' ', 'I', 'N', 'T', 'O', ' '] ++ rest) =
      ['I', 'N', 'T', 'O', ' '] ++ rest := rfl
  have spells : behindWord? ['i', 'n', 't', 'o'] (['I', 'N', 'T', 'O', ' '] ++ rest) =
      some (' ' :: rest) := by
    have folds : ['I', 'N', 'T', 'O'].map Text.foldChar = ['i', 'n', 't', 'o'] := by decide
    exact behindWord?_of_spells folds (' ' :: rest)
  have moved : (['I', 'N', 'T', 'O', ' '] ++ rest).length ≠
      ([' ', 'I', 'N', 'T', 'O', ' '] ++ rest).length := by simp
  have begins : isBoundary (some ' ') (['I', 'N', 'T', 'O', ' '] ++ rest).head? = true := by
    change isBoundary (some ' ') (some 'I') = true
    decide
  rw [intoVariables?, here, if_neg moved, if_pos begins, spells]
  rfl

/-- The characters of `INTO`, of a list and of the end of its statement. -/
def intoTail (first : Variable) (more : List Variable) (terminator : List Char) : List Char :=
  [' ', 'I', 'N', 'T', 'O', ' '] ++ (first.text.toList ++ (followers more ++ terminator))

/-- A list of variables behind `INTO` is read to the end of the statement. -/
theorem intoVariables?_intoTail
    (before : Option Char)
    (first : Variable)
    (more : List Variable)
    {terminator : List Char}
    (ends : terminator = [] ∨ terminator = [';']) :
    intoVariables? before (intoTail first more terminator) = some (terminator, []) := by
  rw [intoTail, intoVariables?_into,
    first.behindVariable?_append (isDivided_followers_append more ends)]
  refine terminator?_behindVariables_followers ends first.isBlank_behind ?_
  have enough := length_le_length_followers more
  simp only [List.length_append]
  omega

/-! ## Readings that begin in front of a list -/

section

variable {first : Variable} {more : List Variable} {terminator : List Char}

theorem stops_intoTail : Stops (intoTail first more terminator) := by
  intro c head
  obtain rfl : ' ' = c := by simpa [intoTail] using head
  decide +kernel

theorem skipBlanks_intoTail :
    skipBlanks (intoTail first more terminator) = ['I', 'N', 'T', 'O'] ++
      (' ' :: (first.text.toList ++ (followers more ++ terminator))) :=
  rfl

/-- What is behind the `INTO` of a list is neither a comma nor the end of a statement. -/
theorem terminator?_behindVariables_behind_into (fuel : Nat) :
    terminator? (behindVariables fuel
      (' ' :: (first.text.toList ++ (followers more ++ terminator)))) = none := by
  obtain ⟨c, others, spelling, -, noComma, noSemicolon⟩ := first.isName.exists_head
  have here : skipBlanks (' ' :: (first.text.toList ++ (followers more ++ terminator))) =
      c :: (others ++ (first.behind.toList ++ (followers more ++ terminator))) := by
    have blank : ∀ c ∈ [' '], Text.isBlank c = true := forall_mem_of_all (by decide)
    rw [← List.singleton_append, skipBlanks_append blank, first.skipBlanks_append, spelling]
    rfl
  rw [behindVariables_of_no_comma (by simp [here, noComma]), terminator?_of_ne here noSemicolon]

/-- A variable that is read in front of a list is its `INTO`, or it ends in front of that. -/
theorem behind_of_behindVariable?_append
    {text behind : List Char}
    (found : behindVariable? (skipBlanks (text ++ intoTail first more terminator)) = some behind) :
    behind = ' ' :: (first.text.toList ++ (followers more ++ terminator)) ∨
      ∃ back, behind = back ++ intoTail first more terminator := by
  rcases skipBlanks_append_cases text (intoTail first more terminator) with
    ⟨-, here⟩ | ⟨nonempty, here⟩
  · have isName : IsVariableName ['I', 'N', 'T', 'O'] :=
      ⟨'I', ['N', 'T', 'O'], .inl rfl, by decide +kernel, forall_mem_of_all (by decide +kernel)⟩
    have stops : Stops (' ' :: (first.text.toList ++ (followers more ++ terminator))) := by
      intro c head
      obtain rfl : ' ' = c := by simpa using head
      decide +kernel
    rw [here, skipBlanks_intoTail, isName.behindVariable?_append stops] at found
    exact .inl (Option.some.inj found).symm
  · rw [here, behindVariable?_append stops_intoTail nonempty] at found
    obtain ⟨back, -, rfl⟩ := Option.map_eq_some_iff.1 found
    exact .inr ⟨back, rfl⟩

/-- The end of a statement that is read in front of a list is a semicolon in front of it. -/
theorem exists_end_of_terminator?_append
    {text end_ rest : List Char}
    (ends : terminator? (text ++ intoTail first more terminator) = some (end_, rest)) :
    ∃ back, end_ ++ rest = ';' :: (back ++ intoTail first more terminator) := by
  rcases skipBlanks_append_cases text (intoTail first more terminator) with
    ⟨-, here⟩ | ⟨nonempty, here⟩
  · rw [skipBlanks_intoTail] at here
    rw [terminator?_of_ne here (by decide)] at ends
    cases ends
  · obtain ⟨c, back, split⟩ := List.exists_cons_of_ne_nil nonempty
    rw [split, List.cons_append] at here
    by_cases semicolon : c = ';'
    · subst semicolon
      rw [terminator?, here] at ends
      obtain ⟨rfl, rfl⟩ := Prod.mk.inj (Option.some.inj ends)
      exact ⟨back, rfl⟩
    · rw [terminator?_of_ne here semicolon] at ends
      cases ends

/-- A list that is read in front of another one with its `INTO` ends in front of this `INTO`. -/
theorem exists_end_of_behindVariables_append
    {fuel : Nat}
    {text end_ rest : List Char}
    (ends : terminator? (behindVariables fuel (text ++ intoTail first more terminator)) =
      some (end_, rest)) :
    ∃ back, end_ ++ rest = ';' :: (back ++ intoTail first more terminator) := by
  induction fuel generalizing text with
  | zero => exact exists_end_of_terminator?_append ends
  | succ fuel inductionHypothesis =>
      rcases skipBlanks_append_cases text (intoTail first more terminator) with
        ⟨-, here⟩ | ⟨nonempty, here⟩
      · rw [behindVariables_of_no_comma (by simp [here, skipBlanks_intoTail])] at ends
        exact exists_end_of_terminator?_append ends
      · obtain ⟨c, others, split⟩ := List.exists_cons_of_ne_nil nonempty
        rw [split, List.cons_append] at here
        by_cases comma : c = ','
        · subst comma
          rw [behindVariables_of_comma here] at ends
          cases found : behindVariable? (skipBlanks (others ++ intoTail first more terminator)) with
          | none =>
              rw [found] at ends
              exact exists_end_of_terminator?_append ends
          | some behind =>
              rw [found, Option.map_some, Option.getD_some] at ends
              rcases behind_of_behindVariable?_append found with rfl | ⟨back, rfl⟩
              · rw [terminator?_behindVariables_behind_into] at ends
                cases ends
              · exact inductionHypothesis ends
        · rw [behindVariables_of_no_comma (by simp [here, comma])] at ends
          exact exists_end_of_terminator?_append ends

theorem behindWord?_append_intoTail
    {word : List Char}
    (ascii : ∀ c ∈ word, Text.isAsciiLetter c = true)
    (text : List Char) :
    behindWord? word (text ++ intoTail first more terminator) =
      (behindWord? word text).map (· ++ intoTail first more terminator) := by
  refine behindWord?_append (fun c head member => ?_) text
  obtain rfl : ' ' = c := by simpa [intoTail] using head
  exact absurd (ascii _ member) (by decide)

/-- A reading of `INTO` and variables that begins in front of another `INTO` with its list does not
go past it. -/
theorem exists_end_of_intoVariables?_append
    {before : Option Char}
    {text end_ rest : List Char}
    (nonempty : skipBlanks text ≠ [])
    (found : intoVariables? before (text ++ intoTail first more terminator) =
      some (end_, rest)) :
    ∃ back, end_ ++ rest = ';' :: (back ++ intoTail first more terminator) := by
  obtain ⟨behind, list, -, isInto, -, isVariable, ends⟩ := exists_behind_of_intoVariables? found
  rcases skipBlanks_append_cases text (intoTail first more terminator) with
    ⟨empty, -⟩ | ⟨-, here⟩
  · exact absurd empty nonempty
  · rw [here, behindWord?_append_intoTail (forall_mem_of_all (by decide))] at isInto
    obtain ⟨front, -, rfl⟩ := Option.map_eq_some_iff.1 isInto
    rcases behind_of_behindVariable?_append isVariable with rfl | ⟨back, rfl⟩
    · rw [terminator?_behindVariables_behind_into] at ends
      cases ends
    · exact exists_end_of_behindVariables_append ends

end

/-! ## Readings that begin in a list -/

/-- Behind a name and a blank there is no other variable. -/
def NamesDivided (text : List Char) : Prop :=
  ∀ c rest, c :: rest <:+ text → continuesVariable c = true →
    rest.head?.any Text.isBlank = true → behindVariable? (skipBlanks rest) = none

theorem namesDivided_cons_iff
    {c : Char}
    {rest : List Char} :
    NamesDivided (c :: rest) ↔
      (continuesVariable c = true → rest.head?.any Text.isBlank = true →
        behindVariable? (skipBlanks rest) = none) ∧ NamesDivided rest := by
  constructor
  · intro divided
    exact ⟨divided c rest List.suffix_rfl,
      fun d more suffix => divided d more (suffix.trans (List.suffix_cons c rest))⟩
  · rintro ⟨head, tail⟩ d more suffix
    rcases List.suffix_cons_iff.1 suffix with same | suffix
    · obtain ⟨rfl, rfl⟩ := List.cons.inj same
      exact head
    · exact tail d more suffix

theorem NamesDivided.append_of_stops
    {rest front : List Char}
    (stop : ∀ c ∈ front, continuesVariable c = false)
    (divided : NamesDivided rest) :
    NamesDivided (front ++ rest) := by
  induction front with
  | nil => exact divided
  | cons c front inductionHypothesis =>
      obtain ⟨head, tail⟩ := List.forall_mem_cons.1 stop
      refine namesDivided_cons_iff.2 ⟨fun continues => ?_, inductionHypothesis tail⟩
      rw [head] at continues
      cases continues

theorem IsDivided.behindVariable?_eq_none
    {rest : List Char}
    (divided : IsDivided rest) :
    behindVariable? rest = none := by
  cases rest with
  | nil => rfl
  | cons c rest => rcases divided c rfl with rfl | rfl <;> rfl

theorem NamesDivided.append_name
    {rest blanks others : List Char}
    (divided : IsDivided rest)
    (blank : ∀ c ∈ blanks, Text.isBlank c = true)
    (continues : ∀ c ∈ others, continuesVariable c = true)
    (namesDivided : NamesDivided rest) :
    NamesDivided (others ++ (blanks ++ rest)) := by
  induction others with
  | nil =>
      have stop : ∀ c ∈ blanks, continuesVariable c = false :=
        fun c member => continuesVariable_of_isBlank (blank c member)
      rw [List.nil_append]
      exact namesDivided.append_of_stops stop
  | cons c others inductionHypothesis =>
      obtain ⟨-, continuesTail⟩ := List.forall_mem_cons.1 continues
      refine namesDivided_cons_iff.2 ⟨fun _ blankNext => ?_, inductionHypothesis continuesTail⟩
      cases others with
      | nil =>
          change behindVariable? (skipBlanks (blanks ++ rest)) = none
          rw [divided.skipBlanks_append blank, divided.behindVariable?_eq_none]
      | cons d others =>
          have visible := isBlank_of_continuesVariable (continuesTail d List.mem_cons_self)
          simp [visible] at blankNext

theorem Variable.namesDivided_append
    (variable_ : Variable)
    {rest : List Char}
    (divided : IsDivided rest)
    (namesDivided : NamesDivided rest) :
    NamesDivided (variable_.text.toList ++ rest) := by
  have front : ∀ c ∈ variable_.before.toList, continuesVariable c = false :=
    fun c member => continuesVariable_of_isBlank (variable_.isBlank_before c member)
  obtain ⟨c, others, spelling, begins, continues⟩ := variable_.isName
  have name : NamesDivided ((c :: others) ++ (variable_.behind.toList ++ rest)) := by
    refine NamesDivided.append_name divided variable_.isBlank_behind ?_ namesDivided
    exact List.forall_mem_cons.2 ⟨continuesVariable_of_beginsVariable begins, continues⟩
  rw [variable_.toList_text, List.append_assoc, List.append_assoc]
  refine NamesDivided.append_of_stops front ?_
  rcases spelling with spelling | spelling
  · rwa [spelling]
  · have sign : ∀ c ∈ ['@'], continuesVariable c = false := forall_mem_of_all (by decide +kernel)
    have signed := name.append_of_stops sign
    rwa [spelling]

/-- Names are divided in a list. -/
theorem namesDivided_list
    (first : Variable)
    (more : List Variable)
    {terminator : List Char}
    (ends : terminator = [] ∨ terminator = [';']) :
    NamesDivided (first.text.toList ++ (followers more ++ terminator)) := by
  refine first.namesDivided_append (isDivided_followers_append more ends) ?_
  induction more with
  | nil =>
      have stop : ∀ c ∈ terminator, continuesVariable c = false := by
        rcases ends with rfl | rfl <;> exact forall_mem_of_all (by decide +kernel)
      have divided : NamesDivided (terminator ++ []) :=
        NamesDivided.append_of_stops stop fun c rest suffix => by simp at suffix
      rwa [List.append_nil] at divided
  | cons next more inductionHypothesis =>
      have comma : ∀ c ∈ [','], continuesVariable c = false :=
        forall_mem_of_all (by decide +kernel)
      have list := next.namesDivided_append (isDivided_followers_append more ends)
        inductionHypothesis
      have divided := list.append_of_stops comma
      rwa [← List.append_assoc, ← List.append_assoc] at divided

/-- No `INTO` with variables is read where names are divided. -/
theorem NamesDivided.intoVariables?_eq_none
    {text rest : List Char}
    (divided : NamesDivided text)
    (suffix : rest <:+ text)
    (before : Option Char) :
    intoVariables? before rest = none := by
  cases found : intoVariables? before rest with
  | none => rfl
  | some result =>
      obtain ⟨behind, more, -, isInto, blankNext, isVariable, -⟩ :=
        exists_behind_of_intoVariables? found
      obtain ⟨spelled, here, spells⟩ := exists_of_behindWord? isInto
      have letters := isLetter_of_spells spells (forall_mem_of_all (by decide))
      have nonempty := ne_nil_of_spells spells (by decide)
      have last : spelled.getLast nonempty :: behind <:+ text := by
        refine List.IsSuffix.trans ?_ ((List.dropWhile_suffix Text.isBlank).trans suffix)
        change _ <:+ skipBlanks rest
        rw [here]
        refine ⟨spelled.dropLast, ?_⟩
        rw [List.append_cons, List.dropLast_concat_getLast]
      have continues := continuesVariable_of_isLetter (letters _ (List.getLast_mem nonempty))
      rw [divided _ _ last continues blankNext] at isVariable
      cases isVariable

end Normalize
end SqlLineage
