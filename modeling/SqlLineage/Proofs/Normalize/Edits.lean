import Mathlib.Data.List.TakeWhile
import SqlLineage.Normalize.Lines
import SqlLineage.Normalize.SelectInto

/-!
# Steps that edit a text

A step of normalization copies a text character by character and replaces some segments of it. What
it may replace says what it keeps: a character that stands in no such segment keeps its place between
what stands in front of it and behind it, and a text without such a segment is copied as it is.
-/

namespace SqlLineage
namespace Normalize

/-- A text is edited into another one: some of its segments are replaced, where `edit` says by
what. -/
inductive Edited (edit : List Char → List Char → Prop) : List Char → List Char → Prop
  | nil : Edited edit [] []
  | keep {source result : List Char} (c : Char) :
      Edited edit source result → Edited edit (c :: source) (c :: result)
  | replace {old new source result : List Char} :
      edit old new → Edited edit source result → Edited edit (old ++ source) (new ++ result)

namespace Edited

variable {edit : List Char → List Char → Prop}
variable {source result : List Char}

theorem keepAll (kept : List Char) (edited : Edited edit source result) :
    Edited edit (kept ++ source) (kept ++ result) := by
  induction kept with
  | nil => exact edited
  | cons c kept inductionHypothesis => exact .keep c inductionHypothesis

theorem refl (text : List Char) : Edited edit text text := by
  have kept := (Edited.nil : Edited edit [] []).keepAll text
  rwa [List.append_nil] at kept

/-- An empty text stays empty if only segments with characters are replaced. -/
theorem eq_nil
    (nonempty : ∀ old new, edit old new → old ≠ [])
    (edited : Edited edit [] result) :
    result = [] := by
  generalize empty : ([] : List Char) = source at edited
  cases edited with
  | nil => rfl
  | keep c edited => cases empty
  | replace replaces edited =>
      obtain ⟨rfl, -⟩ := List.append_eq_nil_iff.1 empty.symm
      exact absurd rfl (nonempty _ _ replaces)

/-- A character that is in no segment that is replaced keeps its place. -/
theorem exists_split
    {c : Char}
    (kept : ∀ old new, edit old new → c ∉ old)
    {front behind : List Char}
    (edited : Edited edit (front ++ c :: behind) result) :
    ∃ newFront newBehind, result = newFront ++ c :: newBehind ∧
      Edited edit front newFront ∧ Edited edit behind newBehind := by
  generalize whole : front ++ c :: behind = source at edited
  induction edited generalizing front with
  | nil => simp at whole
  | keep d edited inductionHypothesis =>
      cases front with
      | nil =>
          obtain ⟨rfl, rfl⟩ := List.cons.inj whole
          exact ⟨[], _, rfl, .nil, edited⟩
      | cons e front =>
          rw [List.cons_append] at whole
          obtain ⟨rfl, rest⟩ := List.cons.inj whole
          obtain ⟨newFront, newBehind, rfl, inFront, inBehind⟩ := inductionHypothesis rest
          exact ⟨e :: newFront, newBehind, rfl, .keep e inFront, inBehind⟩
  | @replace old new source result replaces edited inductionHypothesis =>
      obtain ⟨middle, rfl, rest⟩ : ∃ middle, front = old ++ middle ∧
          middle ++ c :: behind = source := by
        rcases List.append_eq_append_iff.1 whole with
          ⟨middle, rfl, rest⟩ | ⟨middle, rfl, rest⟩
        · cases middle with
          | nil => exact ⟨[], by simp, by simpa using rest⟩
          | cons d middle =>
              rw [List.cons_append] at rest
              obtain ⟨rfl, -⟩ := List.cons.inj rest
              exact absurd (List.mem_append_right _ List.mem_cons_self) (kept _ _ replaces)
        · exact ⟨middle, rfl, rest.symm⟩
      obtain ⟨newFront, newBehind, rfl, inFront, inBehind⟩ := inductionHypothesis rest
      exact ⟨new ++ newFront, newBehind, by rw [List.append_assoc], .replace replaces inFront,
        inBehind⟩

/-- What holds of the characters of a text and of those that are put in holds of all characters. -/
theorem forall_mem
    {property : Char → Prop}
    (edited : Edited edit source result)
    (put : ∀ old new, edit old new → ∀ c ∈ new, property c)
    (holds : ∀ c ∈ source, property c) :
    ∀ c ∈ result, property c := by
  induction edited with
  | nil => exact holds
  | keep c edited inductionHypothesis =>
      obtain ⟨head, tail⟩ := List.forall_mem_cons.1 holds
      exact List.forall_mem_cons.2 ⟨head, inductionHypothesis tail⟩
  | replace replaces edited inductionHypothesis =>
      obtain ⟨-, tail⟩ := List.forall_mem_append.1 holds
      exact List.forall_mem_append.2 ⟨put _ _ replaces, inductionHypothesis tail⟩

/-- Characters that segments and what replaces them have in common are the same before and after. -/
theorem filter_eq
    {property : Char → Bool}
    (edited : Edited edit source result)
    (same : ∀ old new, edit old new → new.filter property = old.filter property) :
    result.filter property = source.filter property := by
  induction edited with
  | nil => rfl
  | keep c edited inductionHypothesis =>
      rw [List.filter_cons, List.filter_cons, inductionHypothesis]
  | replace replaces edited inductionHypothesis =>
      rw [List.filter_append, List.filter_append, same _ _ replaces, inductionHypothesis]

/-- A text in which there is nothing to replace is copied. -/
theorem eq_of_unedited
    (edited : Edited edit source result)
    (unedited : ∀ old new, edit old new → ¬old <:+: source) :
    result = source := by
  induction edited with
  | nil => rfl
  | keep c edited inductionHypothesis =>
      rw [inductionHypothesis fun old new replaces within =>
        unedited old new replaces (within.trans (List.suffix_cons c _).isInfix)]
  | replace replaces edited inductionHypothesis =>
      exact absurd (List.prefix_append _ _).isInfix (unedited _ _ replaces)

end Edited

/-! ## Equations in place of assignments -/

/-- An assignment becomes an equation. -/
def IsAssignment (old new : List Char) : Prop :=
  old = [':', '='] ∧ new = ['=']

theorem edited_equations (text : List Char) : Edited IsAssignment text (equations text) := by
  fun_induction equations text with
  | case1 => exact .nil
  | case2 c => exact .refl [c]
  | case3 c d cs assigns inductionHypothesis =>
      obtain ⟨rfl, rfl⟩ := assigns
      exact .replace ⟨rfl, rfl⟩ inductionHypothesis
  | case4 c d cs notAssignment inductionHypothesis => exact .keep c inductionHypothesis

/-! ## Selections without their variables -/

/-- The characters that delimit string literals and quoted names. -/
def delimiters : List Char :=
  ['\'', '"', '\x60', '[', ']']

/-- What is looked up for the characters of a text holds of them. -/
theorem forall_mem_of_all
    {property : Char → Prop}
    [DecidablePred property]
    {text : List Char}
    (lookup : (text.all fun c => decide (property c)) = true) :
    ∀ c ∈ text, property c := by
  intro c member
  exact of_decide_eq_true (List.all_eq_true.1 lookup c member)

theorem not_mem_delimiters
    (property : Char → Bool)
    {c : Char}
    (holds : property c = true)
    (lookup : (delimiters.all fun d => !property d) = true) :
    c ∉ delimiters := by
  intro member
  have absent := List.all_eq_true.1 lookup c member
  simp [holds] at absent

/-- A text is left behind characters of which none is a delimiter. -/
def LeftOf (text rest : List Char) : Prop :=
  ∃ taken, text = taken ++ rest ∧ ∀ c ∈ taken, c ∉ delimiters

namespace LeftOf

variable {text rest : List Char}

theorem refl (text : List Char) : LeftOf text text :=
  ⟨[], rfl, by simp⟩

theorem trans
    {last : List Char}
    (first : LeftOf text rest)
    (second : LeftOf rest last) :
    LeftOf text last := by
  obtain ⟨taken, rfl, undelimited⟩ := first
  obtain ⟨more, rfl, undelimitedMore⟩ := second
  refine ⟨taken ++ more, by rw [List.append_assoc], ?_⟩
  exact List.forall_mem_append.2 ⟨undelimited, undelimitedMore⟩

theorem cons
    {c : Char}
    (undelimited : c ∉ delimiters)
    (left : LeftOf text rest) :
    LeftOf (c :: text) rest :=
  trans ⟨[c], rfl, by simpa using undelimited⟩ left

theorem dropWhile
    {property : Char → Bool}
    (lookup : (delimiters.all fun d => !property d) = true)
    (text : List Char) :
    LeftOf text (text.dropWhile property) := by
  refine ⟨text.takeWhile property, List.takeWhile_append_dropWhile.symm, fun c member => ?_⟩
  exact not_mem_delimiters property (List.mem_takeWhile_imp member) lookup

end LeftOf

theorem leftOf_skipBlanks (text : List Char) : LeftOf text (skipBlanks text) :=
  .dropWhile (by decide +kernel) text

/-- What is behind a word is behind characters that fold to it. -/
theorem exists_of_behindWord?
    {word text rest : List Char}
    (found : behindWord? word text = some rest) :
    ∃ taken, text = taken ++ rest ∧ taken.map Text.foldChar = word := by
  fun_induction behindWord? word text with
  | case1 text => exact ⟨[], by simpa using found, rfl⟩
  | case2 => cases found
  | case3 word c text inductionHypothesis =>
      obtain ⟨taken, rfl, folds⟩ := inductionHypothesis found
      exact ⟨c :: taken, rfl, by rw [List.map_cons, folds]⟩
  | case4 => cases found

theorem leftOf_behindVariable?
    {text rest : List Char}
    (found : behindVariable? text = some rest) :
    LeftOf text rest := by
  have name {c : Char} {text : List Char}
      (found : (if beginsVariable c then some (text.dropWhile continuesVariable) else none) =
        some rest) : LeftOf (c :: text) rest := by
    rw [Option.ite_none_right_eq_some] at found
    obtain ⟨begins, found⟩ := found
    obtain rfl := Option.some.inj found
    exact .cons (not_mem_delimiters beginsVariable begins (by decide +kernel))
      (.dropWhile (by decide +kernel) text)
  unfold behindVariable? at found
  split at found
  next text =>
    cases text with
    | nil => cases found
    | cons c text => exact .cons (by decide) (name found)
  next =>
    cases text with
    | nil => cases found
    | cons c text => exact name found

theorem leftOf_behindVariables (fuel : Nat) (text : List Char) :
    LeftOf text (behindVariables fuel text) := by
  fun_induction behindVariables fuel text with
  | case1 text => exact .refl text
  | case2 fuel text more comma behind found inductionHypothesis =>
      have list : LeftOf (skipBlanks text) behind := by
        rw [comma]
        exact .cons (by decide) ((leftOf_skipBlanks more).trans (leftOf_behindVariable? found))
      exact (leftOf_skipBlanks text).trans (list.trans inductionHypothesis)
  | case3 | case4 => exact .refl _

theorem leftOf_terminator?
    {text terminator rest : List Char}
    (ends : terminator? text = some (terminator, rest)) :
    LeftOf text (terminator ++ rest) := by
  have skipped := leftOf_skipBlanks text
  unfold terminator? at ends
  split at ends
  next atEnd =>
    cases ends
    rwa [atEnd] at skipped
  next more semicolon =>
    cases ends
    rwa [semicolon] at skipped
  next => cases ends

/-- A list of variables becomes a space, with the `INTO` in front of it and the blank behind this
word. There are no delimiters in it. -/
structure IsSelectTarget (old new : List Char) : Prop where
  /-- A space stands in for the list. -/
  becomesSpace : new = [' ']
  /-- There are no delimiters in it. -/
  undelimited : ∀ c ∈ old, c ∉ delimiters
  /-- The first letter of `INTO` is in it. -/
  hasInto : ∃ c ∈ old, Text.foldChar c = 'i'
  /-- The blank behind `INTO` is in it. -/
  hasBlank : ∃ c ∈ old, Text.isBlank c = true

theorem IsSelectTarget.ne_nil
    (old new : List Char)
    (target : IsSelectTarget old new) :
    old ≠ [] := by
  obtain ⟨c, member, -⟩ := target.hasBlank
  exact List.ne_nil_of_mem member

/-- The word `INTO` holds no delimiters. -/
theorem undelimited_of_folds
    {word : List Char}
    (folds : word.map Text.foldChar = ['i', 'n', 't', 'o']) :
    ∀ c ∈ word, c ∉ delimiters := by
  intro c member
  have folded := List.mem_map_of_mem (f := Text.foldChar) member
  rw [folds] at folded
  exact not_mem_delimiters (fun c => ['i', 'n', 't', 'o'].contains (Text.foldChar c))
    (List.contains_iff_mem.2 folded) (by decide +kernel)

/-- What is read where `INTO` and a list of variables stand: the word, a blank, a first variable and
the others up to the end of the statement. -/
theorem exists_behind_of_intoVariables?
    {before : Option Char}
    {text : List Char}
    {found : List Char × List Char}
    (isInto : intoVariables? before text = some found) :
    ∃ behind more,
      isBoundary (if (skipBlanks text).length = text.length then before else some ' ')
        (skipBlanks text).head? = true ∧
      behindWord? ['i', 'n', 't', 'o'] (skipBlanks text) = some behind ∧
      behind.head?.any Text.isBlank = true ∧
      behindVariable? (skipBlanks behind) = some more ∧
      terminator? (behindVariables more.length more) = some found := by
  simp only [intoVariables?, Option.ite_none_right_eq_some] at isInto
  obtain ⟨boundary, isInto⟩ := isInto
  cases isWord : behindWord? ['i', 'n', 't', 'o'] (skipBlanks text) with
  | none => simp [isWord] at isInto
  | some behind =>
      simp only [isWord, Option.ite_none_right_eq_some] at isInto
      obtain ⟨blankNext, isInto⟩ := isInto
      obtain ⟨more, isVariable, ends⟩ := Option.bind_eq_some_iff.1 isInto
      exact ⟨behind, more, boundary, rfl, blankNext, isVariable, ends⟩

/-- `INTO` and a list of variables, with the blanks in front and the one behind the word. -/
theorem exists_list_of_intoVariables?
    {before : Option Char}
    {text terminator rest : List Char}
    (found : intoVariables? before text = some (terminator, rest)) :
    ∃ blanks spelled blank list,
      text = blanks ++ (spelled ++ blank :: (list ++ (terminator ++ rest))) ∧
      (∀ c ∈ blanks, Text.isBlank c = true) ∧
      isBoundary (if blanks = [] then before else some ' ') spelled.head? = true ∧
      spelled.map Text.foldChar = ['i', 'n', 't', 'o'] ∧ Text.isBlank blank = true ∧
      ∀ c ∈ list, c ∉ delimiters := by
  obtain ⟨behind, more, boundary, isInto, blankNext, isVariable, ends⟩ :=
    exists_behind_of_intoVariables? found
  obtain ⟨spelled, here, folds⟩ := exists_of_behindWord? isInto
  cases behind with
  | nil => cases blankNext
  | cons blank behind =>
      have isBlank : Text.isBlank blank = true := by simpa using blankNext
      have skipped : skipBlanks (blank :: behind) = skipBlanks behind :=
        List.dropWhile_cons_of_pos isBlank
      rw [skipped] at isVariable
      obtain ⟨list, rfl, undelimited⟩ := (leftOf_skipBlanks behind).trans
        ((leftOf_behindVariable? isVariable).trans
          ((leftOf_behindVariables _ more).trans (leftOf_terminator? ends)))
      have split : text.takeWhile Text.isBlank ++ skipBlanks text = text :=
        List.takeWhile_append_dropWhile
      have moved : (skipBlanks text).length = text.length ↔ text.takeWhile Text.isBlank = [] := by
        have length := congrArg List.length split
        rw [List.length_append] at length
        rw [← List.length_eq_zero_iff]
        omega
      refine ⟨text.takeWhile Text.isBlank, spelled, blank, list, by rw [← here, split],
        fun _ => List.mem_takeWhile_imp, ?_, folds, isBlank, undelimited⟩
      cases spelled with
      | nil => cases folds
      | cons c spelled =>
          simp only [moved] at boundary
          rwa [here] at boundary

theorem exists_target_of_intoVariables?
    {before : Option Char}
    {text terminator rest : List Char}
    (found : intoVariables? before text = some (terminator, rest)) :
    ∃ target, IsSelectTarget target [' '] ∧ text = target ++ (terminator ++ rest) := by
  obtain ⟨blanks, spelled, blank, list, rfl, blankFront, -, folds, isBlank, undelimited⟩ :=
    exists_list_of_intoVariables? found
  obtain ⟨i, inWord, foldsI⟩ : ∃ i ∈ spelled, Text.foldChar i = 'i' := by
    rw [← List.mem_map, folds]
    exact List.mem_cons_self
  have undelimitedBlank {c : Char} (blank : Text.isBlank c = true) : c ∉ delimiters :=
    not_mem_delimiters Text.isBlank blank (by decide)
  refine ⟨blanks ++ (spelled ++ blank :: list), ⟨rfl, ?_, ?_, ?_⟩, by simp⟩
  · refine List.forall_mem_append.2 ⟨fun c member => undelimitedBlank (blankFront c member), ?_⟩
    refine List.forall_mem_append.2 ⟨undelimited_of_folds folds, ?_⟩
    exact List.forall_mem_cons.2 ⟨undelimitedBlank isBlank, undelimited⟩
  · exact ⟨i, by simp [inWord], foldsI⟩
  · exact ⟨blank, by simp, isBlank⟩

theorem exists_target_of_shorten?
    {kept text : List Char}
    {shortened : Shortened}
    (found : shorten? kept text = some shortened) :
    ∃ more target, shortened.kept.reverse = kept.reverse ++ more ∧ IsSelectTarget target [' '] ∧
      text = more ++ (target ++ (shortened.terminator ++ shortened.rest)) := by
  fun_induction shorten? kept text with
  | case1 kept text terminator rest isInto =>
      obtain rfl := Option.some.inj found
      obtain ⟨target, isTarget, rfl⟩ := exists_target_of_intoVariables? isInto
      exact ⟨[], target, by simp, isTarget, rfl⟩
  | case2 => cases found
  | case3 => cases found
  | case4 kept c rest _ _ inductionHypothesis =>
      obtain ⟨more, target, keeps, isTarget, rfl⟩ := inductionHypothesis found
      exact ⟨c :: more, target, by simpa using keeps, isTarget, rfl⟩

theorem exists_target_of_shortenedSelect?
    {before : Option Char}
    {text : List Char}
    {shortened : Shortened}
    (found : shortenedSelect? before text = some shortened) :
    ∃ target, IsSelectTarget target [' '] ∧
      text = shortened.kept.reverse ++ (target ++ (shortened.terminator ++ shortened.rest)) := by
  unfold shortenedSelect? at found
  simp only [Option.ite_none_right_eq_some] at found
  obtain ⟨-, found⟩ := found
  cases isSelect : behindWord? ['s', 'e', 'l', 'e', 'c', 't'] text with
  | none => simp [isSelect] at found
  | some behind =>
      simp only [isSelect, Option.ite_none_right_eq_some] at found
      obtain ⟨word, rfl, -⟩ := exists_of_behindWord? isSelect
      obtain ⟨more, target, keeps, isTarget, rfl⟩ := exists_target_of_shorten? found.2
      refine ⟨target, isTarget, ?_⟩
      rw [keeps]
      simp

/-- The variables of selections are all that is replaced. -/
theorem edited_dropInto (fuel : Nat) (before : Option Char) (text : List Char) :
    Edited IsSelectTarget text (dropInto fuel before text) := by
  induction fuel generalizing before text with
  | zero => exact .refl text
  | succ fuel inductionHypothesis =>
      cases text with
      | nil => exact .nil
      | cons c rest =>
          rw [dropInto]
          split
          next shortened isSelect =>
            obtain ⟨target, isTarget, split⟩ := exists_target_of_shortenedSelect? isSelect
            rw [split, List.append_assoc]
            refine (Edited.replace isTarget ?_).keepAll _
            exact (inductionHypothesis _ _).keepAll _
          next => exact .keep c (inductionHypothesis _ _)

end Normalize
end SqlLineage
