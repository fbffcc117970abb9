import SqlLineage.Normalize
import SqlLineage.Proofs.Normalize.Edits

/-!
# Steps that copy a text

A step of normalization leaves a text alone that holds nothing for it. A lookup in the global map
needs two double quotes, or a parenthesis or the name of the map to begin with; a Java expression
begins with a double quote; comments with a hash sign and empty lines begin behind the end of a line.
The delimiters of a quoted name go, and all else in it and in front of it stays.
-/

namespace SqlLineage
namespace Normalize

/-! ## Lookups in the global map -/

theorem eq_cons_of_behindChar?
    {c : Char}
    {text rest : List Char}
    (found : behindChar? c text = some rest) :
    text = c :: rest := by
  cases text with
  | nil => cases found
  | cons d text =>
      rw [behindChar?, Option.ite_none_right_eq_some] at found
      obtain ⟨rfl, found⟩ := found
      rw [Option.some.inj found]

theorem eq_append_of_behindText?
    {expected text rest : List Char}
    (found : behindText? expected text = some rest) :
    text = expected ++ rest := by
  induction expected generalizing text with
  | nil => exact Option.some.inj found
  | cons c expected inductionHypothesis =>
      rw [behindText?, Option.bind_eq_some_iff] at found
      obtain ⟨behind, isNext, found⟩ := found
      rw [eq_cons_of_behindChar? isNext, inductionHypothesis found, List.cons_append]

/-- A lookup begins with the name of the map, and its key stands between double quotes. -/
theorem of_lookup?
    {text : List Char}
    {found : List Char × List Char}
    (isLookup : lookup? text = some found) :
    text.head? = some 'g' ∧ 2 ≤ text.count '"' := by
  unfold lookup? at isLookup
  simp only [Option.bind_eq_bind, Option.bind_eq_some_iff] at isLookup
  obtain ⟨behind, named, quoted, opened, closed, isClosed, -⟩ := isLookup
  obtain rfl := eq_append_of_behindText? named
  have first := eq_cons_of_behindChar? opened
  have second := eq_cons_of_behindChar? isClosed
  refine ⟨rfl, ?_⟩
  have quotes : ['"', '"'].Sublist ("globalMap.get(".toList ++ behind) := by
    have inBehind : ('"' :: quoted).Sublist behind := by
      rw [← first]
      exact (List.dropWhile_suffix _).sublist
    have inQuoted : ['"'].Sublist quoted := by
      have last : ('"' :: closed).Sublist quoted := by
        rw [← second]
        exact List.drop_sublist _ _
      exact ((List.nil_sublist closed).cons_cons '"').trans last
    exact ((inQuoted.cons_cons '"').trans inBehind).trans (List.sublist_append_right _ _)
  exact quotes.count_le '"'

/-- A cast begins with a parenthesis. -/
theorem of_behindCast?
    {text rest : List Char}
    (isCast : behindCast? text = some rest) :
    text.head? = some '(' ∧ rest <:+ text := by
  unfold behindCast? at isCast
  simp only [Option.bind_eq_bind, Option.bind_eq_some_iff] at isCast
  obtain ⟨inner, opened, isCast⟩ := isCast
  rw [Option.ite_none_right_eq_some, Option.bind_eq_some_iff] at isCast
  obtain ⟨-, behind, closed, found⟩ := isCast
  obtain rfl := eq_cons_of_behindChar? opened
  obtain rfl := Option.some.inj found
  refine ⟨rfl, ?_⟩
  have inInner : ')' :: behind <:+ inner := by
    rw [← eq_cons_of_behindChar? closed]
    exact ((List.dropWhile_suffix _).trans (List.dropWhile_suffix _)).trans
      (List.dropWhile_suffix _)
  exact (List.dropWhile_suffix _).trans
    ((List.suffix_cons _ _).trans (inInner.trans (List.suffix_cons _ _)))

/-- A text has nothing to look up that has too few quotes, or begins with another character. -/
def LooksNothingUp (text : List Char) : Prop :=
  text.count '"' < 2 ∨ text.head? ≠ some '(' ∧ text.head? ≠ some 'g'

theorem LooksNothingUp.lookup?_eq_none
    {text : List Char}
    (nothing : LooksNothingUp text) :
    lookup? text = none := by
  rw [Option.eq_none_iff_forall_ne_some]
  intro found isLookup
  obtain ⟨head, quotes⟩ := of_lookup? isLookup
  rcases nothing with few | ⟨-, other⟩
  · exact absurd quotes (Nat.not_le.2 few)
  · exact other head

/-- Behind a cast there is nothing to look up in such a text, either. -/
theorem LooksNothingUp.of_behindCast?
    {text rest : List Char}
    (nothing : LooksNothingUp text)
    (isCast : behindCast? text = some rest) :
    LooksNothingUp rest := by
  obtain ⟨head, within⟩ := Normalize.of_behindCast? isCast
  rcases nothing with few | ⟨other, -⟩
  · exact .inl (Nat.lt_of_le_of_lt (within.sublist.count_le '"') few)
  · exact absurd head other

theorem LooksNothingUp.castLookup?_eq_none
    {text : List Char}
    (nothing : LooksNothingUp text) :
    castLookup? text = none := by
  have behindCast : (behindCast? text).bind lookup? = none := by
    cases isCast : behindCast? text with
    | none => rfl
    | some rest => exact (nothing.of_behindCast? isCast).lookup?_eq_none
  rw [castLookup?, behindCast]
  exact nothing.lookup?_eq_none

theorem LooksNothingUp.enclosedLookup?_eq_none
    {text : List Char}
    (nothing : LooksNothingUp text) :
    enclosedLookup? text = none := by
  rw [Option.eq_none_iff_forall_ne_some]
  intro found isLookup
  unfold enclosedLookup? at isLookup
  simp only [Option.bind_eq_bind, Option.bind_eq_some_iff] at isLookup
  obtain ⟨inner, opened, rest, isCast, result, isLookup, -⟩ := isLookup
  obtain rfl := eq_cons_of_behindChar? opened
  obtain ⟨-, quotes⟩ := of_lookup? isLookup
  rcases nothing with few | ⟨other, -⟩
  · obtain ⟨-, within⟩ := Normalize.of_behindCast? isCast
    have inText : rest.Sublist ('(' :: inner) :=
      (within.trans (List.dropWhile_suffix _)).sublist.trans (List.sublist_cons_self _ _)
    exact absurd (quotes.trans (inText.count_le '"')) (Nat.not_le.2 few)
  · exact other rfl

theorem keysFor_eq_self
    {find : List Char → Option (List Char × List Char)}
    {text : List Char}
    (nothing : ∀ rest, rest <:+ text → find rest = none)
    (fuel : Nat) :
    keysFor find fuel text = text := by
  induction fuel generalizing text with
  | zero => rfl
  | succ fuel inductionHypothesis =>
      cases text with
      | nil => rfl
      | cons c rest =>
          have later (behind : List Char) (within : behind <:+ rest) : find behind = none :=
            nothing behind (within.trans (List.suffix_cons c rest))
          rw [keysFor, nothing _ List.suffix_rfl]
          simp only [inductionHypothesis later]

theorem withGlobalKeys_eq_self
    {text : String}
    (nothing : ∀ rest, rest <:+ text.toList → LooksNothingUp rest) :
    withGlobalKeys text = text := by
  unfold withGlobalKeys
  have enclosed := keysFor_eq_self fun rest within => (nothing rest within).enclosedLookup?_eq_none
  have cast := keysFor_eq_self fun rest within => (nothing rest within).castLookup?_eq_none
  simp only [enclosed, cast, String.ofList_toList]

/-! ## Expressions -/

/-- A text that does not begin with a double quote is no expression. -/
theorem textOfExpression_eq_self
    {text : String}
    (unquoted : (Text.trim text).toList.head? ≠ some '"') :
    textOfExpression text = text := by
  rw [textOfExpression]
  exact if_neg (by simpa using unquoted)

/-! ## Lines -/

theorem hashComments_eq_self
    {text : List Char}
    (oneLine : '\n' ∉ text) :
    hashComments false text = text := by
  induction text with
  | nil => rfl
  | cons c text inductionHypothesis =>
      obtain ⟨noEnd, rest⟩ : '\n' ≠ c ∧ '\n' ∉ text := by simpa using oneLine
      rw [hashComments, if_neg noEnd.symm]
      simp only [Bool.false_and, Bool.false_eq_true, if_false]
      rw [inductionHypothesis rest]

theorem lineEnd?_eq_none
    {text : List Char}
    (oneLine : '\n' ∉ text) :
    lineEnd? text = none := by
  unfold lineEnd?
  split
  next => simp at oneLine
  next => simp at oneLine
  next => rfl

theorem collapse_eq_self
    {text : List Char}
    (oneLine : '\n' ∉ text)
    (fuel : Nat) :
    collapse fuel text = text := by
  induction fuel generalizing text with
  | zero => rfl
  | succ fuel inductionHypothesis =>
      cases text with
      | nil => rfl
      | cons c rest =>
          have later : '\n' ∉ rest := fun member => oneLine (List.mem_cons_of_mem c member)
          have noGap : gap? (c :: rest) = none := by
            rw [gap?, lineEnd?_eq_none oneLine]
          rw [collapse, noGap]
          simp only [inductionHypothesis later]

theorem collapseBlankLines_eq_self
    {text : String}
    (oneLine : '\n' ∉ text.toList) :
    collapseBlankLines text = text := by
  unfold collapseBlankLines
  simp only [collapse_eq_self oneLine, String.ofList_toList]

/-! ## Quotes -/

theorem nameCloser?_eq_none
    {c : Char}
    (noOpener : c ∉ ['\x60', '[', '"']) :
    nameCloser? c = none := by
  unfold nameCloser?
  split
  case h_4 => rfl
  all_goals exact absurd (by decide) noOpener

/-- Whether a character in front of a text begins neither a literal nor a name nor a comment. -/
def BeginsNothing (c : Char) (rest : List Char) : Prop :=
  c ≠ '\'' ∧ nameCloser? c = none ∧ ¬(c = '-' ∧ rest.head? = some '-')

instance (c : Char) (rest : List Char) : Decidable (BeginsNothing c rest) :=
  inferInstanceAs (Decidable (_ ∧ _))

theorem unquoteFrom_cons_of_beginsNothing
    {c : Char}
    {rest : List Char}
    (nothing : BeginsNothing c rest) :
    unquoteFrom .plain (c :: rest) = c :: unquoteFrom .plain rest := by
  obtain ⟨noLiteral, noName, noComment⟩ := nothing
  rw [unquoteFrom]
  simp only [noName]
  rw [if_neg noLiteral, if_neg noComment]

/-- Characters that open nothing are copied. -/
theorem unquoteFrom_plain_append
    {front : List Char}
    (opensNothing : ∀ c ∈ front, c ∉ delimiters ∧ c ≠ '-')
    (rest : List Char) :
    unquoteFrom .plain (front ++ rest) = front ++ unquoteFrom .plain rest := by
  induction front with
  | nil => rfl
  | cons c front inductionHypothesis =>
      obtain ⟨⟨undelimited, noDash⟩, tail⟩ := List.forall_mem_cons.1 opensNothing
      have nothing : BeginsNothing c (front ++ rest) := by
        refine ⟨?_, nameCloser?_eq_none ?_, fun comment => noDash comment.1⟩
        · rintro rfl
          exact undelimited (by decide)
        · intro opener
          simp only [List.mem_cons, List.not_mem_nil, or_false] at opener
          rcases opener with rfl | rfl | rfl <;> exact undelimited (by decide)
      rw [List.cons_append, unquoteFrom_cons_of_beginsNothing nothing, inductionHypothesis tail,
        List.cons_append]

/-- The characters of a quoted name are copied up to the closing delimiter. -/
theorem unquoteFrom_name_append
    {closer : Char}
    {name : List Char}
    (closed : closer ∉ name)
    (rest : List Char) :
    unquoteFrom (.name closer) (name ++ closer :: rest) = name ++ unquoteFrom .plain rest := by
  induction name with
  | nil =>
      rw [List.nil_append, unquoteFrom]
      exact if_pos rfl
  | cons c name inductionHypothesis =>
      obtain ⟨other, rest⟩ : closer ≠ c ∧ closer ∉ name := by simpa using closed
      rw [List.cons_append, unquoteFrom]
      simp only [if_neg other.symm, inductionHypothesis rest, List.cons_append]

/-- What opens a name opens nothing else. -/
theorem ne_of_nameCloser?
    {opener closer : Char}
    (opens : nameCloser? opener = some closer) :
    opener ≠ '\'' ∧ opener ≠ '-' ∧ opener ≠ '\n' ∧ closer ≠ '\n' := by
  unfold nameCloser? at opens
  split at opens <;> first | cases opens; decide | cases opens

/-- A character stands on the first line exactly if this line can be split there. -/
theorem onLine_eq_true_iff
    {closer : Char}
    (noEnd : closer ≠ '\n')
    (text : List Char) :
    onLine closer text = true ↔
      ∃ name rest, text = name ++ closer :: rest ∧ closer ∉ name ∧ '\n' ∉ name := by
  constructor
  · intro found
    have member : closer ∈ text.takeWhile (· != '\n') := by simpa [onLine] using found
    obtain ⟨name, behind, line, closed⟩ := List.eq_append_cons_of_mem member
    have split : text = name ++ closer :: (behind ++ text.dropWhile (· != '\n')) := by
      rw [← List.cons_append, ← List.append_assoc, ← line, List.takeWhile_append_dropWhile]
    refine ⟨name, _, split, closed, fun isEnd => ?_⟩
    have inLine : '\n' ∈ text.takeWhile (· != '\n') := by
      rw [line]
      exact List.mem_append_left _ isEnd
    simpa using List.mem_takeWhile_imp inLine
  · rintro ⟨name, rest, rfl, -, oneLine⟩
    have whole : ∀ c ∈ name, (c != '\n') = true := by
      intro c member
      simpa using fun isEnd : c = '\n' => oneLine (isEnd ▸ member)
    rw [onLine, List.takeWhile_append_of_pos whole, List.takeWhile_cons_of_pos (by simpa using noEnd)]
    simp

/-- The delimiters of a quoted name are taken away. -/
theorem unquoteFrom_quoted_append
    {opener closer : Char}
    (opens : nameCloser? opener = some closer)
    {name : List Char}
    (closed : closer ∉ name)
    (oneLine : '\n' ∉ name)
    (rest : List Char) :
    unquoteFrom .plain (opener :: (name ++ closer :: rest)) = name ++ unquoteFrom .plain rest := by
  obtain ⟨noLiteral, noDash, -, noEnd⟩ := ne_of_nameCloser? opens
  have closes : onLine closer (name ++ closer :: rest) = true :=
    (onLine_eq_true_iff noEnd _).2 ⟨name, rest, rfl, closed, oneLine⟩
  rw [unquoteFrom]
  simp only [opens]
  rw [if_neg noLiteral, if_neg (fun comment => noDash comment.1), if_pos closes,
    unquoteFrom_name_append closed]

theorem unquoteFrom_quoted
    {opener closer : Char}
    (opens : nameCloser? opener = some closer)
    {name : List Char}
    (closed : closer ∉ name)
    (oneLine : '\n' ∉ name) :
    unquoteFrom .plain (opener :: (name ++ [closer])) = name := by
  rw [unquoteFrom_quoted_append opens closed oneLine, unquoteFrom, List.append_nil]

end Normalize
end SqlLineage
