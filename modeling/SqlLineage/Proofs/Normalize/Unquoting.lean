import SqlLineage.Proofs.Normalize.Copies

/-!
# Delimiters that are taken away

Delimiters are taken away in pairs: an opening one outside of literals, comments and other names, and
the first closing one behind it, if this stands on the same line. What is between them is kept, and so
is all the rest of the text.
-/

namespace SqlLineage
namespace Normalize

/-! ## One character -/

/-- Where a text stands that comes behind a character at `place`. -/
def placeAfter (place : Place) (c : Char) (rest : List Char) : Place :=
  match place with
  | .literal => if c = '\'' then .plain else .literal
  | .comment => if c = '\n' then .plain else .comment
  | .name closer => if c = closer then .plain else .name closer
  | .plain =>
    if c = '\'' then .literal
    else if c = '-' ∧ rest.head? = some '-' then .comment
    else
      match nameCloser? c with
      | some closer => if onLine closer rest then .name closer else .plain
      | none => .plain

/-- Whether a character is taken away. -/
def isRemoved (place : Place) (c : Char) (rest : List Char) : Bool :=
  match place with
  | .literal | .comment => false
  | .name closer => c = closer
  | .plain =>
    match nameCloser? c with
    | some closer => onLine closer rest
    | none => false

theorem unquoteFrom_nil (place : Place) : unquoteFrom place [] = [] := by
  rw [unquoteFrom.eq_def]

theorem unquoteFrom_cons (place : Place) (c : Char) (rest : List Char) :
    unquoteFrom place (c :: rest) =
      (if isRemoved place c rest then [] else [c]) ++
        unquoteFrom (placeAfter place c rest) rest := by
  rw [unquoteFrom.eq_def]
  cases place with
  | literal => rfl
  | comment => rfl
  | name closer =>
      by_cases closes : c = closer <;> simp [isRemoved, placeAfter, closes]
  | plain =>
      by_cases literal : c = '\''
      · subst literal
        rfl
      · by_cases comment : c = '-' ∧ rest.head? = some '-'
        · obtain ⟨rfl, dash⟩ := comment
          simp [isRemoved, placeAfter, nameCloser?, dash]
        · cases opens : nameCloser? c with
          | none => simp [isRemoved, placeAfter, literal, comment, opens]
          | some closer =>
              cases closed : onLine closer rest <;>
                simp [isRemoved, placeAfter, literal, comment, opens, closed]

/-- A character that opens no name is copied, whatever else it begins. -/
theorem unquoteFrom_cons_of_no_closer
    {c : Char}
    (noName : nameCloser? c = none)
    (rest : List Char) :
    unquoteFrom .plain (c :: rest) = c :: unquoteFrom (placeAfter .plain c rest) rest := by
  have kept : isRemoved .plain c rest = false := by rw [isRemoved, noName]
  rw [unquoteFrom_cons, kept]
  rfl

/-! ## Texts that end what begins in them -/

/-- Whether what begins in a text ends in it, if the text stands at `place`. A delimiter that is not
closed on its line begins nothing, but only the end of the line tells that it is not. -/
def EndsInside : Place → List Char → Prop
  | place, [] => place = .plain
  | place, c :: text =>
    (place = .plain →
      ((nameCloser? c).all fun closer => onLine closer text || text.contains '\n') = true) ∧
      EndsInside (placeAfter place c text) text

instance decidableEndsInside : (place : Place) → (text : List Char) →
    Decidable (EndsInside place text)
  | place, [] => inferInstanceAs (Decidable (place = .plain))
  | place, c :: text =>
    have : Decidable (EndsInside (placeAfter place c text) text) :=
      decidableEndsInside (placeAfter place c text) text
    inferInstanceAs (Decidable (_ ∧ _))

/-- Only if a text is on one line does what stands behind it matter to its first line. -/
theorem onLine_append (closer : Char) (text rest : List Char) :
    onLine closer (text ++ rest) =
      (onLine closer text || !text.contains '\n' && onLine closer rest) := by
  induction text with
  | nil => simp [onLine]
  | cons c text inductionHypothesis =>
      by_cases isEnd : c = '\n'
      · simp [onLine, isEnd]
      · have step (cs : List Char) :
            onLine closer (c :: cs) = (decide (closer = c) || onLine closer cs) := by
          simp [onLine, isEnd]
        rw [List.cons_append, step, step, inductionHypothesis, Bool.or_assoc]
        simp [Ne.symm isEnd]

section

variable {place : Place} {c : Char} {text rest : List Char}

/-- A character is read alike in front of a longer text if the same delimiters are on its first
line. -/
theorem isRemoved_append
    (same : ∀ closer ∈ nameCloser? c,
      place = .plain → onLine closer (text ++ rest) = onLine closer text) :
    isRemoved place c (text ++ rest) = isRemoved place c text := by
  cases place with
  | literal | comment | name => rfl
  | plain =>
      cases opens : nameCloser? c with
      | none => simp only [isRemoved, opens]
      | some closer => simp only [isRemoved, opens, same closer opens rfl]

theorem placeAfter_append
    (same : ∀ closer ∈ nameCloser? c,
      place = .plain → onLine closer (text ++ rest) = onLine closer text)
    (apart : c = '-' → ((text ++ rest).head? = some '-' ↔ text.head? = some '-')) :
    placeAfter place c (text ++ rest) = placeAfter place c text := by
  cases place with
  | literal | comment | name => rfl
  | plain =>
      have comment :
          (c = '-' ∧ (text ++ rest).head? = some '-') ↔ c = '-' ∧ text.head? = some '-' :=
        and_congr_right apart
      cases opens : nameCloser? c with
      | none => simp only [placeAfter, opens, comment]
      | some closer => simp only [placeAfter, opens, comment, same closer opens rfl]

/-- Behind a text that ends what begins in it, another text is read as if it were alone. -/
theorem unquoteFrom_append_of_endsInside
    (inside : EndsInside place text)
    (apart : text.getLast? = some '-' → rest.head? ≠ some '-') :
    unquoteFrom place (text ++ rest) = unquoteFrom place text ++ unquoteFrom .plain rest := by
  induction text generalizing place with
  | nil =>
      obtain rfl : place = .plain := inside
      rw [unquoteFrom_nil, List.nil_append, List.nil_append]
  | cons c text inductionHypothesis =>
      obtain ⟨settled, inside⟩ := inside
      have same (closer : Char) (opens : closer ∈ nameCloser? c) (plain : place = .plain) :
          onLine closer (text ++ rest) = onLine closer text := by
        have ends := settled plain
        rw [opens, Option.all_some, Bool.or_eq_true] at ends
        rcases ends with found | newline
        · rw [onLine_append, found, Bool.true_or]
        · rw [onLine_append, newline, Bool.not_true, Bool.false_and, Bool.or_false]
      have dashes (dash : c = '-') :
          (text ++ rest).head? = some '-' ↔ text.head? = some '-' := by
        cases text with
        | nil => simpa using apart (by rw [dash]; rfl)
        | cons d text => rfl
      have apartTail (last : text.getLast? = some '-') : rest.head? ≠ some '-' := by
        apply apart
        rw [List.getLast?_cons, last]
        rfl
      rw [List.cons_append, unquoteFrom_cons, unquoteFrom_cons, isRemoved_append same,
        placeAfter_append same dashes, inductionHypothesis inside apartTail, List.append_assoc]

theorem placeAfter_ne_name_newline
    (noEnd : place ≠ .name '\n') :
    placeAfter place c text ≠ .name '\n' := by
  cases place with
  | literal =>
      show (if c = '\'' then Place.plain else .literal) ≠ .name '\n'
      split <;> simp
  | comment =>
      show (if c = '\n' then Place.plain else .comment) ≠ .name '\n'
      split <;> simp
  | name closer =>
      show (if c = closer then Place.plain else .name closer) ≠ .name '\n'
      split
      · simp
      · exact noEnd
  | plain =>
      unfold placeAfter
      cases opens : nameCloser? c with
      | none => split_ifs <;> simp
      | some closer =>
          obtain ⟨-, -, -, differs⟩ := ne_of_nameCloser? opens
          simp only
          split_ifs <;> simp [differs]

/-- The end of a line changes nothing in front of it. -/
theorem unquoteFrom_append_newline
    (noEnd : place ≠ .name '\n') :
    unquoteFrom place (text ++ ['\n']) = unquoteFrom place text ++ ['\n'] := by
  induction text generalizing place with
  | nil =>
      have kept : isRemoved place '\n' [] = false := by
        cases place with
        | literal | comment | plain => rfl
        | name closer => simpa [isRemoved] using fun isEnd : '\n' = closer => noEnd (by rw [isEnd])
      rw [List.nil_append, unquoteFrom_cons, kept, unquoteFrom_nil, unquoteFrom_nil]
      rfl
  | cons c text inductionHypothesis =>
      have same (closer : Char) (_ : closer ∈ nameCloser? c) (_ : place = .plain) :
          onLine closer (text ++ ['\n']) = onLine closer text := by
        have nothing : onLine closer ['\n'] = false := rfl
        rw [onLine_append, nothing, Bool.and_false, Bool.or_false]
      have dashes (_ : c = '-') : (text ++ ['\n']).head? = some '-' ↔ text.head? = some '-' := by
        cases text <;> simp
      rw [List.cons_append, unquoteFrom_cons, unquoteFrom_cons, isRemoved_append same,
        placeAfter_append same dashes, inductionHypothesis (placeAfter_ne_name_newline noEnd),
        List.append_assoc]

end

/-! ## Pairs -/

/-- A quoted name becomes the text between its delimiters. -/
def IsQuotedName (old new : List Char) : Prop :=
  ∃ opener closer, nameCloser? opener = some closer ∧
    old = opener :: (new ++ [closer]) ∧ closer ∉ new ∧ '\n' ∉ new

/-- Outside of names a character is taken away only if it opens one that ends on its line. -/
theorem opens_of_isRemoved
    {place : Place}
    (noName : ∀ closer, place ≠ .name closer)
    {c : Char}
    {rest : List Char}
    (removed : isRemoved place c rest = true) :
    place = .plain ∧ ∃ closer, nameCloser? c = some closer ∧ onLine closer rest = true := by
  cases place with
  | literal | comment => cases removed
  | name closer => exact absurd rfl (noName closer)
  | plain =>
      refine ⟨rfl, ?_⟩
      cases opens : nameCloser? c with
      | none => simp [isRemoved, opens] at removed
      | some closer => exact ⟨closer, rfl, by simpa [isRemoved, opens] using removed⟩

/-- Behind a character that is kept no name is open that was not open in front of it. -/
theorem placeAfter_ne_name
    {place : Place}
    (noName : ∀ closer, place ≠ .name closer)
    {c : Char}
    {rest : List Char}
    (kept : isRemoved place c rest = false)
    (closer : Char) :
    placeAfter place c rest ≠ .name closer := by
  cases place with
  | literal =>
      show (if c = '\'' then Place.plain else .literal) ≠ .name closer
      split <;> simp
  | comment =>
      show (if c = '\n' then Place.plain else .comment) ≠ .name closer
      split <;> simp
  | name closer => exact absurd rfl (noName closer)
  | plain =>
      simp only [placeAfter, isRemoved] at kept ⊢
      cases opens : nameCloser? c with
      | none => split_ifs <;> simp
      | some other =>
          simp only [opens] at kept
          simp only [kept, Bool.false_eq_true, if_false]
          split_ifs <;> simp

/-! ## The front of a text -/

/-- Where `rest` stands if it comes behind a text at `place`. -/
def placeBehind (place : Place) (rest : List Char) : List Char → Place
  | [] => place
  | c :: front => placeBehind (placeAfter place c (front ++ rest)) rest front

/-- What becomes of the front of a text: it is edited, or its last part is inside of a quoted name that
the rest of the text closes. -/
inductive FrontUnquoted (place : Place) (front rest : List Char) : Prop
  | apart {newFront : List Char} :
      (∀ closer, placeBehind place rest front ≠ .name closer) →
      Edited IsQuotedName front newFront →
      unquoteFrom place (front ++ rest) =
        newFront ++ unquoteFrom (placeBehind place rest front) rest →
      FrontUnquoted place front rest
  | inName {before inside others after newBefore : List Char} {opener closer : Char} :
      placeBehind place rest front = .name closer →
      front = before ++ opener :: inside → rest = others ++ closer :: after →
      IsQuotedName (opener :: (inside ++ others ++ [closer])) (inside ++ others) →
      Edited IsQuotedName before newBefore →
      unquoteFrom place (front ++ rest) =
        newBefore ++ (inside ++ others ++ unquoteFrom .plain after) →
      FrontUnquoted place front rest

section

variable {place : Place} {c opener closer : Char} {front rest name : List Char}

theorem placeBehind_name_append (closed : closer ∉ name) (front : List Char) :
    placeBehind (.name closer) rest (name ++ front) = placeBehind (.name closer) rest front := by
  induction name with
  | nil => rfl
  | cons d name inductionHypothesis =>
      obtain ⟨other, tail⟩ : closer ≠ d ∧ closer ∉ name := by simpa using closed
      rw [List.cons_append, placeBehind, placeAfter, if_neg other.symm, inductionHypothesis tail]

theorem placeAfter_of_onLine
    (opens : nameCloser? opener = some closer)
    (closes : onLine closer rest = true) :
    placeAfter .plain opener rest = .name closer := by
  obtain ⟨noLiteral, noDash, -, -⟩ := ne_of_nameCloser? opens
  simp [placeAfter, noLiteral, noDash, opens, closes]

/-- A character that is kept belongs to the edited front, or it is in front of the name. -/
theorem FrontUnquoted.keep
    (kept : isRemoved place c (front ++ rest) = false)
    (unquoted : FrontUnquoted (placeAfter place c (front ++ rest)) front rest) :
    FrontUnquoted place (c :: front) rest := by
  have step (result : List Char)
      (later : unquoteFrom (placeAfter place c (front ++ rest)) (front ++ rest) = result) :
      unquoteFrom place (c :: front ++ rest) = c :: result := by
    rw [List.cons_append, unquoteFrom_cons, kept, later]
    rfl
  cases unquoted with
  | apart noName edited result => exact .apart noName (edited.keep c) (step _ result)
  | inName behind isFront isRest quoted edited result =>
      refine .inName behind ?_ isRest quoted (edited.keep c) (step _ result)
      rw [isFront, List.cons_append]

/-- A quoted name belongs to the edited front, or it is in front of the next one. -/
theorem FrontUnquoted.replace
    (opens : nameCloser? opener = some closer)
    (closed : closer ∉ name)
    (oneLine : '\n' ∉ name)
    (unquoted : FrontUnquoted .plain front rest) :
    FrontUnquoted .plain (opener :: (name ++ closer :: front)) rest := by
  have quoted : IsQuotedName (opener :: (name ++ [closer])) name :=
    ⟨opener, closer, opens, rfl, closed, oneLine⟩
  have split (text : List Char) :
      opener :: (name ++ closer :: text) = opener :: (name ++ [closer]) ++ text := by
    simp
  have step (result : List Char) (later : unquoteFrom .plain (front ++ rest) = result) :
      unquoteFrom .plain (opener :: (name ++ closer :: front) ++ rest) = name ++ result := by
    rw [List.cons_append, List.append_assoc, List.cons_append,
      unquoteFrom_quoted_append opens closed oneLine, later]
  have behindName : placeBehind .plain rest (opener :: (name ++ closer :: front)) =
      placeBehind .plain rest front := by
    obtain ⟨-, -, -, noEnd⟩ := ne_of_nameCloser? opens
    have closes : onLine closer (name ++ closer :: front ++ rest) = true :=
      (onLine_eq_true_iff noEnd _).2 ⟨name, front ++ rest, by simp, closed, oneLine⟩
    rw [placeBehind, placeAfter_of_onLine opens closes, placeBehind_name_append closed, placeBehind,
      placeAfter, if_pos rfl]
  cases unquoted with
  | apart noName edited result =>
      rw [split]
      refine .apart ?_ (edited.replace quoted) ?_
      · rwa [← split, behindName]
      · rw [← split, step _ result, behindName, List.append_assoc]
  | inName behind isFront isRest next edited result =>
      refine .inName (behindName.trans behind) ?_ isRest next (edited.replace quoted) ?_
      · rw [isFront, split, List.append_assoc]
      · rw [step _ result, ← List.append_assoc]

/-- A name that is open at the end of the front is closed by the rest of the text. -/
theorem FrontUnquoted.leaveOpen
    (opens : nameCloser? opener = some closer)
    {others after : List Char}
    (isRest : rest = others ++ closer :: after)
    (closed : closer ∉ front ++ others)
    (oneLine : '\n' ∉ front ++ others) :
    FrontUnquoted .plain (opener :: front) rest := by
  obtain ⟨-, -, -, noEnd⟩ := ne_of_nameCloser? opens
  have whole : front ++ rest = front ++ others ++ closer :: after := by
    rw [isRest, List.append_assoc]
  have closes : onLine closer (front ++ rest) = true :=
    (onLine_eq_true_iff noEnd _).2 ⟨front ++ others, after, whole, closed, oneLine⟩
  have noCloser : closer ∉ front := fun member => closed (List.mem_append_left _ member)
  have isFront : opener :: front = [] ++ opener :: front := rfl
  refine .inName ?_ isFront isRest ⟨opener, closer, opens, rfl, closed, oneLine⟩ .nil ?_
  · have behind : placeBehind (.name closer) rest (front ++ []) = .name closer :=
      placeBehind_name_append noCloser []
    rw [List.append_nil] at behind
    rw [placeBehind, placeAfter_of_onLine opens closes, behind]
  · rw [List.cons_append, whole, unquoteFrom_quoted_append opens closed oneLine, List.nil_append]

end

/-- Every front of a text in which no name is open is read like this. -/
theorem frontUnquoted
    {place : Place}
    (noName : ∀ closer, place ≠ .name closer)
    (front rest : List Char) :
    FrontUnquoted place front rest := by
  -- The recursion goes on behind the name, which is not the tail of the text.
  induction size : front.length using Nat.strong_induction_on generalizing place front with
  | _ size inductionHypothesis =>
    subst size
    cases front with
    | nil => exact .apart noName .nil rfl
    | cons c front =>
        cases removed : isRemoved place c (front ++ rest) with
        | false =>
            exact .keep removed (inductionHypothesis _ (Nat.lt_succ_self _)
              (placeAfter_ne_name noName removed) front rfl)
        | true =>
            obtain ⟨rfl, closer, opens, closes⟩ := opens_of_isRemoved noName removed
            obtain ⟨-, -, -, noEnd⟩ := ne_of_nameCloser? opens
            obtain ⟨name, behind, split, closed, oneLine⟩ := (onLine_eq_true_iff noEnd _).1 closes
            rcases List.append_eq_append_iff.1 split with
              ⟨others, rfl, isRest⟩ | ⟨others, rfl, isName⟩
            · exact .leaveOpen opens isRest closed oneLine
            · cases others with
              | nil =>
                  have isRest : rest = [] ++ closer :: behind := isName.symm
                  rw [List.append_nil]
                  apply FrontUnquoted.leaveOpen opens isRest
                  · rwa [List.append_nil]
                  · rwa [List.append_nil]
              | cons d front =>
                  obtain ⟨rfl, -⟩ := List.cons.inj isName
                  apply FrontUnquoted.replace opens closed oneLine
                  exact inductionHypothesis front.length (by simp; omega) noName front rfl

/-- A text in which no name is open is edited by replacing quoted names. -/
theorem edited_unquoteFrom
    {place : Place}
    (noName : ∀ closer, place ≠ .name closer)
    (text : List Char) :
    Edited IsQuotedName text (unquoteFrom place text) := by
  cases frontUnquoted noName text [] with
  | apart _ edited result =>
      rw [unquoteFrom_nil, List.append_nil, List.append_nil] at result
      rwa [result]
  | inName _ _ isRest => simp at isRest

/-! ## The whole text -/

/-- The characters that delimit quoted names. -/
def nameMarks : List Char :=
  ['\x60', '[', ']', '"']

theorem mem_nameMarks_of_nameCloser?
    {opener closer : Char}
    (opens : nameCloser? opener = some closer) :
    opener ∈ nameMarks ∧ closer ∈ nameMarks := by
  unfold nameCloser? at opens
  split at opens <;> first | cases opens; decide | cases opens

/-- A character stays: what stands in front of it and behind it is edited, or what stands around a
quoted name that it is in. -/
inductive Stays (front : List Char) (c : Char) (back result : List Char) : Prop
  | apart {newFront newBack : List Char} :
      Edited IsQuotedName front newFront → Edited IsQuotedName back newBack →
      result = newFront ++ c :: newBack → Stays front c back result
  | inName {before inside others after newBefore newAfter : List Char} {opener closer : Char} :
      front = before ++ opener :: inside → back = others ++ closer :: after →
      IsQuotedName (opener :: (inside ++ c :: others ++ [closer])) (inside ++ c :: others) →
      Edited IsQuotedName before newBefore → Edited IsQuotedName after newAfter →
      result = newBefore ++ (inside ++ c :: others ++ newAfter) → Stays front c back result

/-- Only pairs of delimiters are missing in a text. -/
structure PairsRemoved (text result : List Char) : Prop where
  /-- Quoted names are replaced by what is between their delimiters. -/
  edited : Edited IsQuotedName text result
  /-- Other characters stay. -/
  others : (result.filter fun c => !nameMarks.contains c) =
    text.filter fun c => !nameMarks.contains c
  /-- Lines stay. -/
  lines : result.count '\n' = text.count '\n'
  /-- A delimiter stays that has no closing one on its line, unless it closes a name itself. -/
  unpaired {front back : List Char} {opener closer : Char} :
    nameCloser? opener = some closer → text = front ++ opener :: back →
    onLine closer back = false → placeBehind .plain (opener :: back) front ≠ .name opener →
    Stays front opener back result
  /-- A delimiter goes that has one, with the first of them, and what is between them stays. -/
  paired {front back : List Char} {opener closer : Char} :
    nameCloser? opener = some closer → text = front ++ opener :: back →
    onLine closer back = true → placeBehind .plain (opener :: back) front = .plain →
    ∃ name rest newFront newRest, back = name ++ closer :: rest ∧
      IsQuotedName (opener :: (name ++ [closer])) name ∧
      Edited IsQuotedName front newFront ∧ Edited IsQuotedName rest newRest ∧
      result = newFront ++ (name ++ newRest)

theorem IsQuotedName.filter_eq
    (old new : List Char)
    (quoted : IsQuotedName old new) :
    (new.filter fun c => !nameMarks.contains c) = old.filter fun c => !nameMarks.contains c := by
  obtain ⟨opener, closer, opens, rfl, -⟩ := quoted
  obtain ⟨opens, closes⟩ := mem_nameMarks_of_nameCloser? opens
  simp [opens, closes]

/-- A delimiter that is not closed on its line stays. -/
theorem stays_of_not_onLine
    {front back : List Char}
    {opener closer : Char}
    (opens : nameCloser? opener = some closer)
    (unclosed : onLine closer back = false)
    (noCloser : placeBehind .plain (opener :: back) front ≠ .name opener) :
    Stays front opener back (unquoteFrom .plain (front ++ opener :: back)) := by
  have plain : ∀ closer, Place.plain ≠ .name closer := by simp
  cases frontUnquoted plain front (opener :: back) with
  | apart noName edited result =>
      have kept : isRemoved (placeBehind .plain (opener :: back) front) opener back = false := by
        cases place : placeBehind .plain (opener :: back) front with
        | literal | comment => rfl
        | name other => exact absurd place (noName other)
        | plain => simpa [isRemoved, opens] using unclosed
      rw [unquoteFrom_cons, kept] at result
      exact .apart edited (edited_unquoteFrom (placeAfter_ne_name noName kept) back) result
  | @inName before inside others after newBefore outer outerCloser place isFront isRest quoted
      edited result =>
      cases others with
      | nil =>
          obtain ⟨rfl, -⟩ := List.cons.inj isRest
          exact absurd place noCloser
      | cons d others =>
          obtain ⟨rfl, isBack⟩ := List.cons.inj isRest
          exact .inName isFront isBack quoted edited (edited_unquoteFrom plain after) result

/-- Removing the delimiters of quoted names takes nothing else away. -/
theorem withoutNameQuotes_removes_pairs (text : String) :
    PairsRemoved text.toList (withoutNameQuotes text).toList := by
  rw [withoutNameQuotes, String.toList_ofList]
  generalize text.toList = text
  have noName : ∀ closer, Place.plain ≠ .name closer := by simp
  have edited : Edited IsQuotedName text (unquoteFrom .plain text) := edited_unquoteFrom noName text
  have others := edited.filter_eq IsQuotedName.filter_eq
  refine ⟨edited, others, ?lines, ?unpaired, ?paired⟩
  case lines =>
    have same := congrArg (List.count '\n') others
    rwa [List.count_filter (by decide), List.count_filter (by decide)] at same
  case unpaired =>
    rintro front back opener closer opens rfl unclosed noCloser
    exact stays_of_not_onLine opens unclosed noCloser
  case paired =>
    rintro front back opener closer opens rfl closes place
    obtain ⟨-, -, -, noEnd⟩ := ne_of_nameCloser? opens
    obtain ⟨name, rest, rfl, closed, oneLine⟩ := (onLine_eq_true_iff noEnd back).1 closes
    cases frontUnquoted noName front (opener :: (name ++ closer :: rest)) with
    | apart _ editedFront result =>
        rw [place, unquoteFrom_quoted_append opens closed oneLine] at result
        exact ⟨name, rest, _, _, rfl, ⟨opener, closer, opens, rfl, closed, oneLine⟩, editedFront,
          edited_unquoteFrom noName rest, result⟩
    | inName inName =>
        rw [place] at inName
        cases inName

end Normalize
end SqlLineage
