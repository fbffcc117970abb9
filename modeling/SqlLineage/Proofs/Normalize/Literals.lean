import SqlLineage.Proofs.Normalize.Unquoting
import SqlLineage.Proofs.Scan.Literals

/-!
# String literals and quoted names

Where delimiters of quoted names are taken away, what was between them is scanned as it stands there.
A text keeps its string literals if this means nothing: if plain tokens come out of each quoted name,
none of them joins what stands around it to a comment, and a comment stays a comment from which no
literal and no name reaches out.
-/

namespace SqlLineage
namespace Normalize

open Scan

/-! ## Texts that are copied -/

/-- Whether no literal, no name and no comment begins in a text. -/
def IsInert : List Char → Prop
  | [] => True
  | c :: text => BeginsNothing c text ∧ IsInert text

instance decidableIsInert : DecidablePred IsInert
  | [] => inferInstanceAs (Decidable True)
  | c :: text =>
    have : Decidable (IsInert text) := decidableIsInert text
    inferInstanceAs (Decidable (BeginsNothing c text ∧ IsInert text))

theorem IsInert.of_append
    {front rest : List Char}
    (inert : IsInert (front ++ rest)) :
    IsInert rest := by
  induction front with
  | nil => exact inert
  | cons c front inductionHypothesis => exact inductionHypothesis inert.2

theorem beginsNothing_of_isPlain
    {c : Char}
    {cs : List Char}
    (plain : (Scan.measure c cs).1.isPlain = true) :
    BeginsNothing c cs := by
  obtain ⟨undelimited, noComment, -⟩ := isPlain_measure_iff.1 plain
  simp only [List.mem_cons, List.not_mem_nil, or_false, not_or] at undelimited
  obtain ⟨noLiteral, noQuote, noBacktick, noBracket⟩ := undelimited
  exact ⟨noLiteral, nameCloser?_eq_none (by simp [noQuote, noBacktick, noBracket]), noComment⟩

theorem beginsNothing_of_isBlank
    {c : Char}
    (blank : Text.isBlank c = true)
    (rest : List Char) :
    BeginsNothing c rest := by
  have differs {d : Char} (visible : Text.isBlank d = false) : c ≠ d :=
    Text.ne_of_isBlank blank visible
  refine ⟨differs (by decide), nameCloser?_eq_none ?_, fun dashes => differs (by decide) dashes.1⟩
  intro opener
  simp only [List.mem_cons, List.not_mem_nil, or_false] at opener
  rcases opener with rfl | rfl | rfl <;> cases blank

theorem unquoteFrom_append_of_continuesPlain
    {more : List Char}
    (continues : ∀ c ∈ more, continuesPlain c = true)
    (rest : List Char) :
    unquoteFrom .plain (more ++ rest) = more ++ unquoteFrom .plain rest := by
  induction more with
  | nil => rfl
  | cons c more inductionHypothesis =>
      obtain ⟨head, tail⟩ := List.forall_mem_cons.1 continues
      have plain := isPlain_of_continuesPlain head (more ++ rest)
      rw [List.cons_append, unquoteFrom_cons_of_beginsNothing (beginsNothing_of_isPlain plain),
        inductionHypothesis tail, List.cons_append]

theorem isInert_append_of_continuesPlain
    {more rest : List Char}
    (continues : ∀ c ∈ more, continuesPlain c = true)
    (inert : IsInert rest) :
    IsInert (more ++ rest) := by
  induction more with
  | nil => exact inert
  | cons c more inductionHypothesis =>
      obtain ⟨head, tail⟩ := List.forall_mem_cons.1 continues
      have plain := isPlain_of_continuesPlain head (more ++ rest)
      exact ⟨beginsNothing_of_isPlain plain, inductionHypothesis tail⟩

/-- Nothing begins in a text of plain tokens. -/
theorem isInert_of_isPlain
    {offset : Nat}
    {text : List Char}
    (plain : ∀ token ∈ tokensFrom offset text, token.kind.isPlain = true) :
    IsInert text := by
  induction text using tokens_induction generalizing offset with
  | nil => trivial
  | blank c cs blank inductionHypothesis =>
      rw [tokensFrom_of_isBlank blank] at plain
      exact ⟨beginsNothing_of_isBlank blank cs, inductionHypothesis plain⟩
  | token c more rest visible ends inductionHypothesis =>
      rw [tokensFrom_cons_append visible ends] at plain
      obtain ⟨head, tail⟩ := List.forall_mem_cons.1 plain
      have head : (Scan.measure c (more ++ rest)).1.isPlain = true := head
      have inToken (d : Char) (member : d ∈ more) : continuesPlain d = true :=
        continuesPlain_of_measure head (by rwa [ends, List.take_left])
      exact ⟨beginsNothing_of_isPlain head,
        isInert_append_of_continuesPlain inToken (inductionHypothesis tail)⟩

/-- If nothing begins in what is left of a text, nothing but a quoted name can begin the text. -/
theorem exists_quoted_of_isInert
    {c : Char}
    {text : List Char}
    (inert : IsInert (unquoteFrom .plain (c :: text)))
    (begins : ¬BeginsNothing c text) :
    ∃ closer name rest, nameCloser? c = some closer ∧ text = name ++ closer :: rest ∧
      closer ∉ name ∧ '\n' ∉ name := by
  -- A character that is kept begins nothing in the result.
  have kept {rest : List Char} (isKept : unquoteFrom .plain (c :: text) = c :: rest) :
      BeginsNothing c rest := by
    rw [isKept] at inert
    exact inert.1
  by_cases literal : c = '\''
  · subst literal
    exact absurd rfl (kept (unquoteFrom.eq_def _ _)).1
  by_cases comment : c = '-' ∧ text.head? = some '-'
  · obtain ⟨rfl, next⟩ := comment
    cases text with
    | nil => cases next
    | cons d text =>
        obtain rfl : d = '-' := by simpa using next
        have dashes : unquoteFrom .plain ('-' :: '-' :: text) =
            '-' :: '-' :: unquoteFrom .comment text := by
          rw [unquoteFrom, if_neg (by decide), if_pos ⟨rfl, rfl⟩, unquoteFrom]
          rfl
        exact absurd ⟨rfl, rfl⟩ (kept dashes).2.2
  cases opens : nameCloser? c with
  | none => exact absurd ⟨literal, opens, comment⟩ begins
  | some closer =>
      obtain ⟨-, -, -, noEnd⟩ := ne_of_nameCloser? opens
      cases closes : onLine closer text with
      | true =>
          obtain ⟨name, rest, split, closed, oneLine⟩ := (onLine_eq_true_iff noEnd text).1 closes
          exact ⟨closer, name, rest, rfl, split, closed, oneLine⟩
      | false =>
          have open_ : unquoteFrom .plain (c :: text) = c :: unquoteFrom .plain text := by
            rw [unquoteFrom, if_neg literal, if_neg comment]
            simp only [opens]
            rw [if_neg (by simp [closes])]
          have noName := (kept open_).2.1
          rw [opens] at noName
          cases noName

/-- If nothing begins in what is left of a text, the text behind it is read as if it were alone. -/
theorem unquoteFrom_append_of_isInert
    {text rest : List Char}
    (inert : IsInert (unquoteFrom .plain text))
    (apart : (unquoteFrom .plain text).getLast? = some '-' → rest.head? ≠ some '-') :
    unquoteFrom .plain (text ++ rest) = unquoteFrom .plain text ++ unquoteFrom .plain rest := by
  -- The recursion goes on behind a quoted name.
  induction size : text.length using Nat.strong_induction_on generalizing text with
  | _ size inductionHypothesis =>
    subst size
    cases text with
    | nil => rfl
    | cons c text =>
        by_cases nothing : BeginsNothing c text
        · rw [unquoteFrom_cons_of_beginsNothing nothing] at inert apart ⊢
          obtain ⟨-, inertTail⟩ := inert
          have apartTail (last : (unquoteFrom .plain text).getLast? = some '-') :
              rest.head? ≠ some '-' := by
            apply apart
            rw [List.getLast?_cons, last]
            rfl
          have nothingBehind : BeginsNothing c (text ++ rest) := by
            obtain ⟨noLiteral, noName, noComment⟩ := nothing
            refine ⟨noLiteral, noName, ?_⟩
            cases text with
            | cons d text => exact noComment
            | nil =>
                rintro ⟨rfl, next⟩
                exact apart rfl next
          rw [List.cons_append, unquoteFrom_cons_of_beginsNothing nothingBehind,
            inductionHypothesis _ (Nat.lt_succ_self _) inertTail apartTail rfl, List.cons_append]
        · obtain ⟨closer, name, behind, opens, rfl, closed, oneLine⟩ :=
            exists_quoted_of_isInert inert nothing
          have whole := unquoteFrom_quoted_append opens closed oneLine (behind ++ rest)
          rw [unquoteFrom_quoted_append opens closed oneLine] at inert apart ⊢
          have apartBehind (last : (unquoteFrom .plain behind).getLast? = some '-') :
              rest.head? ≠ some '-' := by
            apply apart
            rw [List.getLast?_append, last]
            rfl
          rw [List.cons_append, List.append_assoc, List.cons_append, whole,
            inductionHypothesis behind.length (by simp; omega) inert.of_append apartBehind rfl,
            List.append_assoc]

theorem unquoteFrom_eq_self_of_isInert
    {text : List Char}
    (inert : IsInert text) :
    unquoteFrom .plain text = text := by
  induction text with
  | nil => rfl
  | cons c text inductionHypothesis =>
      obtain ⟨nothing, tail⟩ := inert
      rw [unquoteFrom_cons_of_beginsNothing nothing, inductionHypothesis tail]

/-! ## Literals and comments -/

/-- A literal is copied up to the quote that closes it. -/
theorem unquoteFrom_literal (text : List Char) :
    unquoteFrom .literal text = text.take (delimitedLength '\'' text) ++
      unquoteFrom .plain (text.drop (delimitedLength '\'' text)) := by
  fun_induction delimitedLength '\'' text with
  | case1 => rfl
  | case2 c =>
      rw [unquoteFrom, unquoteFrom_nil]
      rfl
  | case3 rest inductionHypothesis =>
      -- A doubled quote closes the literal and opens it again.
      rw [unquoteFrom, if_pos rfl, unquoteFrom, if_pos rfl, inductionHypothesis]
      rfl
  | case4 d rest single =>
      rw [unquoteFrom, if_pos rfl]
      rfl
  | case5 c d rest other inductionHypothesis =>
      rw [unquoteFrom, if_neg other, inductionHypothesis]
      rfl

theorem unquoteFrom_comment_append
    {front : List Char}
    (oneLine : '\n' ∉ front)
    (rest : List Char) :
    unquoteFrom .comment (front ++ rest) = front ++ unquoteFrom .comment rest := by
  induction front with
  | nil => rfl
  | cons c front inductionHypothesis =>
      obtain ⟨noEnd, tail⟩ : '\n' ≠ c ∧ '\n' ∉ front := by simpa using oneLine
      rw [List.cons_append, unquoteFrom, if_neg noEnd.symm, inductionHypothesis tail,
        List.cons_append]

/-! ## Texts that begin alike -/

/-- Texts begin alike if the first character is the same, or one of them begins with the delimiter of
a name and the other one with a character that neither closes nor continues anything. -/
inductive BeginAlike : List Char → List Char → Prop
  | same {text other : List Char} : other.head? = text.head? → BeginAlike text other
  | unquoted {opener first : Char} {rest others : List Char} :
      (nameCloser? opener).isSome = true →
      first ∉ ['-', '*', '\'', '"', '\x60', ']'] →
      BeginAlike (opener :: rest) (first :: others)

section

variable {c : Char} {more rest other : List Char}

/-- The literals behind a token decide about those of the whole text if what is behind it begins
alike. -/
theorem BeginAlike.stringLiterals_eq
    (alike : BeginAlike rest other)
    (visible : Text.isBlank c = false)
    (ends : (Scan.measure c (more ++ rest)).2 = more.length)
    (literals : stringLiterals other = stringLiterals rest) :
    stringLiterals (c :: (more ++ other)) = stringLiterals (c :: (more ++ rest)) := by
  have unchanged (same : Scan.measure c (more ++ other) = Scan.measure c (more ++ rest)) :
      stringLiterals (c :: (more ++ other)) = stringLiterals (c :: (more ++ rest)) := by
    rw [stringLiterals_cons_append visible ends, stringLiterals_cons_append visible (same ▸ ends),
      same, literals]
  cases alike with
  | same heads =>
      apply unchanged
      cases rest with
      | nil =>
          obtain rfl : other = [] := by simpa using heads
          rfl
      | cons next rest =>
          obtain ⟨others, rfl⟩ : ∃ others, other = next :: others := by
            cases other with
            | nil => cases heads
            | cons d others => exact ⟨others, by rw [Option.some.inj heads]⟩
          exact measure_of_same_next ends others
  | @unquoted opener first rest others opens nothing =>
      obtain ⟨begins, closes⟩ : first ∉ ['-', '*'] ∧ first ∉ ['\'', '"', '\x60', ']'] := by
        simpa [and_assoc] using nothing
      cases plain : (Scan.measure c (more ++ opener :: rest)).1.isPlain with
      | true =>
          have inToken (d : Char) (member : d ∈ more) : continuesPlain d = true :=
            continuesPlain_of_measure plain (by rwa [ends, List.take_left])
          have plainOther : (Scan.measure c (more ++ first :: others)).1.isPlain = true :=
            isPlain_measure_of_next plain ends begins
          rw [stringLiterals_cons_of_isPlain plainOther, stringLiterals_cons_of_isPlain plain,
            stringLiterals_append_of_continuesPlain inToken,
            stringLiterals_append_of_continuesPlain inToken, literals]
      | false =>
          have sameLine : opener ≠ '\n' := by
            rintro rfl
            cases opens
          exact unchanged (measure_of_not_isPlain plain ends sameLine closes)

end

/-! ## Tokens without their quotes -/

/-- What may come into a text where a quoted name stood. -/
structure IsPlainText (text : List Char) : Prop where
  /-- It is not empty. -/
  nonempty : text ≠ []
  /-- A scan finds words, numbers and single characters in it, and nothing else. -/
  plain : ∀ token ∈ tokensFrom 0 text, token.kind.isPlain = true
  /-- It does not begin with a character that continues what stands in front of it. -/
  begins : (text.head?.all fun first => first ∉ ['-', '*', ']']) = true
  /-- It does not end in the first half of what begins a comment. -/
  ends : (text.getLast?.all fun last => last ∉ ['-', '/']) = true

instance : DecidablePred IsPlainText := fun text =>
  decidable_of_iff
    (text ≠ [] ∧ (∀ token ∈ tokensFrom 0 text, token.kind.isPlain = true) ∧
      (text.head?.all fun first => first ∉ ['-', '*', ']']) = true ∧
      (text.getLast?.all fun last => last ∉ ['-', '/']) = true)
    ⟨fun ⟨nonempty, plain, begins, ends⟩ => ⟨nonempty, plain, begins, ends⟩,
      fun ⟨nonempty, plain, begins, ends⟩ => ⟨nonempty, plain, begins, ends⟩⟩

theorem IsPlainText.ne_of_mem_getLast?
    {text : List Char}
    (plain : IsPlainText text) :
    ∀ last ∈ text.getLast?, last ≠ '-' ∧ last ≠ '/' := by
  intro last isLast
  have ends := plain.ends
  rw [isLast] at ends
  simpa using ends

/-- Whether a quoted name leaves the literals around it as they are: it is plain without its quotes,
or its opening delimiter stays, as it is not closed on its line, and nothing begins behind it. -/
def IsQuietName (name : List Char) : Prop :=
  IsPlainText (unquoteFrom .plain name) ∨
    ((name.head?.bind nameCloser?).any fun closer => !onLine closer name.tail) = true ∧
      IsInert name.tail

instance : DecidablePred IsQuietName := fun _ => inferInstanceAs (Decidable (_ ∨ _))

/-- Whether what begins in a comment ends in it. A line comment ends with its line, and nothing is
behind a block comment that is not closed. -/
def EndsInComment (kind : Kind) (comment : List Char) : Prop :=
  (kind = .lineComment → EndsInside .plain (comment ++ ['\n'])) ∧
    (kind = .blockComment → ['*', '/'] <:+ comment.drop 2 → EndsInside .plain comment)

instance (kind : Kind) (comment : List Char) : Decidable (EndsInComment kind comment) :=
  inferInstanceAs (Decidable (_ ∧ _))

/-- Whether a comment leaves the literals around it as they are: it begins with two hyphens, or it
is plain without its quotes, or it stays a comment and nothing reaches out of it. -/
def IsQuietComment (kind : Kind) (comment : List Char) : Prop :=
  comment.take 2 = ['-', '-'] ∨ IsPlainText (unquoteFrom .plain comment) ∨
    tokensFrom 0 (unquoteFrom .plain comment) =
        [⟨kind, String.ofList (unquoteFrom .plain comment), 0⟩] ∧
      EndsInComment kind comment

instance (kind : Kind) (comment : List Char) : Decidable (IsQuietComment kind comment) :=
  inferInstanceAs (Decidable (_ ∨ _ ∨ _))

/-- Whether a token leaves the literals around it as they are. -/
def IsQuiet (token : Token) : Prop :=
  (token.isComment = true → IsQuietComment token.kind token.literal.toList) ∧
    (token.kind = .quotedIdent → IsQuietName token.literal.toList)

instance : DecidablePred IsQuiet := fun _ => inferInstanceAs (Decidable (_ ∧ _))

theorem measure_of_nameCloser?
    {opener closer : Char}
    (opens : nameCloser? opener = some closer)
    (cs : List Char) :
    Scan.measure opener cs = (.quotedIdent, delimitedLength closer cs) := by
  unfold nameCloser? at opens
  split at opens <;> first | cases opens; rfl | cases opens

section

variable {c : Char} {more rest : List Char}

/-- A line comment that begins with two hyphens is copied. -/
theorem unquoteFrom_lineComment
    (dashes : (c :: more).take 2 = ['-', '-'])
    (ends : (Scan.measure c (more ++ rest)).2 = more.length) :
    unquoteFrom .plain (c :: (more ++ rest)) = c :: (more ++ unquoteFrom .plain rest) := by
  obtain ⟨rfl, second⟩ : c = '-' ∧ more.head? = some '-' := by
    cases more with
    | nil => simp at dashes
    | cons d more => simpa using dashes
  have next : (more ++ rest).head? = some '-' := by
    rw [List.head?_append, second]
    rfl
  have line : Scan.measure '-' (more ++ rest) = (.lineComment, lineLength (more ++ rest)) := by
    simp [Scan.measure, next]
  rw [line] at ends
  have length : runLength (· != '\n') (more ++ rest) = (more).length := ends
  have line : (more ++ rest).takeWhile (· != '\n') = more := by
    rw [List.prefix_iff_eq_take.1 (List.takeWhile_prefix _), ← runLength, length, List.take_left]
  have oneLine : '\n' ∉ more := by
    intro isEnd
    rw [← line] at isEnd
    simpa using List.mem_takeWhile_imp isEnd
  have begins : unquoteFrom .plain ('-' :: (more ++ rest)) =
      '-' :: unquoteFrom .comment (more ++ rest) := by
    rw [unquoteFrom, if_neg (by decide)]
    exact if_pos ⟨rfl, next⟩
  have behind : unquoteFrom .comment rest = unquoteFrom .plain rest := by
    cases rest with
    | nil => rw [unquoteFrom_nil, unquoteFrom_nil]
    | cons d rest =>
        obtain rfl : d = '\n' := by simpa using eq_false_of_runLength_eq length
        rw [unquoteFrom_cons_of_beginsNothing (beginsNothing_of_isBlank (by decide) rest),
          unquoteFrom, if_pos rfl]
  rw [begins, unquoteFrom_comment_append oneLine, behind]

/-- A quoted name that is not closed on its line is copied. -/
theorem unquoteFrom_leftOpen
    {closer : Char}
    (opens : nameCloser? c = some closer)
    (open_ : onLine closer more = false)
    (inert : IsInert more)
    (ends : (Scan.measure c (more ++ rest)).2 = more.length) :
    unquoteFrom .plain (c :: (more ++ rest)) = c :: (more ++ unquoteFrom .plain rest) := by
  obtain ⟨noLiteral, noDash, -, noEnd⟩ := ne_of_nameCloser? opens
  rw [measure_of_nameCloser? opens] at ends
  have ends : delimitedLength closer (more ++ rest) = more.length := ends
  -- A name that is closed ends in its delimiter.
  have last (d : Char) (next : rest.head? = some d) : ∃ inner, more = inner ++ [closer] := by
    have closes : delimitedLength closer (more ++ rest) < (more ++ rest).length := by
      have nonempty : rest ≠ [] := by
        rintro rfl
        cases next
      have positive := List.length_pos_iff.2 nonempty
      rw [ends, List.length_append]
      omega
    obtain ⟨inner, taken⟩ := exists_closer_of_delimitedLength_lt closes
    rw [ends, List.take_left] at taken
    exact ⟨inner, taken⟩
  have stays : onLine closer (more ++ rest) = false := by
    rw [Bool.eq_false_iff, Ne, onLine_eq_true_iff noEnd]
    rintro ⟨name, behind, split, closed, oneLine⟩
    rcases List.append_eq_append_iff.1 split with ⟨others, rfl, isRest⟩ | ⟨others, rfl, isName⟩
    · -- The delimiter stands behind the token, and so the token is closed in front of it.
      obtain ⟨d, next⟩ : ∃ d, rest.head? = some d := by
        rw [isRest]
        cases others <;> exact ⟨_, rfl⟩
      obtain ⟨inner, rfl⟩ := last d next
      exact closed (List.mem_append_left _ (List.mem_append_right _ List.mem_cons_self))
    · cases others with
      | nil =>
          obtain ⟨inner, whole⟩ := last closer (by simpa using congrArg List.head? isName.symm)
          rw [List.append_nil] at whole
          exact absurd (whole ▸ List.mem_append_right inner List.mem_cons_self) closed
      | cons d others =>
          obtain ⟨rfl, -⟩ := List.cons.inj isName
          have found : onLine closer (name ++ closer :: others) = true :=
            (onLine_eq_true_iff noEnd _).2 ⟨name, others, rfl, closed, oneLine⟩
          rw [found] at open_
          cases open_
  have apart (hyphen : more.getLast? = some '-') : rest.head? ≠ some '-' := by
    intro next
    obtain ⟨inner, rfl⟩ := last _ next
    obtain rfl : closer = '-' := by simpa using hyphen
    unfold nameCloser? at opens
    split at opens <;> cases opens
  have step : unquoteFrom .plain (c :: (more ++ rest)) = c :: unquoteFrom .plain (more ++ rest) := by
    rw [unquoteFrom]
    simp only [opens]
    rw [if_neg noLiteral, if_neg (fun comment => noDash comment.1), if_neg (by simp [stays])]
  have same := unquoteFrom_eq_self_of_isInert inert
  have split := unquoteFrom_append_of_isInert (by rwa [same]) (by rwa [same])
  rw [step, split, same]

/-- A line comment that stays one is read alone. -/
theorem unquoteFrom_lineComment_append
    (line : (Scan.measure c (more ++ rest)).1 = .lineComment)
    (ends : (Scan.measure c (more ++ rest)).2 = more.length)
    (inside : EndsInside .plain (c :: more ++ ['\n']))
    {left : List Char}
    (kept : unquoteFrom .plain (c :: more) = c :: left)
    (whole : Scan.measure c left = (.lineComment, left.length)) :
    unquoteFrom .plain (c :: (more ++ rest)) = c :: (left ++ unquoteFrom .plain rest) ∧
      Scan.measure c (left ++ unquoteFrom .plain rest) = (.lineComment, left.length) := by
  cases rest with
  | nil =>
      rw [unquoteFrom_nil, List.append_nil, List.append_nil]
      exact ⟨kept, whole⟩
  | cons next rest =>
      rw [measure_of_lineComment line] at ends
      obtain rfl : next = '\n' := by simpa using eq_false_of_runLength_eq ends
      have apart : (c :: more ++ ['\n']).getLast? = some '-' → rest.head? ≠ some '-' := by
        rw [List.getLast?_concat]
        simp
      have split := unquoteFrom_append_of_endsInside inside apart
      rw [unquoteFrom_append_newline (by simp), kept] at split
      rw [unquoteFrom_cons_of_beginsNothing (beginsNothing_of_isBlank (by decide) rest)]
      exact ⟨by simpa using split, measure_append_newline_of_lineComment whole _⟩

/-- What closes a block comment stays where it is. -/
theorem exists_unquoteFrom_closed (inner : List Char) :
    ∃ left, unquoteFrom .plain (inner ++ ['*', '/']) = left ++ ['*', '/'] := by
  have outside : ∀ closer, Place.plain ≠ .name closer := by simp
  cases frontUnquoted outside inner ['*', '/'] with
  | @apart left noName _ result =>
      have closes : unquoteFrom (placeBehind .plain ['*', '/'] inner) ['*', '/'] = ['*', '/'] := by
        cases place : placeBehind .plain ['*', '/'] inner with
        | name closer => exact absurd place (noName closer)
        | plain | literal | comment => decide
      rw [closes] at result
      exact ⟨left, result⟩
  | @inName before inside others after newBefore opener closer _ _ isRest quoted _ _ =>
      obtain ⟨otherOpener, otherCloser, opens, old, -⟩ := quoted
      obtain ⟨-, rfl⟩ : opener = otherOpener ∧ closer = otherCloser := by simpa using old
      have member : closer ∈ ['*', '/'] := by
        rw [isRest]
        exact List.mem_append_right others List.mem_cons_self
      obtain ⟨-, isMark⟩ := mem_nameMarks_of_nameCloser? opens
      simp only [List.mem_cons, List.not_mem_nil, or_false] at member
      rcases member with rfl | rfl <;> exact absurd isMark (by decide)

/-- A block comment that stays one is read alone. -/
theorem unquoteFrom_blockComment_append
    (block : (Scan.measure c (more ++ rest)).1 = .blockComment)
    (ends : (Scan.measure c (more ++ rest)).2 = more.length)
    (inside : ['*', '/'] <:+ (c :: more).drop 2 → EndsInside .plain (c :: more))
    {left : List Char}
    (kept : unquoteFrom .plain (c :: more) = c :: left)
    (whole : Scan.measure c left = (.blockComment, left.length)) :
    unquoteFrom .plain (c :: (more ++ rest)) = c :: (left ++ unquoteFrom .plain rest) ∧
      Scan.measure c (left ++ unquoteFrom .plain rest) = (.blockComment, left.length) := by
  cases rest with
  | nil =>
      rw [unquoteFrom_nil, List.append_nil, List.append_nil]
      exact ⟨kept, whole⟩
  | cons next rest =>
      obtain ⟨inner, rfl, rfl⟩ := exists_inner_of_blockComment block ends
      have apart (hyphen : ('/' :: '*' :: (inner ++ ['*', '/'])).getLast? = some '-') :
          (next :: rest).head? ≠ some '-' := by
        simp [List.getLast?_cons, List.getLast?_append] at hyphen
      have split := unquoteFrom_append_of_endsInside
        (inside (List.suffix_append inner ['*', '/'])) apart
      rw [kept] at split
      refine ⟨by simpa using split, ?_⟩
      -- What is left of it begins and ends like the comment.
      obtain ⟨leftInner, closed⟩ := exists_unquoteFrom_closed inner
      have opening : ∀ c ∈ ['/', '*'], c ∉ delimiters ∧ c ≠ '-' := by simp [delimiters]
      have begins := unquoteFrom_plain_append opening (inner ++ ['*', '/'])
      rw [closed] at begins
      obtain rfl : left = '*' :: (leftInner ++ ['*', '/']) :=
        (List.cons.inj (kept.symm.trans begins)).2
      exact measure_append_of_blockComment (by rw [whole]) _

theorem nameCloser?_eq_none_of_comment
    {cs : List Char}
    (comment : (Scan.measure c cs).1 = .lineComment ∨ (Scan.measure c cs).1 = .blockComment) :
    nameCloser? c = none := by
  cases opens : nameCloser? c with
  | none => rfl
  | some closer =>
      rw [measure_of_nameCloser? opens] at comment
      rcases comment with kind | kind <;> cases kind

/-- A text begins like what comes out of it if a plain text comes out in front. -/
theorem beginAlike_of_isPlainText
    {cs new other : List Char}
    (unquoted : unquoteFrom .plain (c :: cs) = new ++ other)
    (plain : IsPlainText new) :
    BeginAlike (c :: cs) (new ++ other) := by
  cases opens : nameCloser? c with
  | none =>
      rw [← unquoted, unquoteFrom_cons_of_no_closer opens]
      exact .same rfl
  | some closer =>
      obtain ⟨first, others, rfl⟩ := List.exists_cons_of_ne_nil plain.nonempty
      obtain ⟨⟨noLiteral, noName, -⟩, -⟩ := isInert_of_isPlain plain.plain
      have begins : first ∉ ['-', '*', ']'] := by simpa using plain.begins
      have noQuote : first ≠ '"' ∧ first ≠ '\x60' := by
        constructor <;> rintro rfl <;> cases noName
      rw [List.cons_append]
      apply BeginAlike.unquoted
      · rw [opens]
        rfl
      · simp_all

/-- A token that becomes plain does not matter to the literals behind it. -/
theorem unquoted_of_isPlainText
    (plain : IsPlainText (unquoteFrom .plain (c :: more)))
    (rest : List Char) :
    BeginAlike (c :: (more ++ rest)) (unquoteFrom .plain (c :: (more ++ rest))) ∧
      stringLiterals (unquoteFrom .plain (c :: (more ++ rest))) =
        stringLiterals (unquoteFrom .plain rest) := by
  have apart (hyphen : (unquoteFrom .plain (c :: more)).getLast? = some '-') :
      rest.head? ≠ some '-' :=
    absurd rfl (plain.ne_of_mem_getLast? _ hyphen).1
  have unquoted := unquoteFrom_append_of_isInert (isInert_of_isPlain plain.plain) apart
  rw [List.cons_append] at unquoted
  have alike := beginAlike_of_isPlainText unquoted plain
  rw [unquoted]
  exact ⟨alike, stringLiterals_append_of_isPlain plain.plain plain.ne_of_mem_getLast? _⟩

/-- A comment that stays one does not matter to the literals behind it. -/
theorem unquoted_of_comment
    (visible : Text.isBlank c = false)
    (comment : (Scan.measure c (more ++ rest)).1 = .lineComment ∨
      (Scan.measure c (more ++ rest)).1 = .blockComment)
    (ends : (Scan.measure c (more ++ rest)).2 = more.length)
    (stays : tokensFrom 0 (unquoteFrom .plain (c :: more)) =
      [⟨(Scan.measure c (more ++ rest)).1, String.ofList (unquoteFrom .plain (c :: more)), 0⟩])
    (inside : EndsInComment (Scan.measure c (more ++ rest)).1 (c :: more)) :
    BeginAlike (c :: (more ++ rest)) (unquoteFrom .plain (c :: (more ++ rest))) ∧
      stringLiterals (unquoteFrom .plain (c :: (more ++ rest))) =
        stringLiterals (unquoteFrom .plain rest) := by
  obtain ⟨left, kept⟩ : ∃ left, unquoteFrom .plain (c :: more) = c :: left :=
    ⟨_, unquoteFrom_cons_of_no_closer (nameCloser?_eq_none_of_comment comment) more⟩
  rw [kept] at stays
  have whole := measure_of_tokensFrom_eq_singleton visible stays
  obtain ⟨unquoted, taken⟩ :
      unquoteFrom .plain (c :: (more ++ rest)) = c :: (left ++ unquoteFrom .plain rest) ∧
        Scan.measure c (left ++ unquoteFrom .plain rest) =
          ((Scan.measure c (more ++ rest)).1, left.length) := by
    rcases comment with line | block
    · rw [line] at whole ⊢
      exact unquoteFrom_lineComment_append line ends (inside.1 line) kept whole
    · rw [block] at whole ⊢
      exact unquoteFrom_blockComment_append block ends (inside.2 block) kept whole
  rw [unquoted]
  refine ⟨.same rfl, ?_⟩
  rw [stringLiterals_cons_append visible (by rw [taken]), taken, if_neg, List.nil_append]
  rcases comment with kind | kind <;> rw [kind] <;> decide

/-- The first token of a text is copied, or what comes out of it does not matter to the literals
behind it. -/
theorem unquoted_cases
    (visible : Text.isBlank c = false)
    (ends : (Scan.measure c (more ++ rest)).2 = more.length)
    {offset : Nat}
    (quiet : IsQuiet ⟨(Scan.measure c (more ++ rest)).1, String.ofList (c :: more), offset⟩) :
    unquoteFrom .plain (c :: (more ++ rest)) = c :: (more ++ unquoteFrom .plain rest) ∨
      (Scan.measure c (more ++ rest)).1 ≠ .stringLiteral ∧
        BeginAlike (c :: (more ++ rest)) (unquoteFrom .plain (c :: (more ++ rest))) ∧
        stringLiterals (unquoteFrom .plain (c :: (more ++ rest))) =
          stringLiterals (unquoteFrom .plain rest) := by
  obtain ⟨quietComment, quietName⟩ := quiet
  simp only [String.toList_ofList] at quietComment quietName
  by_cases comment : (Scan.measure c (more ++ rest)).1 = .lineComment ∨
      (Scan.measure c (more ++ rest)).1 = .blockComment
  · have noLiteral : (Scan.measure c (more ++ rest)).1 ≠ .stringLiteral := by
      rcases comment with kind | kind <;> rw [kind] <;> decide
    rcases quietComment (by rcases comment with kind | kind <;> rw [kind] <;> rfl) with
      dashes | plain | ⟨stays, inside⟩
    · exact .inl (unquoteFrom_lineComment dashes ends)
    · exact .inr ⟨noLiteral, unquoted_of_isPlainText plain rest⟩
    · exact .inr ⟨noLiteral, unquoted_of_comment visible comment ends stays inside⟩
  rcases measure_cases c (more ++ rest) with plain | rfl | opens | line | ⟨rfl, star⟩
  · have inToken (d : Char) (member : d ∈ more) : continuesPlain d = true :=
      continuesPlain_of_measure plain (by rwa [ends, List.take_left])
    left
    rw [unquoteFrom_cons_of_beginsNothing (beginsNothing_of_isPlain plain),
      unquoteFrom_append_of_continuesPlain inToken]
  · left
    have length : delimitedLength '\'' (more ++ rest) = more.length := ends
    have literal := unquoteFrom_literal (more ++ rest)
    rw [length, List.take_left, List.drop_left] at literal
    rw [unquoteFrom, if_pos rfl, literal]
  · obtain ⟨closer, opens⟩ : ∃ closer, nameCloser? c = some closer := by
      simp only [List.mem_cons, List.not_mem_nil, or_false] at opens
      rcases opens with rfl | rfl | rfl <;> exact ⟨_, rfl⟩
    have kind : (Scan.measure c (more ++ rest)).1 = .quotedIdent := by
      rw [measure_of_nameCloser? opens]
    rcases quietName kind with plain | ⟨stays, inert⟩
    · exact .inr ⟨by rw [kind]; decide, unquoted_of_isPlainText plain rest⟩
    · have open_ : onLine closer more = false := by simpa [opens] using stays
      exact .inl (unquoteFrom_leftOpen opens open_ inert ends)
  · exact absurd (.inl (by rw [line])) comment
  · obtain ⟨others, behind⟩ := List.head?_eq_some_iff.1 star
    exact absurd (.inr (by rw [behind, measure_block])) comment

end

/-- A text without its quotes begins like the text. -/
theorem beginAlike_unquoteFrom
    {offset : Nat}
    {text : List Char}
    (quiet : ∀ token ∈ tokensFrom offset text, IsQuiet token) :
    BeginAlike text (unquoteFrom .plain text) := by
  induction text using tokens_induction with
  | nil => exact .same (by rw [unquoteFrom_nil])
  | blank c cs blank =>
      apply BeginAlike.same
      rw [unquoteFrom_cons_of_beginsNothing (beginsNothing_of_isBlank blank cs)]
      rfl
  | token c more rest visible ends =>
      rw [tokensFrom_cons_append visible ends] at quiet
      obtain ⟨head, -⟩ := List.forall_mem_cons.1 quiet
      rcases unquoted_cases visible ends head with copied | ⟨-, alike, -⟩
      · rw [copied]
        exact .same rfl
      · exact alike

/-! ## The literals of a text without its quotes -/

theorem stringLiterals_unquoteFrom
    {offset : Nat}
    {text : List Char}
    (quiet : ∀ token ∈ tokensFrom offset text, IsQuiet token) :
    stringLiterals (unquoteFrom .plain text) = stringLiterals text := by
  induction text using tokens_induction generalizing offset with
  | nil => rw [unquoteFrom_nil]
  | blank c cs blank inductionHypothesis =>
      rw [tokensFrom_of_isBlank blank] at quiet
      rw [unquoteFrom_cons_of_beginsNothing (beginsNothing_of_isBlank blank cs),
        stringLiterals_of_isBlank blank, stringLiterals_of_isBlank blank,
        inductionHypothesis quiet]
  | token c more rest visible ends inductionHypothesis =>
      rw [tokensFrom_cons_append visible ends] at quiet
      obtain ⟨head, tail⟩ := List.forall_mem_cons.1 quiet
      rcases unquoted_cases visible ends head with copied | ⟨noLiteral, -, literals⟩
      · rw [copied]
        exact (beginAlike_unquoteFrom tail).stringLiterals_eq visible ends
          (inductionHypothesis tail)
      · rw [literals, inductionHypothesis tail, stringLiterals_cons_append visible ends,
          if_neg noLiteral, List.nil_append]

/-- A text with quotes in literals, in comments and around names. -/
def quotedText : String :=
  "SELECT 'it''s [x]', [a b].\"#c\" -- don't [\n, /* [not] 'a' */ \x60t.u\x60 # [more\n" ++
    "FROM [wide\nname] WHERE x = '\"y'"

end Normalize
end SqlLineage
