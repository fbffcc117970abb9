import Mathlib.Data.List.TakeWhile
import Mathlib.Tactic.ByContra
import Mathlib.Tactic.SplitIfs
import SqlLineage.Proofs.Text.Blank
import SqlLineage.Scan.Lexer

/-!
# The first token of a text

A token is decided by its first character and at most one more, which then belongs to the token.
This is its shape; how far a token of a shape goes on does not depend on what stands behind its end.
So a text may be cut off behind its first token, and blanks at the end of a text at most lengthen a
token that runs to the end.
-/

namespace SqlLineage
namespace Scan

/-! ## Lengths -/

theorem runLength_front (p : Char → Bool) (front rest : List Char) :
    runLength p front = min front.length (runLength p (front ++ rest)) := by
  have bound := (List.takeWhile_prefix p (l := front)).length_le
  rw [runLength, runLength, List.takeWhile_append]
  split
  · rw [List.length_append]
    omega
  · omega

/-- What is in a run has its property. -/
theorem of_mem_take_runLength
    {p : Char → Bool}
    {c : Char}
    {cs : List Char}
    (member : c ∈ cs.take (runLength p cs)) :
    p c = true := by
  rw [runLength, ← List.prefix_iff_eq_take.1 (List.takeWhile_prefix p)] at member
  exact List.mem_takeWhile_imp member

theorem delimitedLength_front (closer : Char) (front rest : List Char) :
    delimitedLength closer front =
      min front.length (delimitedLength closer (front ++ rest)) := by
  fun_induction delimitedLength closer front with
  | case1 => simp
  | case2 c =>
      cases rest <;> simp [delimitedLength]
      split_ifs <;> omega
  | case3 | case4 | case5 => simp_all [delimitedLength]

/-- What does not go on to the end of a text ends in its closing delimiter. -/
theorem exists_closer_of_delimitedLength_lt
    {closer : Char}
    {cs : List Char}
    (closes : delimitedLength closer cs < cs.length) :
    ∃ inner, cs.take (delimitedLength closer cs) = inner ++ [closer] := by
  fun_induction delimitedLength closer cs with
  | case1 => simp at closes
  | case2 c => simp at closes
  | case3 cs inductionHypothesis =>
      obtain ⟨inner, taken⟩ := inductionHypothesis (by simpa using closes)
      exact ⟨closer :: closer :: inner, by simp [taken]⟩
  | case4 d cs single => exact ⟨[], rfl⟩
  | case5 c d cs other inductionHypothesis =>
      obtain ⟨inner, taken⟩ := inductionHypothesis (by simpa using closes)
      exact ⟨c :: inner, by rw [List.take_succ_cons, taken, List.cons_append]⟩

theorem commentLength_front (front rest : List Char) :
    commentLength front = min front.length (commentLength (front ++ rest)) := by
  fun_induction commentLength front with
  | case1 => simp
  | case2 c =>
      cases rest <;> simp [commentLength]
      split_ifs <;> omega
  | case3 => simp_all [commentLength]
  | case4 c d cs open_ inductionHypothesis =>
      simp only [List.cons_append, List.length_cons] at inductionHypothesis ⊢
      rw [commentLength, if_neg open_, inductionHypothesis]
      omega

/-! ## Shapes -/

/-- How a token goes on behind its first character. -/
inductive Shape
  /-- Up to a closing delimiter. -/
  | delimited (kind : Kind) (closer : Char)
  /-- To the end of the line. -/
  | line
  /-- To the end of a block comment. -/
  | block
  /-- While characters continue a word. -/
  | word
  /-- While characters continue a number. -/
  | number
  /-- Not at all. -/
  | single (kind : Kind)

namespace Shape

/-- The shape of a token that begins with `c`, if the next character does not matter. -/
def ofChar (c : Char) : Shape :=
  if c = '\'' then delimited .stringLiteral '\''
  else if c = '"' then delimited .quotedIdent '"'
  else if c = '\x60' then delimited .quotedIdent '\x60'
  else if c = '[' then delimited .quotedIdent ']'
  else if c = '#' then line
  else if beginsWord c then word
  else if Text.isAsciiDigit c then number
  else single (singleKind c)

/-- The shape of a token that begins with `c`, where `next` is the character behind it. -/
def ofChars (c : Char) (next : Option Char) : Shape :=
  if c = '-' ∧ next = some '-' then line
  else if c = '/' ∧ next = some '*' then block
  else if (c = '#' ∨ c = '@') ∧ next.any continuesWord then word
  else ofChar c

/-- The kind of a token of the shape. -/
def kind : Shape → Kind
  | delimited kind _ => kind
  | line => .lineComment
  | block => .blockComment
  | word => .word
  | number => .number
  | single kind => kind

/-- How many characters of a text go on with a token of the shape. -/
def length : Shape → List Char → Nat
  | delimited _ closer, cs => delimitedLength closer cs
  | line, cs => lineLength cs
  | block, cs => commentLength cs.tail + 1
  | word, cs => runLength continuesWord cs
  | number, cs => runLength (fun c => Text.isAsciiDigit c || c == '.') cs
  | single _, _ => 0

theorem length_front (shape : Shape) {front : List Char} (rest : List Char)
   (more : shape = block → front ≠ []) :
    shape.length front = min front.length (shape.length (front ++ rest)) := by
  cases shape with
  | delimited kind closer => exact delimitedLength_front closer front rest
  | line | word | number => exact runLength_front _ front rest
  | single kind => simp [length]
  | block =>
    cases front with
    | nil => exact absurd rfl (more rfl)
    | cons c front =>
      have tail := commentLength_front front rest
      simp [length]
      omega

@[simp] theorem ofChars_none (c : Char) : ofChars c none = ofChar c := by
  simp [ofChars]

/-- The next character decides about the shape only if it belongs to the token. -/
theorem ofChars_some_cases (c d : Char) :
    ofChars c (some d) = ofChar c ∨
      ofChars c (some d) = line ∧ d = '-' ∨
      ofChars c (some d) = block ∧ d = '*' ∨
      ofChars c (some d) = word ∧ continuesWord d = true := by
  unfold ofChars
  split
  next dashes => exact .inr (.inl ⟨rfl, Option.some.inj dashes.2⟩)
  split
  next opens => exact .inr (.inr (.inl ⟨rfl, Option.some.inj opens.2⟩))
  split
  next name => exact .inr (.inr (.inr ⟨rfl, name.2⟩))
  exact .inl rfl

/-- The shapes of tokens about which the next character does not decide. -/
theorem ofChar_cases (c : Char) :
    (∃ kind closer, (kind = .stringLiteral ∨ kind = .quotedIdent) ∧
      Text.isBlank closer = false ∧ ofChar c = delimited kind closer) ∨
      ofChar c = line ∨ ofChar c = word ∨ ofChar c = number ∨
      ofChar c = single (singleKind c) := by
  unfold ofChar
  split
  next => exact .inl ⟨_, _, .inl rfl, by decide, rfl⟩
  split
  next => exact .inl ⟨_, _, .inr rfl, by decide, rfl⟩
  split
  next => exact .inl ⟨_, _, .inr rfl, by decide, rfl⟩
  split
  next => exact .inl ⟨_, _, .inr rfl, by decide, rfl⟩
  split
  next => exact .inr (.inl rfl)
  split
  next => exact .inr (.inr (.inl rfl))
  split
  next => exact .inr (.inr (.inr (.inl rfl)))
  next => exact .inr (.inr (.inr (.inr rfl)))

theorem ofChar_ne_block (c : Char) : ofChar c ≠ block := by
  obtain ⟨_, _, -, -, shape⟩ | shape | shape | shape | shape := ofChar_cases c <;>
    exact shape ▸ nofun

/-- A shape that is not decided by the first character is that of a comment or a word. -/
theorem ofChars_cases (c : Char) (next : Option Char) :
    ofChars c next = ofChar c ∨ ofChars c next = line ∨ ofChars c next = block ∨
      ofChars c next = word := by
  cases next with
  | none => exact .inl (ofChars_none c)
  | some d =>
      obtain shape | ⟨shape, -⟩ | ⟨shape, -⟩ | ⟨shape, -⟩ := ofChars_some_cases c d
      · exact .inl shape
      · exact .inr (.inl shape)
      · exact .inr (.inr (.inl shape))
      · exact .inr (.inr (.inr shape))

/-- A token of any kind but a few is a single character. -/
theorem ofChars_of_kind
    {c : Char}
    {next : Option Char}
    (other : (ofChars c next).kind ∉
      [Kind.stringLiteral, .quotedIdent, .lineComment, .blockComment, .word, .number]) :
    ofChars c next = single (singleKind c) := by
  obtain shape | shape | shape | shape := ofChars_cases c next
  · rw [shape] at other ⊢
    obtain ⟨_, _, rfl | rfl, -, shape⟩ | shape | shape | shape | shape := ofChar_cases c
    all_goals first | exact shape | simp [shape, Shape.kind] at other
  all_goals simp [shape, Shape.kind] at other

theorem measure_eq (c : Char) (cs : List Char) :
    measure c cs = ((ofChars c cs.head?).kind, (ofChars c cs.head?).length cs) := by
  unfold ofChars
  split
  next dashes =>
    obtain ⟨rfl, next⟩ := dashes
    rw [measure, if_neg (by decide), if_neg (by decide), if_neg (by decide),
      if_neg (by decide), if_pos ⟨rfl, next⟩]
    rfl
  next single =>
    split
    next opens =>
      obtain ⟨rfl, next⟩ := opens
      rw [measure, if_neg (by decide), if_neg (by decide), if_neg (by decide),
        if_neg (by decide), if_neg single, if_pos ⟨rfl, next⟩]
      rfl
    next closed =>
      split
      next name =>
        obtain ⟨rfl | rfl, continues⟩ := name
        all_goals
          rw [measure, if_neg (by decide), if_neg (by decide), if_neg (by decide),
            if_neg (by decide), if_neg single, if_neg closed, if_pos ⟨by decide, continues⟩]
          rfl
      next nameless =>
        rw [measure, if_neg single, if_neg closed, wordFollows, if_neg nameless]
        unfold ofChar
        split_ifs <;> rfl

/-- A shape that the next character decided about takes that character. -/
theorem length_pos_of_ofChars_ne
    {c d : Char}
    (decides : ofChars c (some d) ≠ ofChar c)
    (cs : List Char) :
    0 < (ofChars c (some d)).length (d :: cs) := by
  obtain undecided | ⟨shape, rfl⟩ | ⟨shape, rfl⟩ | ⟨shape, continues⟩ := ofChars_some_cases c d
  · exact absurd undecided decides
  · simp [shape, length, lineLength, runLength]
  · simp [shape, length]
  · simp [shape, length, runLength, continues]

end Shape

/-! ## The first token of a text -/

theorem measure_semicolon (cs : List Char) : measure ';' cs = (.semicolon, 0) := by
  rw [Shape.measure_eq]
  rfl

theorem eq_of_singleKind_eq_semicolon
    {c : Char}
    (semicolon : singleKind c = .semicolon) :
    c = ';' := by
  unfold singleKind at semicolon
  split at semicolon <;> first | rfl | cases semicolon

/-- A semicolon token is a semicolon. -/
theorem measure_fst_eq_semicolon
    {c : Char}
    {cs : List Char}
    (semicolon : (measure c cs).1 = .semicolon) :
    c = ';' := by
  rw [Shape.measure_eq] at semicolon
  have kind : (Shape.ofChars c cs.head?).kind = .semicolon := semicolon
  rw [Shape.ofChars_of_kind (by simp [kind])] at kind
  exact eq_of_singleKind_eq_semicolon kind

/-- A token of the kind of words goes on while characters continue a word. -/
theorem Shape.eq_word_of_kind
    {c : Char}
    {next : Option Char}
    (kind : (ofChars c next).kind = .word) :
    ofChars c next = word := by
  have noWord : singleKind c ≠ .word := by
    unfold singleKind
    split <;> exact nofun
  obtain shape | shape | shape | shape := ofChars_cases c next
  · rw [shape] at kind ⊢
    obtain ⟨_, _, rfl | rfl, -, shape⟩ | shape | shape | shape | shape := ofChar_cases c
    all_goals first | exact shape | exact absurd (shape ▸ kind) (by simp [Shape.kind, noWord])
  all_goals first | exact shape | exact absurd (shape ▸ kind) (by simp [Shape.kind])

/-- A quoted name goes on up to a delimiter that is no blank. -/
theorem Shape.exists_delimited_of_kind
    {c : Char}
    {next : Option Char}
    (kind : (ofChars c next).kind = .quotedIdent) :
    ∃ closer, Text.isBlank closer = false ∧ ofChars c next = delimited .quotedIdent closer := by
  have noQuote : singleKind c ≠ .quotedIdent := by
    unfold singleKind
    split <;> exact nofun
  obtain shape | shape | shape | shape := ofChars_cases c next
  · rw [shape] at kind ⊢
    obtain ⟨_, closer, rfl | rfl, visible, shape⟩ | shape | shape | shape | shape := ofChar_cases c
    case inl.inr => exact ⟨closer, visible, shape⟩
    all_goals exact absurd (shape ▸ kind) (by simp [Shape.kind, noQuote])
  all_goals exact absurd (shape ▸ kind) (by simp [Shape.kind])

/-- A quoted name that does not go on to the end of a text does not end in a blank. -/
theorem exists_visible_of_measure
    {c : Char}
    {cs : List Char}
    (quoted : (measure c cs).1 = .quotedIdent)
    (closes : (measure c cs).2 < cs.length) :
    ∃ inner closer, Text.isBlank closer = false ∧
      cs.take (measure c cs).2 = inner ++ [closer] := by
  rw [Shape.measure_eq] at quoted closes ⊢
  obtain ⟨closer, visible, shape⟩ := Shape.exists_delimited_of_kind quoted
  rw [shape] at closes ⊢
  obtain ⟨inner, taken⟩ := exists_closer_of_delimitedLength_lt closes
  exact ⟨inner, closer, visible, taken⟩

/-- The characters behind the first one of a word continue it. -/
theorem continuesWord_of_measure
    {c d : Char}
    {cs : List Char}
    (word : (measure c cs).1 = .word)
    (member : d ∈ cs.take (measure c cs).2) :
    continuesWord d = true := by
  rw [Shape.measure_eq] at word member
  rw [Shape.eq_word_of_kind word] at member
  exact of_mem_take_runLength member

theorem continuesWord_of_isBlank
    {c : Char}
    (blank : Text.isBlank c = true) :
    continuesWord c = false := by
  have noWord := Text.isWordChar_of_isBlank blank
  have noNumber := Text.eq_false_of_isBlank blank
    (fun c => Text.isNumber c || c == '_' || c == '$') (by decide +kernel)
  simp only [Text.isWordChar, Bool.or_eq_false_iff] at noWord noNumber
  simp [continuesWord, Text.isAlphanumeric, noWord, noNumber]

/-- A blank does not decide about the shape of the token in front of it. -/
theorem Shape.ofChars_of_isBlank
    {d : Char}
    (blank : Text.isBlank d = true)
    (c : Char) :
    ofChars c (some d) = ofChar c := by
  obtain undecided | ⟨-, rfl⟩ | ⟨-, rfl⟩ | ⟨-, continues⟩ := ofChars_some_cases c d
  · exact undecided
  · exact absurd blank (by decide)
  · exact absurd blank (by decide)
  · rw [continuesWord_of_isBlank blank] at continues
    exact absurd continues Bool.false_ne_true

section

variable {c : Char} {front rest : List Char}

/-- If the token keeps its shape where a text is cut off, it is cut off with the text. -/
theorem measure_front
    (same : Shape.ofChars c front.head? = Shape.ofChars c (front ++ rest).head?) :
    measure c front =
      ((measure c (front ++ rest)).1, min front.length (measure c (front ++ rest)).2) := by
  have more : Shape.ofChars c front.head? = .block → front ≠ [] := by
    rintro shape rfl
    exact Shape.ofChar_ne_block c (by simpa using shape)
  rw [Shape.measure_eq, Shape.measure_eq, ← same, ← Shape.length_front _ rest more]

/-- How long a token is cannot exceed the text. -/
theorem measure_le (c : Char) (cs : List Char) : (measure c cs).2 ≤ cs.length := by
  have whole : measure c cs = (_, min cs.length (measure c (cs ++ [])).2) :=
    measure_front (by rw [List.append_nil])
  rw [List.append_nil] at whole
  have bound := congrArg Prod.snd whole
  simp only at bound
  omega

/-- A token does not depend on what stands behind it. -/
theorem measure_front_of_le
    (enough : (measure c (front ++ rest)).2 ≤ front.length) :
    measure c front = measure c (front ++ rest) := by
  have same : Shape.ofChars c front.head? = Shape.ofChars c (front ++ rest).head? := by
    cases front with
    | cons d front => rfl
    | nil =>
        cases rest with
        | nil => rfl
        | cons d rest =>
            by_contra decides
            have differs : Shape.ofChars c (some d) ≠ Shape.ofChar c := by
              rw [← Shape.ofChars_none]
              exact Ne.symm decides
            rw [Shape.measure_eq] at enough
            exact absurd (Shape.length_pos_of_ofChars_ne differs rest) (Nat.not_lt.2 enough)
  rw [measure_front same, Nat.min_eq_right enough]

/-- Blanks behind a text are no part of its first token, or they are at its end. -/
theorem measure_front_of_blank
    (c : Char)
    (front : List Char)
    (blank : ∀ d ∈ rest, Text.isBlank d = true) :
    measure c front =
      ((measure c (front ++ rest)).1, min front.length (measure c (front ++ rest)).2) := by
  apply measure_front
  cases front with
  | cons d front => rfl
  | nil =>
      cases rest with
      | nil => rfl
      | cons d rest =>
          have undecided := Shape.ofChars_of_isBlank (blank d List.mem_cons_self) c
          simpa using undecided.symm

end

end Scan
end SqlLineage
