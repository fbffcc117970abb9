import Mathlib.Data.List.Chain
import SqlLineage.Proofs.JavaString

/-!
# What segments are made of

A string literal ends at its first quote that no backslash escapes, and only the last segment of an
expression can lack that quote. Read character by character, an expression has each of its
characters in code, in a string literal or in a character literal, and the segments agree with this
reading about the string literals.
-/

namespace SqlLineage
namespace JavaString

/-! ## The shape of segments -/

/-- What stands between quotes: pairs of a backslash and a character, and characters other than a
backslash and the quote. -/
inductive IsQuoted (quote : Char) : List Char → Prop
  | nil : IsQuoted quote []
  | plain
      {c : Char}
      {cs : List Char}
      (notQuote : c ≠ quote)
      (notBackslash : c ≠ '\\')
      (rest : IsQuoted quote cs) : IsQuoted quote (c :: cs)
  | escape
      {c : Char}
      {cs : List Char}
      (rest : IsQuoted quote cs) : IsQuoted quote ('\\' :: c :: cs)

/-- A quoted text ends at the first quote that is not escaped, or takes all characters. -/
theorem quotedRest_cases (quote : Char) (cs : List Char) :
    (∃ body, IsQuoted quote body ∧ (quotedRest quote cs).1 = body ++ [quote]) ∨
      (quotedRest quote cs).2 = [] ∧ ∃ body, IsQuoted quote body ∧
        ((quotedRest quote cs).1 = body ∨ (quotedRest quote cs).1 = body ++ ['\\']) := by
  fun_induction quotedRest quote cs with
  | case1 => exact .inr ⟨rfl, [], .nil, .inl rfl⟩
  | case2 c =>
      by_cases quoted : c = quote
      · exact .inl ⟨[], .nil, by rw [quoted]; rfl⟩
      · by_cases escapes : c = '\\'
        · exact .inr ⟨rfl, [], .nil, .inr (by rw [escapes]; rfl)⟩
        · exact .inr ⟨rfl, [c], .plain quoted escapes .nil, .inl rfl⟩
  | case3 d cs => exact .inl ⟨[], .nil, rfl⟩
  | case4 d cs taken rest read notQuote inductionHypothesis =>
      rw [read] at inductionHypothesis
      obtain ⟨body, quoted, equal⟩ | ⟨all, body, quoted, equal⟩ := inductionHypothesis
      · exact .inl ⟨'\\' :: d :: body, .escape quoted, congrArg ('\\' :: d :: ·) equal⟩
      · refine .inr ⟨all, '\\' :: d :: body, .escape quoted, ?_⟩
        simpa using equal
  | case5 c d cs notQuote notBackslash taken rest read inductionHypothesis =>
      rw [read] at inductionHypothesis
      obtain ⟨body, quoted, equal⟩ | ⟨all, body, quoted, equal⟩ := inductionHypothesis
      · exact .inl ⟨c :: body, .plain notQuote notBackslash quoted, congrArg (c :: ·) equal⟩
      · refine .inr ⟨all, c :: body, .plain notQuote notBackslash quoted, ?_⟩
        simpa using equal

/-- A string literal with its closing quote, the first one that is not escaped. -/
def IsClosedLiteral (text : String) : Prop :=
  ∃ body, IsQuoted '"' body ∧ text.toList = '"' :: (body ++ ['"'])

/-- A string literal without a closing quote; it may end with a backslash that escapes nothing. -/
def IsOpenLiteral (text : String) : Prop :=
  ∃ body, IsQuoted '"' body ∧ (text.toList = '"' :: body ∨ text.toList = '"' :: (body ++ ['\\']))

/-- Whether a segment is a string literal. -/
def Segment.isLiteral : Segment → Bool
  | literal _ => true
  | code _ => false

theorem mem_codeSegment
    {code : List Char}
    {segment : Segment}
    (member : segment ∈ codeSegment code) :
    ∃ text, segment = .code text ∧ text ≠ "" := by
  cases code with
  | nil => simp [codeSegment] at member
  | cons c code =>
      rw [codeSegment, if_neg (by simp), List.mem_singleton] at member
      refine ⟨_, member, fun empty => ?_⟩
      simpa using congrArg String.toList empty

theorem text_ne_empty_of_mem_segmentsFrom
    {code expression : List Char}
    {segment : Segment}
    (member : segment ∈ segmentsFrom code expression) :
    segment.text ≠ "" := by
  fun_induction segmentsFrom code expression with
  | case1 code =>
      obtain ⟨text, rfl, nonempty⟩ := mem_codeSegment member
      exact nonempty
  | case2 code cs split inductionHypothesis => exact inductionHypothesis member
  | case3 code cs split _ inductionHypothesis =>
      rcases List.mem_append.1 member with member | member
      · obtain ⟨text, rfl, nonempty⟩ := mem_codeSegment member
        exact nonempty
      · rcases List.mem_cons.1 member with rfl | member
        · intro empty
          simpa [Segment.text] using congrArg String.toList empty
        · exact inductionHypothesis member
  | case4 code c cs _ _ inductionHypothesis => exact inductionHypothesis member

/-- Of two segments in a row at least one is a string literal. -/
def Segment.Separate (first second : Segment) : Prop :=
  first.isLiteral = true ∨ second.isLiteral = true

/-- Code reaches to the next string literal or to the end. -/
theorem isChain_segmentsFrom (code expression : List Char) :
    (segmentsFrom code expression).IsChain Segment.Separate := by
  fun_induction segmentsFrom code expression with
  | case1 code => cases code <;> simp [codeSegment]
  | case2 code cs split inductionHypothesis => exact inductionHypothesis
  | case3 code cs split _ inductionHypothesis =>
      have behind (text : String) :
          (.literal text :: segmentsFrom [] split.2).IsChain Segment.Separate :=
        List.isChain_cons.2 ⟨fun _ _ => .inl rfl, inductionHypothesis⟩
      cases code with
      | nil => exact behind _
      | cons c code => exact List.isChain_cons_cons.2 ⟨.inr rfl, behind _⟩
  | case4 code c cs _ _ inductionHypothesis => exact inductionHypothesis

/-- Only the last segment can be a string literal without its closing quote. -/
theorem literal_of_suffix_segmentsFrom
    {code expression : List Char}
    {text : String}
    {after : List Segment}
    (suffix : .literal text :: after <:+ segmentsFrom code expression) :
    IsClosedLiteral text ∨ after = [] ∧ IsOpenLiteral text := by
  -- No string literal begins with the code in front of a list of segments.
  have behindCode {code : List Char} {segments : List Segment}
      (suffix : .literal text :: after <:+ codeSegment code ++ segments) :
      .literal text :: after <:+ segments := by
    cases code with
    | nil => exact suffix
    | cons c code =>
        rcases List.suffix_cons_iff.1 suffix with equal | suffix
        · cases equal
        · exact suffix
  fun_induction segmentsFrom code expression with
  | case1 code =>
      rw [← List.append_nil (codeSegment code)] at suffix
      exact absurd (behindCode suffix) (by simp)
  | case2 code cs split inductionHypothesis => exact inductionHypothesis suffix
  | case3 code cs split _ inductionHypothesis =>
      rcases List.suffix_cons_iff.1 (behindCode suffix) with equal | suffix
      · obtain ⟨rfl, rfl⟩ : text = String.ofList ('"' :: split.1) ∧
            after = segmentsFrom [] split.2 := by simpa using equal
        obtain ⟨body, quoted, taken⟩ | ⟨all, body, quoted, taken⟩ := quotedRest_cases '"' cs
        · refine .inl ⟨body, quoted, ?_⟩
          rw [String.toList_ofList, taken]
        · refine .inr ⟨?_, body, quoted, ?_⟩
          · rw [all, segmentsFrom]
            rfl
          · simpa using taken
      · exact inductionHypothesis suffix
  | case4 code c cs _ _ inductionHypothesis => exact inductionHypothesis suffix

/-! ## The places of characters -/

/-- What a character of an expression stands in. -/
inductive Place
  | code
  /-- A string literal, to which its quotes belong. -/
  | string
  /-- A character literal, to which its quotes belong. -/
  | character
deriving DecidableEq, Repr

/-- The place of a character in front of which no literal is open: a quote belongs to the literal
that it opens. -/
def Place.opened (c : Char) : Place :=
  if c = '"' then .string else if c = '\'' then .character else .code

/-- The quote that closes a literal. -/
def Place.quote? : Place → Option Char
  | code => none
  | string => some '"'
  | character => some '\''

/-- What is known between two characters of an expression. -/
structure Reading where
  /-- The literal that is open, or code. -/
  place : Place
  /-- Whether the next character stands behind a backslash that escapes it. -/
  escaped : Bool

namespace Reading

/-- The reading of an expression begins in code. -/
def start : Reading :=
  ⟨.code, false⟩

/-- The place of the next character `c`. -/
def placeOf (reading : Reading) (c : Char) : Place :=
  if reading.place = .code then .opened c else reading.place

/-- The reading behind the next character `c`. -/
def next (reading : Reading) (c : Char) : Reading :=
  if reading.place = .code then ⟨.opened c, false⟩
  else if reading.escaped then ⟨reading.place, false⟩
  else if reading.place.quote? = some c then start
  else ⟨reading.place, c == '\\'⟩

/-- The characters that follow, with their places. -/
def placed (reading : Reading) : List Char → List (Char × Place)
  | [] => []
  | c :: cs => (c, reading.placeOf c) :: (reading.next c).placed cs

end Reading

/-- The characters of an expression with their places. -/
def placed (expression : String) : List (Char × Place) :=
  Reading.start.placed expression.toList

/-- Behind an opening quote stand the characters of its literal, and the expression goes on in
code. -/
theorem placed_of_quote
    {place : Place}
    {quote : Char}
    (closes : place.quote? = some quote)
    (cs : List Char) :
    (Reading.mk place false).placed cs =
      (quotedRest quote cs).1.map (·, place) ++ Reading.start.placed (quotedRest quote cs).2 := by
  have inLiteral : place ≠ .code := by
    rintro rfl
    cases closes
  fun_induction quotedRest quote cs with
  | case1 => rfl
  | case2 c => simp [Reading.placed, Reading.placeOf, inLiteral]
  | case3 d cs => simp [Reading.placed, Reading.placeOf, Reading.next, inLiteral, closes]
  | case4 d cs taken rest read notQuote inductionHypothesis =>
      rw [read] at inductionHypothesis
      have differs : quote ≠ '\\' := Ne.symm notQuote
      simpa [Reading.placed, Reading.placeOf, Reading.next, inLiteral, closes, differs]
        using inductionHypothesis
  | case5 c d cs notQuote notBackslash taken rest read inductionHypothesis =>
      rw [read] at inductionHypothesis
      have differs : quote ≠ c := Ne.symm notQuote
      simpa [Reading.placed, Reading.placeOf, Reading.next, inLiteral, closes, differs,
        notBackslash] using inductionHypothesis

/-- The characters of a segment, each with whether it stands in a string literal. -/
def Segment.marked (segment : Segment) : List (Char × Bool) :=
  segment.text.toList.map (·, segment.isLiteral)

/-- The characters of an expression, each with whether its segment is a string literal. -/
def marked (expression : String) : List (Char × Bool) :=
  (segments expression).flatMap Segment.marked

theorem flatMap_marked_codeSegment (code : List Char) :
    (codeSegment code).flatMap Segment.marked = code.reverse.map (·, false) := by
  cases code <;> simp [codeSegment, Segment.marked, Segment.text, Segment.isLiteral]

theorem flatMap_marked_segmentsFrom (code expression : List Char) :
    (segmentsFrom code expression).flatMap Segment.marked =
      code.reverse.map (·, false) ++
        (Reading.start.placed expression).map (Prod.map id (· == .string)) := by
  fun_induction segmentsFrom code expression with
  | case1 code => simp [flatMap_marked_codeSegment, Reading.placed]
  | case2 code cs split inductionHypothesis =>
      have literal : Reading.start.placed ('\'' :: cs) =
          ('\'', .character) :: (Reading.mk .character false).placed cs := rfl
      have closes : Place.character.quote? = some '\'' := rfl
      rw [inductionHypothesis, literal, placed_of_quote closes]
      simp [split]
  | case3 code cs split _ inductionHypothesis =>
      have literal : Reading.start.placed ('"' :: cs) =
          ('"', .string) :: (Reading.mk .string false).placed cs := rfl
      have closes : Place.string.quote? = some '"' := rfl
      rw [List.flatMap_append, List.flatMap_cons, inductionHypothesis, flatMap_marked_codeSegment,
        literal, placed_of_quote closes]
      simp [split, Segment.marked, Segment.text, Segment.isLiteral]
  | case4 code c cs notApostrophe notQuote inductionHypothesis =>
      have opened : Place.opened c = .code := by
        rw [Place.opened, if_neg notQuote, if_neg notApostrophe]
      rw [inductionHypothesis]
      simp [Reading.placed, Reading.placeOf, Reading.next, Reading.start, opened]

/-- The segments and the places of characters agree about the string literals. -/
theorem marked_eq (expression : String) :
    marked expression = (placed expression).map (Prod.map id (· == .string)) := by
  simpa [marked, segments, placed] using flatMap_marked_segmentsFrom [] expression.toList

end JavaString
end SqlLineage
