import Mathlib.Data.List.TakeWhile
import SqlLineage.Proofs.Context.Replacement
import SqlLineage.Proofs.JavaString.Segments

/-!
# References in an expression

A reference begins at a word outside of string literals, and not inside of a reference in front of
it. The parts of an expression are its references and the text between them, although they are found
segment by segment: no reference crosses the end of a segment, and a segment ends with a quote where
code begins. So a replacement is described by positions of the whole expression.
-/

namespace SqlLineage
namespace Context

/-! ## Positions of references -/

/-- The name that a reference at a position has: as many characters of names as there are. -/
def nameAt (expression : String) (position : Nat) : String :=
  String.ofList
    ((expression.toList.drop (position + "context.".length)).takeWhile isNameChar)

/-- The position behind a reference at a position. -/
def behindReference (expression : String) (position : Nat) : Nat :=
  position + "context.".length + (nameAt expression position).length

/-- Outside of string literals `context.` begins at a word, and a name follows. -/
structure Occurs (expression : String) (position : Nat) : Prop where
  /-- The position is not in a string literal. -/
  code : ∃ c, (JavaString.marked expression)[position]? = some (c, false)
  /-- No word is in front. -/
  boundary : ∀ c ∈ (expression.toList.take position).getLast?, Text.isWordChar c = false
  /-- The text of every reference is here. -/
  keyword : "context.".toList <+: expression.toList.drop position
  /-- The name begins with a letter or an underscore. -/
  name : isIdentifier (nameAt expression position).toList = true

/-- A reference is at a position if its text occurs there and no reference in front goes on there. -/
def IsReference (expression : String) (position : Nat) : Prop :=
  Occurs expression position ∧
    ∀ earlier, (_before : earlier < position) → IsReference expression earlier →
      behindReference expression earlier ≤ position
termination_by position

/-- A reference at a position has no value. -/
def Unbound (context : Context) (expression : String) (position : Nat) : Prop :=
  IsReference expression position ∧ context.get? (nameAt expression position) = none

/-- From a position on, each reference is filled with the literal of its value, and each other
character is kept. What a reference is filled with is not read again. -/
inductive FilledFrom (context : Context) (expression : String) : Nat → List Char → Prop
  | stop
      {position : Nat}
      (ended : expression.toList[position]? = none) :
      FilledFrom context expression position []
  | keep
      {position : Nat}
      {c : Char}
      {text : List Char}
      (here : expression.toList[position]? = some c)
      (other : ¬ IsReference expression position)
      (rest : FilledFrom context expression (position + 1) text) :
      FilledFrom context expression position (c :: text)
  | fill
      {position : Nat}
      {value : String}
      {text : List Char}
      (reference : IsReference expression position)
      (bound : context.get? (nameAt expression position) = some value)
      (rest : FilledFrom context expression (behindReference expression position) text) :
      FilledFrom context expression position ((JavaString.literalOf value).toList ++ text)

/-! ## References and parts -/

/-- What stands behind a prefix that has none of its characters does not lengthen it. -/
theorem prefix_of_prefix_append
    {front cs behind : List Char}
    (starts : front <+: cs ++ behind)
    (foreign : ∀ c ∈ behind.head?, c ∉ front) :
    front <+: cs := by
  rcases List.prefix_or_prefix_of_prefix starts (List.prefix_append cs behind) with shorter | longer
  · exact shorter
  · obtain ⟨more, rfl⟩ := longer
    cases more with
    | nil => simp
    | cons c more =>
        obtain ⟨rest, same⟩ := (List.prefix_append_right_inj cs).1 starts
        rw [← same] at foreign
        exact absurd (foreign c rfl) (by simp)

theorem reference?_eq_some
    {cs name rest : List Char}
    (found : reference? cs = some (name, rest)) :
    isIdentifier name = true ∧ ∀ c ∈ rest.head?, isNameChar c = false := by
  rw [reference?] at found
  split at found
  next starts =>
    split at found
    next c others tail =>
      split at found
      next start =>
        cases found
        refine ⟨?_, fun c first => ?_⟩
        · rw [isIdentifier, start, Bool.true_and, List.all_eq_true]
          exact fun d member => List.mem_takeWhile_imp member
        · have head := List.head?_dropWhile_not isNameChar others
          rwa [first] at head
      next => cases found
    next => cases found
  next => cases found

section

variable {expression : String} {read rest : List Char}

theorem nameAt_of_keyword
    (whole : expression.toList = read ++ ("context.".toList ++ rest)) :
    nameAt expression read.length = String.ofList (rest.takeWhile isNameChar) := by
  have keyword : read.length + "context.".length = (read ++ "context.".toList).length := by
    rw [List.length_append, String.length_toList]
  rw [nameAt, whole, ← List.append_assoc, keyword, List.drop_left]

/-- A name goes on to the first character that is in no name. -/
theorem nameAt_of_reference
    {name : List Char}
    (whole : expression.toList = read ++ ("context.".toList ++ (name ++ rest)))
    (identifier : isIdentifier name = true)
    (ends : ∀ c ∈ rest.head?, isNameChar c = false) :
    nameAt expression read.length = String.ofList name := by
  rw [nameAt_of_keyword whole,
    List.takeWhile_append_of_pos (isNameChar_of_isIdentifier identifier)]
  cases rest with
  | nil => rw [List.takeWhile_nil, List.append_nil]
  | cons c rest => rw [List.takeWhile_cons_of_neg (by simp [ends c rfl]), List.append_nil]

end

/-- What stands behind the front of a rest. -/
theorem prefix_drop_add
    {α : Type}
    (front : List α)
    {middle whole : List α}
    {position : Nat}
    (starts : front ++ middle <+: whole.drop position) :
    middle <+: whole.drop (position + front.length) := by
  obtain ⟨rest, equal⟩ := starts
  rw [← List.drop_drop, ← equal, List.append_assoc, List.drop_left]
  exact List.prefix_append middle rest

section

variable {expression : String} {read code behind : List Char}

/-- The text of a reference that code begins with occurs in the expression, and the code behind a
segment does not lengthen its name. -/
theorem occurs_of_reference?
    {name rest : List Char}
    (whole : expression.toList = read ++ (code ++ behind))
    (quoted : ∀ c ∈ behind.head?, c = '"')
    (marked : code.map (·, false) <+: (JavaString.marked expression).drop read.length)
    (boundary : ∀ c ∈ read.getLast?, Text.isWordChar c = false)
    (found : reference? code = some (name, rest)) :
    Occurs expression read.length ∧ nameAt expression read.length = String.ofList name := by
  have split := eq_append_of_reference? found
  obtain ⟨identifier, ends⟩ := reference?_eq_some found
  have endsBehind : ∀ c ∈ (rest ++ behind).head?, isNameChar c = false := by
    cases rest with
    | nil =>
        intro c first
        rw [quoted c first]
        decide
    | cons d rest => exact ends
  rw [split, List.append_assoc, List.append_assoc] at whole
  have named := nameAt_of_reference whole identifier endsBehind
  refine ⟨⟨⟨'c', ?_⟩, ?_, ?_, ?_⟩, named⟩
  · obtain ⟨tail, here⟩ := marked
    rw [← List.head?_drop, ← here, split]
    rfl
  · rwa [whole, List.take_left]
  · rw [whole, List.drop_left]
    exact List.prefix_append _ _
  · rw [named, String.toList_ofList, identifier]

/-- If the text of a reference occurs where code of the expression begins, code begins with it. -/
theorem exists_reference?_of_occurs
    (whole : expression.toList = read ++ (code ++ behind))
    (quoted : ∀ c ∈ behind.head?, c = '"')
    (occurs : Occurs expression read.length) :
    ∃ name rest, reference? code = some (name, rest) := by
  have foreign : ∀ c ∈ behind.head?, c ∉ "context.".toList := by
    intro c first
    rw [quoted c first]
    decide
  have starts := occurs.keyword
  rw [whole, List.drop_left] at starts
  obtain ⟨rest, rfl⟩ := prefix_of_prefix_append starts foreign
  rw [List.append_assoc] at whole
  have noName : behind.takeWhile isNameChar = [] := by
    cases behind with
    | nil => rfl
    | cons c behind => rw [quoted c rfl, List.takeWhile_cons_of_neg (by decide)]
  have inside : (rest ++ behind).takeWhile isNameChar = rest.takeWhile isNameChar := by
    rw [List.takeWhile_append, noName]
    split
    next all => rw [(List.takeWhile_prefix isNameChar).eq_of_length all, List.append_nil]
    next => rfl
  have identifier := occurs.name
  rw [nameAt_of_keyword whole, inside, String.toList_ofList] at identifier
  have ends : ∀ c ∈ (rest.dropWhile isNameChar).head?, isNameChar c = false := by
    intro c first
    have head := List.head?_dropWhile_not isNameChar rest
    rwa [first] at head
  have found := reference?_append identifier ends
  rw [List.takeWhile_append_dropWhile] at found
  exact ⟨_, _, found⟩

end

/-- Parts tell of an expression from a position on where its references are: no text of a reference
occurs where a part is plain. -/
def Tells (expression : String) : Nat → List Part → Prop
  | position, [] => expression.toList.length ≤ position
  | position, .plain text :: rest =>
    text.toList <+: expression.toList.drop position ∧
      (∀ inside, position ≤ inside → inside < position + text.toList.length →
        ¬ Occurs expression inside) ∧
      Tells expression (position + text.toList.length) rest
  | position, .reference name :: rest =>
    Occurs expression position ∧ nameAt expression position = name ∧
      Tells expression (behindReference expression position) rest

/-- The parts of code tell of the expression around it. Behind the code there is nothing or a
quote. -/
theorem tells_codeParts
    {expression : String}
    {behind : List Char}
    {more : List Part}
    (quoted : ∀ c ∈ behind.head?, c = '"')
    (inWord : Bool)
    (code : List Char) :
    ∀ read, expression.toList = read ++ (code ++ behind) →
      code.map (·, false) <+: (JavaString.marked expression).drop read.length →
      inWord = (read.getLast?.map Text.isWordChar).getD false →
      Tells expression (read.length + code.length) more →
      Tells expression read.length (codeParts inWord code ++ more) := by
  fun_induction codeParts inWord code with
  | case1 inWord =>
      intro read whole marked word tells
      exact tells
  | case2 inWord c cs name rest found inductionHypothesis =>
      intro read whole marked word tells
      cases inWord with
      | true => cases found
      | false =>
          have found : reference? (c :: cs) = some (name, rest) := found
          have boundary : ∀ d ∈ read.getLast?, Text.isWordChar d = false := by
            intro d last
            rw [last] at word
            exact word.symm
          obtain ⟨occurs, named⟩ := occurs_of_reference? whole quoted marked boundary found
          obtain ⟨identifier, -⟩ := reference?_eq_some found
          have nonempty : name ≠ [] := by
            rintro rfl
            cases identifier
          obtain ⟨front, front_eq⟩ : ∃ front, front = "context.".toList ++ name := ⟨_, rfl⟩
          have split : c :: cs = front ++ rest := by
            rw [front_eq, eq_append_of_reference? found, List.append_assoc]
          have length : (read ++ front).length = behindReference expression read.length := by
            rw [behindReference, named, front_eq, List.length_append, List.length_append,
              String.length_toList, String.length_ofList (l := name), Nat.add_assoc]
          have last : (read ++ front).getLast? = name.getLast? := by
            rw [front_eq, ← List.append_assoc, List.getLast?_append_of_ne_nil _ nonempty]
          rw [split] at whole marked tells
          rw [List.map_append] at marked
          refine ⟨occurs, named, ?_⟩
          rw [← length]
          apply inductionHypothesis
          · rw [whole, List.append_assoc, List.append_assoc]
          · simpa using prefix_drop_add _ marked
          · rw [last]
          · rwa [List.length_append, Nat.add_assoc, ← List.length_append]
  | case3 inWord c cs found inductionHypothesis =>
      intro read whole marked word tells
      have length : (read ++ [c]).length = read.length + 1 := List.length_append
      refine ⟨?_, fun inside lower upper occurs => ?_, ?_⟩
      · rw [whole, List.drop_left]
        exact ⟨cs ++ behind, by simp⟩
      · obtain rfl : inside = read.length := by
          rw [String.toList_singleton, List.length_singleton] at upper
          omega
        obtain ⟨name, rest, reference⟩ := exists_reference?_of_occurs whole quoted occurs
        have boundary := occurs.boundary
        rw [whole, List.take_left] at boundary
        cases inWord with
        | true =>
            cases last : read.getLast? with
            | none =>
                rw [last] at word
                cases word
            | some d =>
                rw [last] at word
                have inWord : true = Text.isWordChar d := word
                rw [boundary d last] at inWord
                cases inWord
        | false =>
            have none : reference? (c :: cs) = none := found
            rw [none] at reference
            cases reference
      · rw [String.toList_singleton, List.length_singleton, ← length]
        apply inductionHypothesis
        · rw [whole]
          simp
        · rw [length]
          exact prefix_drop_add [(c, false)] marked
        · simp
        · rw [length]
          rwa [List.length_cons, Nat.add_comm cs.length, ← Nat.add_assoc] at tells

section

open JavaString (Segment segments)

variable {expression text : String} {rest : List Segment}

theorem exists_literal_behind_code
    {second : Segment}
    (suffix : .code text :: second :: rest <:+ segments expression) :
    ∃ literal, second = .literal literal := by
  have chain := (JavaString.isChain_segmentsFrom [] expression.toList).suffix suffix
  cases second with
  | literal literal => exact ⟨literal, rfl⟩
  | code _ =>
      rcases (List.isChain_cons_cons.1 chain).1 with none | none
      · cases none
      · cases none

/-- Behind code there is nothing or the quote of a string literal. -/
theorem eq_quote_of_head?_behind_code
    (suffix : .code text :: rest <:+ segments expression) :
    ∀ c ∈ (rest.flatMap (·.text.toList)).head?, c = '"' := by
  cases rest with
  | nil => simp
  | cons second rest =>
      obtain ⟨literal, rfl⟩ := exists_literal_behind_code suffix
      intro c head
      obtain ⟨body, -, shape⟩ | ⟨-, body, -, shape | shape⟩ :=
        JavaString.literal_of_suffix_segmentsFrom ((List.suffix_cons _ _).trans suffix)
      all_goals
        rw [List.flatMap_cons, Segment.text, shape, List.cons_append, List.head?_cons] at head
        exact (Option.some.inj head).symm

/-- A string literal with something behind it ends with its quote. -/
theorem getLast?_of_literal
    (more : rest ≠ [])
    (suffix : .literal text :: rest <:+ segments expression) :
    text.toList.getLast? = some '"' := by
  obtain ⟨body, -, shape⟩ | ⟨none, -⟩ := JavaString.literal_of_suffix_segmentsFrom suffix
  · rw [shape, ← List.cons_append, List.getLast?_concat]
  · exact absurd none more

/-- The parts of segments tell of the expression that they belong to. -/
theorem tells_segments
    {remaining : List Segment}
    {read : List Char}
    (suffix : remaining <:+ segments expression)
    (whole : expression.toList = read ++ remaining.flatMap (·.text.toList))
    (marked : (JavaString.marked expression).drop read.length =
      remaining.flatMap Segment.marked)
    (boundary : ∀ text rest, remaining = .code text :: rest →
      (read.getLast?.map Text.isWordChar).getD false = false) :
    Tells expression read.length (remaining.flatMap segmentParts) := by
  induction remaining generalizing read with
  | nil =>
      rw [List.flatMap_nil, List.append_nil] at whole
      exact Nat.le_of_eq (congrArg List.length whole)
  | cons first rest inductionHypothesis =>
      have suffixRest := (List.suffix_cons first rest).trans suffix
      have wholeRest : expression.toList =
          (read ++ first.text.toList) ++ rest.flatMap (·.text.toList) := by
        rw [whole, List.flatMap_cons, List.append_assoc]
      have markedRest : (JavaString.marked expression).drop (read ++ first.text.toList).length =
          rest.flatMap Segment.marked := by
        have length : first.text.toList.length = first.marked.length := by
          rw [Segment.marked, List.length_map]
        rw [List.length_append, ← List.drop_drop, marked, List.flatMap_cons, length,
          List.drop_left]
      have behind := inductionHypothesis suffixRest wholeRest markedRest
      rw [List.length_append] at behind
      rw [List.flatMap_cons] at marked whole
      cases first with
      | code text =>
          have quoted := eq_quote_of_head?_behind_code suffix
          have marks : text.toList.map (·, false) <+:
              (JavaString.marked expression).drop read.length := by
            rw [marked]
            exact List.prefix_append _ _
          refine tells_codeParts quoted false text.toList read whole marks
            (boundary text rest rfl).symm (behind fun next others equal => ?_)
          rw [equal] at suffix
          obtain ⟨literal, impossible⟩ := exists_literal_behind_code suffix
          cases impossible
      | literal text =>
          refine ⟨?_, fun inside lower upper occurs => ?_, behind fun next others equal => ?_⟩
          · rw [whole, List.drop_left]
            exact List.prefix_append _ _
          · obtain ⟨c, here⟩ := occurs.code
            obtain ⟨distance, rfl⟩ := Nat.exists_eq_add_of_le lower
            have within : distance < text.toList.length := Nat.add_lt_add_iff_left.1 upper
            have inLiteral : distance < (Segment.literal text).marked.length := by
              rwa [Segment.marked, List.length_map]
            rw [← List.getElem?_drop, marked, List.getElem?_append_left inLiteral,
              Segment.marked, List.getElem?_map] at here
            obtain ⟨d, -, wrong⟩ := Option.map_eq_some_iff.1 here
            cases wrong
          · have last : (read ++ (Segment.literal text).text.toList).getLast? = some '"' := by
              rw [Segment.text, List.getLast?_append, getLast?_of_literal (by simp [equal]) suffix]
              rfl
            rw [last]
            decide

theorem tells_parts (expression : String) : Tells expression 0 (parts expression) := by
  have whole : expression.toList = [] ++ (segments expression).flatMap (·.text.toList) :=
    (JavaString.flatMap_text_segmentsFrom [] expression.toList).symm
  exact tells_segments (List.suffix_refl _) whole rfl fun _ _ _ => rfl

end

/-! ## Replacement at positions -/

/-- No reference in front of a position goes on there. -/
def Clear (expression : String) (position : Nat) : Prop :=
  ∀ earlier, earlier < position → IsReference expression earlier →
    behindReference expression earlier ≤ position

section

variable {expression : String} {position : Nat}

theorem Clear.isReference_iff
    (clear : Clear expression position) :
    IsReference expression position ↔ Occurs expression position := by
  rw [IsReference]
  exact and_iff_left clear

theorem Occurs.lt_length
    (occurs : Occurs expression position) :
    position < expression.toList.length := by
  have long := occurs.keyword.length_le
  have keyword : 0 < "context.".toList.length := by decide
  rw [List.length_drop] at long
  omega

theorem position_lt_behindReference (expression : String) (position : Nat) :
    position < behindReference expression position := by
  have keyword : 0 < "context.".length := by decide
  rw [behindReference]
  omega

/-- Behind text in which no text of a reference occurs a position is still clear. -/
theorem Clear.add
    {distance : Nat}
    (clear : Clear expression position)
    (plain : ∀ inside, position ≤ inside → inside < position + distance →
      ¬ Occurs expression inside) :
    Clear expression (position + distance) := by
  intro earlier before reference
  rcases Nat.lt_or_ge earlier position with front | inside
  · exact Nat.le_trans (clear earlier front reference) (Nat.le_add_right _ _)
  · rw [IsReference] at reference
    exact absurd reference.1 (plain earlier inside before)

/-- No reference begins inside of a reference. -/
theorem not_isReference_inside
    (reference : IsReference expression position)
    {inside : Nat}
    (behind : position < inside)
    (within : inside < behindReference expression position) :
    ¬ IsReference expression inside := by
  intro other
  rw [IsReference] at other
  exact absurd (other.2 position behind reference) (Nat.not_le.2 within)

theorem Clear.behind
    (clear : Clear expression position)
    (reference : IsReference expression position) :
    Clear expression (behindReference expression position) := by
  intro earlier before other
  rcases Nat.lt_trichotomy earlier position with front | rfl | inside
  · exact Nat.le_trans (clear earlier front other)
      (Nat.le_of_lt (position_lt_behindReference expression position))
  · exact Nat.le_refl _
  · exact absurd other (not_isReference_inside reference inside before)

end

/-- The first reference without a value from a position on. -/
structure FirstUnbound
    (context : Context)
    (expression : String)
    (position first : Nat) : Prop where
  /-- It is at the position or behind it. -/
  behind : position ≤ first
  /-- The reference has no value. -/
  unbound : Unbound context expression first
  /-- All references from the position up to it have values. -/
  bound : ∀ earlier, position ≤ earlier → earlier < first → ¬ Unbound context expression earlier

section

variable {context : Context} {expression : String} {position : Nat}

theorem firstUnbound_iff_of_bound
    {further first : Nat}
    (forward : position ≤ further)
    (bound : ∀ inside, position ≤ inside → inside < further →
      ¬ Unbound context expression inside) :
    FirstUnbound context expression position first ↔
      FirstUnbound context expression further first := by
  constructor
  · intro found
    refine ⟨?_, found.unbound, fun earlier behind before =>
      found.bound earlier (Nat.le_trans forward behind) before⟩
    rw [← Nat.not_lt]
    exact fun within => bound first found.behind within found.unbound
  · intro found
    refine ⟨Nat.le_trans forward found.behind, found.unbound, fun earlier behind before => ?_⟩
    rcases Nat.lt_or_ge earlier further with within | beyond
    · exact bound earlier behind within
    · exact found.bound earlier beyond before

/-- The first part without a text is the first reference without a value. -/
theorem findSome?_unbound?_iff
    {parts : List Part}
    (tells : Tells expression position parts)
    (clear : Clear expression position)
    (name : String) :
    parts.findSome? (Part.unbound? context) = some name ↔
      ∃ first, FirstUnbound context expression position first ∧
        nameAt expression first = name := by
  induction parts generalizing position with
  | nil =>
      simp only [List.findSome?_nil, reduceCtorEq, false_iff, not_exists, not_and]
      intro first found
      obtain ⟨reference, -⟩ := found.unbound
      rw [IsReference] at reference
      have within := reference.1.lt_length
      exact absurd (Nat.le_trans tells found.behind) (Nat.not_le.2 within)
  | cons part parts inductionHypothesis =>
      cases part with
      | plain text =>
          obtain ⟨-, plain, rest⟩ := tells
          have bound : ∀ inside, position ≤ inside → inside < position + text.toList.length →
              ¬ Unbound context expression inside := by
            rintro inside lower upper ⟨reference, -⟩
            rw [IsReference] at reference
            exact plain inside lower upper reference.1
          rw [List.findSome?_cons, Part.unbound?, inductionHypothesis rest (clear.add plain)]
          simp only [firstUnbound_iff_of_bound (Nat.le_add_right _ _) bound]
      | reference other =>
          obtain ⟨occurs, named, rest⟩ := tells
          have reference := clear.isReference_iff.2 occurs
          have inside : ∀ inside, position < inside → inside < behindReference expression position →
              ¬ Unbound context expression inside :=
            fun inside lower upper other => not_isReference_inside reference lower upper other.1
          cases value : context.get? other with
          | none =>
              have here : FirstUnbound context expression position position :=
                ⟨Nat.le_refl _, ⟨reference, named ▸ value⟩, fun earlier lower upper =>
                  absurd lower (Nat.not_le.2 upper)⟩
              have first : ∀ first, FirstUnbound context expression position first →
                  first = position := by
                intro first found
                rcases Nat.eq_or_lt_of_le found.behind with equal | later
                · exact equal.symm
                · exact absurd here.unbound (found.bound position (Nat.le_refl _) later)
              rw [List.findSome?_cons, Part.unbound?, value]
              constructor
              · intro equal
                exact ⟨position, here, named.trans (Option.some.inj equal)⟩
              · rintro ⟨only, found, rfl⟩
                rw [first only found, named]
                rfl
          | some text =>
              have bound : ∀ inside, position ≤ inside →
                  inside < behindReference expression position →
                    ¬ Unbound context expression inside := by
                intro other lower upper
                rcases Nat.eq_or_lt_of_le lower with rfl | later
                · rintro ⟨-, none⟩
                  rw [named, value] at none
                  cases none
                · exact inside other later upper
              rw [List.findSome?_cons, Part.unbound?, value]
              simp only [Option.isSome_some, if_true, inductionHypothesis rest
                (clear.behind reference), firstUnbound_iff_of_bound
                  (Nat.le_of_lt (position_lt_behindReference expression position)) bound]

theorem filledFrom_stop_iff
    (ended : expression.toList.length ≤ position)
    (text : List Char) :
    FilledFrom context expression position text ↔ text = [] := by
  have none := List.getElem?_eq_none ended
  constructor
  · intro filled
    cases filled with
    | stop _ => rfl
    | keep here _ _ =>
        rw [none] at here
        cases here
    | fill reference _ _ =>
        rw [IsReference] at reference
        exact absurd ended (Nat.not_le.2 reference.1.lt_length)
  · rintro rfl
    exact .stop none

theorem filledFrom_keep_iff
    {c : Char}
    (here : expression.toList[position]? = some c)
    (other : ¬ IsReference expression position)
    (text : List Char) :
    FilledFrom context expression position text ↔
      ∃ rest, text = c :: rest ∧ FilledFrom context expression (position + 1) rest := by
  constructor
  · intro filled
    cases filled with
    | stop ended =>
        rw [here] at ended
        cases ended
    | keep found _ rest =>
        rw [here] at found
        cases found
        exact ⟨_, rfl, rest⟩
    | fill reference _ _ => exact absurd reference other
  · rintro ⟨rest, rfl, filled⟩
    exact .keep here other filled

/-- Plain text is kept as a whole. -/
theorem filledFrom_plain_iff
    {plain : List Char}
    (starts : plain <+: expression.toList.drop position)
    (other : ∀ inside, position ≤ inside → inside < position + plain.length →
      ¬ Occurs expression inside)
    (text : List Char) :
    FilledFrom context expression position text ↔
      ∃ rest, text = plain ++ rest ∧
        FilledFrom context expression (position + plain.length) rest := by
  induction plain generalizing position text with
  | nil => simp
  | cons c plain inductionHypothesis =>
      have here : expression.toList[position]? = some c := by
        obtain ⟨rest, equal⟩ := starts
        rw [← List.head?_drop, ← equal]
        rfl
      have notHere : ¬ IsReference expression position := by
        rw [IsReference]
        exact fun reference => other position (Nat.le_refl _) (by simp) reference.1
      have startsRest : plain <+: expression.toList.drop (position + 1) :=
        prefix_drop_add [c] starts
      have otherRest : ∀ inside, position + 1 ≤ inside →
          inside < position + 1 + plain.length → ¬ Occurs expression inside := by
        intro inside lower upper
        refine other inside (Nat.le_of_succ_le lower) ?_
        rw [List.length_cons]
        omega
      rw [filledFrom_keep_iff here notHere, List.length_cons, Nat.add_comm plain.length,
        ← Nat.add_assoc]
      constructor
      · rintro ⟨rest, rfl, filled⟩
        obtain ⟨others, rfl, behind⟩ := (inductionHypothesis startsRest otherRest rest).1 filled
        exact ⟨others, rfl, behind⟩
      · rintro ⟨rest, rfl, filled⟩
        have behind := (inductionHypothesis startsRest otherRest _).2 ⟨rest, rfl, filled⟩
        exact ⟨plain ++ rest, rfl, behind⟩

theorem filledFrom_reference_iff
    (reference : IsReference expression position)
    (text : List Char) :
    FilledFrom context expression position text ↔
      ∃ value rest, context.get? (nameAt expression position) = some value ∧
        text = (JavaString.literalOf value).toList ++ rest ∧
          FilledFrom context expression (behindReference expression position) rest := by
  constructor
  · intro filled
    cases filled with
    | stop ended =>
        rw [IsReference] at reference
        exact absurd (List.getElem?_eq_none_iff.1 ended) (Nat.not_le.2 reference.1.lt_length)
    | keep _ other _ => exact absurd reference other
    | fill _ bound rest => exact ⟨_, _, bound, rfl, rest⟩
  · rintro ⟨value, rest, bound, rfl, filled⟩
    exact .fill reference bound filled

/-- Filled parts are the text that a filling gives, if all references have values. -/
theorem filledFrom_iff
    {parts : List Part}
    (tells : Tells expression position parts)
    (clear : Clear expression position)
    (text : List Char) :
    FilledFrom context expression position text ↔
      parts.findSome? (Part.unbound? context) = none ∧
        text = parts.flatMap fun part => (part.filled context).toList := by
  induction parts generalizing position text with
  | nil => simp [filledFrom_stop_iff tells]
  | cons part parts inductionHypothesis =>
      cases part with
      | plain plain =>
          obtain ⟨starts, other, rest⟩ := tells
          rw [filledFrom_plain_iff starts other]
          simp only [inductionHypothesis rest (clear.add other), List.findSome?_cons,
            Part.unbound?, List.flatMap_cons, Part.filled]
          constructor
          · rintro ⟨others, rfl, none, rfl⟩
            exact ⟨none, rfl⟩
          · rintro ⟨none, rfl⟩
            exact ⟨_, rfl, none, rfl⟩
      | reference name =>
          obtain ⟨occurs, named, rest⟩ := tells
          have reference := clear.isReference_iff.2 occurs
          rw [filledFrom_reference_iff reference, named]
          simp only [inductionHypothesis rest (clear.behind reference), List.findSome?_cons,
            Part.unbound?, List.flatMap_cons, Part.filled]
          cases value : context.get? name with
          | none => simp
          | some found =>
              constructor
              · rintro ⟨value, others, equal, rfl, none, rfl⟩
                cases equal
                exact ⟨none, rfl⟩
              · rintro ⟨none, rfl⟩
                exact ⟨found, _, rfl, rfl, none, rfl⟩

end

theorem clear_zero (expression : String) : Clear expression 0 :=
  fun _ before => absurd before (Nat.not_lt_zero _)

theorem replace_eq_error_iff (context : Context) (expression name : String) :
    context.replace expression = .error ⟨name⟩ ↔
      ∃ position, Unbound context expression position ∧
        (∀ earlier < position, ¬ Unbound context expression earlier) ∧
        nameAt expression position = name := by
  have found : (parts expression).findSome? (Part.unbound? context) = some name ↔
      ∃ first, FirstUnbound context expression 0 first ∧ nameAt expression first = name :=
    findSome?_unbound?_iff (tells_parts expression) (clear_zero expression) name
  have replaced : context.replace expression = .error ⟨name⟩ ↔
      context.unbound? expression = some name := by
    rw [replace_eq]
    cases context.unbound? expression <;> simp
  rw [replaced, unbound?, found]
  constructor
  · rintro ⟨first, found, named⟩
    exact ⟨first, found.unbound, fun earlier => found.bound earlier (Nat.zero_le _), named⟩
  · rintro ⟨position, unbound, bound, named⟩
    exact ⟨position, ⟨Nat.zero_le _, unbound, fun earlier _ => bound earlier⟩, named⟩

theorem replace_eq_ok_iff (context : Context) (expression text : String) :
    context.replace expression = .ok text ↔
      FilledFrom context expression 0 text.toList := by
  rw [filledFrom_iff (tells_parts expression) (clear_zero expression), replace_eq, unbound?,
    filled]
  cases (parts expression).findSome? (Part.unbound? context) with
  | some name => simp
  | none =>
      simp only [Except.ok.injEq, true_and]
      rw [← String.toList_inj, String.toList_join, List.flatMap_map]
      exact eq_comm

/-- References with the same values are filled alike. -/
theorem FilledFrom.congr
    {context other : Context}
    {expression : String}
    {position : Nat}
    {text : List Char}
    (same : ∀ position, IsReference expression position →
      other.get? (nameAt expression position) = context.get? (nameAt expression position))
    (filled : FilledFrom context expression position text) :
    FilledFrom other expression position text := by
  induction filled with
  | stop ended => exact .stop ended
  | keep here notHere _ inductionHypothesis => exact .keep here notHere inductionHypothesis
  | fill reference bound _ inductionHypothesis =>
      exact .fill reference ((same _ reference).trans bound) inductionHypothesis

/-- **A replacement fills exactly the references outside of string literals.** It fails exactly if a
reference has no value, with the name of the first such reference of the whole expression. Else the
literal of its value takes the place of each reference, every other character is kept, and what was
filled in is not read again. So a replacement depends only on the values of the names that the
references have. -/
theorem replace_fills_references (context : Context) (expression : String) :
    (∀ name, context.replace expression = .error ⟨name⟩ ↔
        ∃ position, Unbound context expression position ∧
          (∀ earlier < position, ¬ Unbound context expression earlier) ∧
          nameAt expression position = name) ∧
      (∀ text, context.replace expression = .ok text ↔
        FilledFrom context expression 0 text.toList) ∧
      ∀ other : Context,
        (∀ position, IsReference expression position →
          other.get? (nameAt expression position) = context.get? (nameAt expression position)) →
        other.replace expression = context.replace expression := by
  refine ⟨replace_eq_error_iff context expression, replace_eq_ok_iff context expression,
    fun other same => ?_⟩
  cases replaced : context.replace expression with
  | ok text =>
      rw [replace_eq_ok_iff] at replaced ⊢
      exact replaced.congr same
  | error unresolved =>
      have unbound (position : Nat) :
          Unbound other expression position ↔ Unbound context expression position :=
        and_congr_right fun reference => by rw [same position reference]
      rw [replace_eq_error_iff] at replaced
      rw [replace_eq_error_iff]
      simpa only [unbound] using replaced

example : (empty.bind "context" "v").replace "context.context.x" = .ok "\"v\".x" := by
  decide +kernel

end Context
end SqlLineage
