import SqlLineage.Scan.Tables

/-!
# Names of tables and aliases

A name is spelled by its parts with dots between them, and it is read as far as it goes on. What is
written as a name and an alias behind `FROM` or `JOIN` is described here by the tokens alone, and
the readers of names and aliases are shown to take just that off the front of their input.
-/

namespace SqlLineage
namespace Scan

/-! ## Names -/

/-- Tokens are parts of a name, each behind a dot. -/
inductive DottedParts : List Token → List String → Prop
  | nil : DottedParts [] []
  | cons {dot part : Token} {name : String} {tokens : List Token} {names : List String}
      (isDot : dot.kind = .dot)
      (isPart : part.identifier? = some name)
      (others : DottedParts tokens names) :
      DottedParts (dot :: part :: tokens) (name :: names)

/-- Tokens spell a name: its parts, joined by dots. A reserved word does not begin a name unless it
is quoted. -/
inductive Spells : List Token → String → Prop
  | mk {first : Token} {name : String} {tokens : List Token} {names : List String}
      (isPart : first.identifier? = some name)
      (allowed : ¬(first.kind = .word ∧ isReserved name = true))
      (others : DottedParts tokens names) :
      Spells (first :: tokens) (".".intercalate (name :: names))

/-- A name in front of the tokens has another part. -/
def GoesOn (tokens : List Token) : Prop :=
  ∃ dot part rest, tokens = dot :: part :: rest ∧ dot.kind = .dot ∧ part.identifier?.isSome = true

@[simp] theorem not_goesOn_nil : ¬GoesOn [] := by
  simp [GoesOn]

@[simp] theorem not_goesOn_singleton (token : Token) : ¬GoesOn [token] := by
  simp [GoesOn]

@[simp] theorem goesOn_cons_cons (dot part : Token) (rest : List Token) :
    GoesOn (dot :: part :: rest) ↔ dot.kind = .dot ∧ part.identifier?.isSome = true := by
  constructor
  · rintro ⟨_, _, _, equal, isDot, isPart⟩
    cases equal
    exact ⟨isDot, isPart⟩
  · rintro ⟨isDot, isPart⟩
    exact ⟨dot, part, rest, rfl, isDot, isPart⟩

/-- The parts of a name are read to the last one. -/
theorem exists_dottedParts (marks : List Mark) :
    ∃ spelled, marks = spelled ++ (nameParts marks).2 ∧
      DottedParts (spelled.map Mark.token) (nameParts marks).1 ∧
      ¬GoesOn ((nameParts marks).2.map Mark.token) := by
  fun_induction nameParts marks with
  | case1 => exact ⟨[], rfl, .nil, by simp⟩
  | case2 mark => exact ⟨[], rfl, .nil, by simp⟩
  | case3 dot part marks isDot name isPart names rest read inductionHypothesis =>
      obtain ⟨spelled, split, parts, ends⟩ := inductionHypothesis
      rw [read] at split parts ends
      have dotted : dot.token.kind = .dot := by simpa [Mark.is] using isDot
      exact ⟨dot :: part :: spelled, by rw [split]; rfl, .cons dotted isPart parts, ends⟩
  | case4 dot part marks isDot noPart => exact ⟨[], rfl, .nil, by simp [noPart]⟩
  | case5 dot part marks notDot =>
      have undotted : ¬dot.token.kind = .dot := by simpa [Mark.is] using notDot
      exact ⟨[], rfl, .nil, by simp [undotted]⟩

/-- Parts are read if the name ends behind them. -/
theorem DottedParts.nameParts_append
    {tokens : List Token}
    {names : List String}
    (parts : DottedParts tokens names)
    {spelled rest : List Mark}
    (marked : spelled.map Mark.token = tokens)
    (ends : ¬GoesOn (rest.map Mark.token)) :
    nameParts (spelled ++ rest) = (names, rest) := by
  induction parts generalizing spelled with
  | nil =>
      obtain rfl := List.map_eq_nil_iff.1 marked
      match rest, ends with
      | [], _ => rfl
      | [_], _ => rfl
      | dot :: part :: rest, ends =>
          rw [List.nil_append, nameParts]
          split
          next isDot =>
            split
            next isPart =>
              have dotted : dot.token.kind = .dot := by simpa [Mark.is] using isDot
              simp [dotted, isPart] at ends
            next => rfl
          next => rfl
  | cons isDot isPart others inductionHypothesis =>
      obtain ⟨dot, spelled, rfl, rfl, behindDot⟩ := List.map_eq_cons_iff.1 marked
      obtain ⟨part, spelled, rfl, rfl, others⟩ := List.map_eq_cons_iff.1 behindDot
      have dotted : dot.is .dot = true := by simpa [Mark.is] using isDot
      simp only [List.cons_append, nameParts, dotted, if_true, isPart,
        inductionHypothesis others]

/-- A name is read just if it is spelled at the front and ends there. -/
theorem qualifiedName?_eq_some_iff {marks rest : List Mark} {name : String} :
    qualifiedName? marks = some (name, rest) ↔
      ∃ spelled, marks = spelled ++ rest ∧ Spells (spelled.map Mark.token) name ∧
        ¬GoesOn (rest.map Mark.token) := by
  constructor
  · intro read
    cases marks with
    | nil => simp [qualifiedName?] at read
    | cons mark marks =>
        rw [qualifiedName?] at read
        split at read
        next => cases read
        next first isPart =>
          split at read
          next => cases read
          next allowed =>
            obtain ⟨spelled, split, parts, ends⟩ := exists_dottedParts marks
            cases read
            refine ⟨mark :: spelled, by rw [List.cons_append, ← split], ?_, ends⟩
            exact .mk isPart (by simpa [Mark.is] using allowed) parts
  · rintro ⟨spelled, rfl, spells, ends⟩
    generalize marked : spelled.map Mark.token = tokens at spells
    cases spells with
    | @mk first part tokens names isPart allowed others =>
        obtain ⟨mark, spelled, rfl, rfl, behindFirst⟩ := List.map_eq_cons_iff.1 marked
        have unreserved : (mark.is .word && isReserved part) = false := by
          simpa [Mark.is] using allowed
        rw [List.cons_append, qualifiedName?, isPart]
        simp [unreserved, others.nameParts_append behindFirst ends]

/-! ## Aliases -/

namespace Token

/-- Whether the token begins a clause that names tables. -/
def isHead (token : Token) : Bool :=
  token.isKeyword "FROM" || token.isKeyword "JOIN"

/-- Whether the token is an alias: any quoted name, or a word that is not reserved. -/
def isAlias (token : Token) : Bool :=
  token.kind == .quotedIdent || (token.kind == .word && !isReserved token.literal)

theorem kind_of_isKeyword
    {token : Token}
    {keyword : String}
    (spelled : token.isKeyword keyword = true) :
    token.kind = .word := by
  simp only [isKeyword, Bool.and_eq_true, beq_iff_eq] at spelled
  exact spelled.1

theorem isReserved_of_isKeyword
    {token : Token}
    {keyword : String}
    (reserved : keyword ∈ reservedWords)
    (spelled : token.isKeyword keyword = true) :
    isReserved token.literal = true := by
  simp only [isKeyword, Bool.and_eq_true, Text.eqIgnoreAsciiCase, beq_iff_eq] at spelled
  exact List.any_eq_true.2 ⟨keyword, reserved, by simp [Text.eqIgnoreAsciiCase, spelled.2]⟩

theorem kind_of_isHead
    {token : Token}
    (head : token.isHead = true) :
    token.kind = .word := by
  rcases Bool.or_eq_true_iff.1 head with spelled | spelled <;> exact kind_of_isKeyword spelled

/-- A word that begins a clause is reserved. -/
theorem isReserved_of_isHead
    {token : Token}
    (head : token.isHead = true) :
    isReserved token.literal = true := by
  rcases Bool.or_eq_true_iff.1 head with spelled | spelled <;>
    exact isReserved_of_isKeyword (by decide) spelled

end Token

/-- Tokens are an optional alias. Both `AS` and the alias behind it may be missing. -/
inductive IsAlias : List Token → Prop
  | none : IsAlias []
  | bare {label : Token} (isAlias : label.isAlias = true) : IsAlias [label]
  | missing {word : Token} (isAs : word.isKeyword "AS" = true) : IsAlias [word]
  | behindAs {word label : Token} (isAs : word.isKeyword "AS" = true)
      (isAlias : label.isAlias = true) : IsAlias [word, label]

/-- What is skipped is an optional alias. -/
theorem exists_alias (marks : List Mark) :
    ∃ label, marks = label ++ skipAlias marks ∧ IsAlias (label.map Mark.token) := by
  match marks with
  | [] => exact ⟨[], rfl, .none⟩
  | [mark] =>
      simp only [skipAlias, skipBareAlias]
      split
      next isAs => exact ⟨[mark], rfl, .missing isAs⟩
      split
      next isAlias => exact ⟨[mark], rfl, .bare isAlias⟩
      next => exact ⟨[], rfl, .none⟩
  | mark :: next :: marks =>
      simp only [skipAlias, skipBareAlias]
      split
      next isAs =>
        split
        next isAlias => exact ⟨[mark, next], rfl, .behindAs isAs isAlias⟩
        next => exact ⟨[mark], rfl, .missing isAs⟩
      next =>
        split
        next isAlias => exact ⟨[mark], rfl, .bare isAlias⟩
        next => exact ⟨[], rfl, .none⟩

end Scan
end SqlLineage
