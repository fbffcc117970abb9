import SqlLineage.Normalize.Lines

/-!
# Collapsed empty lines

Empty lines are collapsed where three or more of them stand behind the end of a line. The two line
ends that are put in can form a new run with what stands in front of them: a line of indentation that
ends in two carriage returns and a line feed loses one of the returns with the run behind it, and is
an empty line then. A second pass changes the text exactly if another empty line stands in front of
such a line.
-/

namespace SqlLineage
namespace Normalize

/-! ## Line ends -/

/-- A line ends in a line feed, with a carriage return in front of it or without. -/
theorem lineEnd?_eq_some_iff {text rest : List Char} :
    lineEnd? text = some rest ↔ text = '\n' :: rest ∨ text = '\r' :: '\n' :: rest := by
  constructor
  · intro ends
    unfold lineEnd? at ends
    split at ends
    next => exact .inl (by rw [Option.some.inj ends])
    next => exact .inr (by rw [Option.some.inj ends])
    next => cases ends
  · rintro (rfl | rfl) <;> rfl

theorem length_lt_of_lineEnd?
    {text rest : List Char}
    (ends : lineEnd? text = some rest) :
    rest.length < text.length := by
  rcases lineEnd?_eq_some_iff.1 ends with rfl | rfl
  · exact Nat.lt_succ_self _
  · rw [List.length_cons, List.length_cons]
    omega

theorem suffix_of_lineEnd?
    {text rest : List Char}
    (ends : lineEnd? text = some rest) :
    rest <:+ text := by
  rcases lineEnd?_eq_some_iff.1 ends with rfl | rfl
  · exact List.suffix_cons _ _
  · exact (List.suffix_cons _ _).trans (List.suffix_cons _ _)

/-- No line ends in front of indentation. -/
theorem lineEnd?_cons_of_isIndent
    {c : Char}
    (indent : isIndent c = true)
    (text : List Char) :
    lineEnd? (c :: text) = none := by
  rw [Option.eq_none_iff_forall_ne_some]
  intro rest ends
  rcases lineEnd?_eq_some_iff.1 ends with whole | whole
  all_goals
    obtain ⟨rfl, -⟩ := List.cons.inj whole
    exact absurd indent (by decide)

/-! ## Empty lines -/

/-- What is behind an empty line, if one stands here. -/
def emptyLine? (text : List Char) : Option (List Char) :=
  lineEnd? (text.dropWhile isIndent)

theorem emptyLine?_cons_of_isIndent
    {c : Char}
    (indent : isIndent c = true)
    (text : List Char) :
    emptyLine? (c :: text) = emptyLine? text := by
  rw [emptyLine?, List.dropWhile_cons_of_pos indent]
  rfl

theorem emptyLine?_cons_of_not_isIndent
    {c : Char}
    (visible : ¬isIndent c = true)
    (text : List Char) :
    emptyLine? (c :: text) = lineEnd? (c :: text) := by
  rw [emptyLine?, List.dropWhile_cons_of_neg visible]

theorem length_lt_of_emptyLine?
    {text rest : List Char}
    (empty : emptyLine? text = some rest) :
    rest.length < text.length :=
  Nat.lt_of_lt_of_le (length_lt_of_lineEnd? empty) (List.dropWhile_suffix _).length_le

/-- What goes from behind an empty line to the text in front of it holds of all texts, if it holds
where no empty line stands. -/
theorem emptyLines_induction
    {motive : List Char → Prop}
    (none : ∀ text, emptyLine? text = .none → motive text)
    (line : ∀ text rest, emptyLine? text = some rest → motive rest → motive text)
    (text : List Char) :
    motive text := by
  cases empty : emptyLine? text with
  | none => exact none text empty
  | some rest => exact line text rest empty (emptyLines_induction none line rest)
termination_by text.length
decreasing_by exact length_lt_of_emptyLine? empty

theorem emptyLines_succ_of_emptyLine?
    {text rest : List Char}
    (empty : emptyLine? text = some rest)
    (fuel : Nat) :
    emptyLines (fuel + 1) text = ((emptyLines fuel rest).1 + 1, (emptyLines fuel rest).2) := by
  rw [emptyLines, ← emptyLine?, empty]

theorem emptyLines_of_no_emptyLine
    {text : List Char}
    (noLine : emptyLine? text = none)
    (fuel : Nat) :
    emptyLines fuel text = (0, text) := by
  cases fuel with
  | zero => rfl
  | succ fuel => rw [emptyLines, ← emptyLine?, noLine]

/-- More lines than there are characters need not be counted. -/
theorem emptyLines_of_length_le
    {fuel : Nat}
    {text : List Char}
    (enough : text.length ≤ fuel) :
    emptyLines fuel text = emptyLines text.length text := by
  induction text using emptyLines_induction generalizing fuel with
  | none text noLine => rw [emptyLines_of_no_emptyLine noLine, emptyLines_of_no_emptyLine noLine]
  | line text rest empty inductionHypothesis =>
      have shorter := length_lt_of_emptyLine? empty
      obtain ⟨length, isLength⟩ : ∃ length, text.length = length + 1 :=
        Nat.exists_eq_add_one_of_ne_zero (by omega)
      obtain ⟨fuel, rfl⟩ : ∃ less, fuel = less + 1 :=
        Nat.exists_eq_add_one_of_ne_zero (by omega)
      have later (enough : rest.length ≤ length) :
          emptyLines length rest = emptyLines rest.length rest := inductionHypothesis enough
      rw [isLength, emptyLines_succ_of_emptyLine? empty, emptyLines_succ_of_emptyLine? empty,
        inductionHypothesis (by omega), later (by omega)]

/-- How many empty lines stand here. -/
def emptyCount (text : List Char) : Nat :=
  (emptyLines text.length text).1

/-- What is behind the empty lines that stand here. -/
def behindEmpty (text : List Char) : List Char :=
  (emptyLines text.length text).2

section

variable {text rest behind : List Char}

theorem emptyLines_of_emptyLine?
    (empty : emptyLine? text = some rest) :
    emptyLines text.length text = (emptyCount rest + 1, behindEmpty rest) := by
  have shorter := length_lt_of_emptyLine? empty
  obtain ⟨length, isLength⟩ : ∃ length, text.length = length + 1 :=
    Nat.exists_eq_add_one_of_ne_zero (by omega)
  have later : emptyLines length rest = emptyLines rest.length rest :=
    emptyLines_of_length_le (by omega)
  rw [isLength, emptyLines_succ_of_emptyLine? empty, later]
  rfl

theorem emptyCount_of_emptyLine?
    (empty : emptyLine? text = some rest) :
    emptyCount text = emptyCount rest + 1 := by
  rw [emptyCount, emptyLines_of_emptyLine? empty]

theorem behindEmpty_of_emptyLine?
    (empty : emptyLine? text = some rest) :
    behindEmpty text = behindEmpty rest := by
  rw [behindEmpty, emptyLines_of_emptyLine? empty]

theorem emptyCount_of_no_emptyLine
    (noLine : emptyLine? text = none) :
    emptyCount text = 0 := by
  rw [emptyCount, emptyLines_of_no_emptyLine noLine]

theorem behindEmpty_of_no_emptyLine
    (noLine : emptyLine? text = none) :
    behindEmpty text = text := by
  rw [behindEmpty, emptyLines_of_no_emptyLine noLine]

theorem emptyLine?_behindEmpty (text : List Char) : emptyLine? (behindEmpty text) = none := by
  induction text using emptyLines_induction with
  | none text noLine => rwa [behindEmpty_of_no_emptyLine noLine]
  | line text rest empty inductionHypothesis => rwa [behindEmpty_of_emptyLine? empty]

theorem behindEmpty_suffix (text : List Char) : behindEmpty text <:+ text := by
  induction text using emptyLines_induction with
  | none text noLine => exact ⟨[], behindEmpty_of_no_emptyLine noLine⟩
  | line text rest empty inductionHypothesis =>
      rw [behindEmpty_of_emptyLine? empty]
      exact (inductionHypothesis.trans (suffix_of_lineEnd? empty)).trans (List.dropWhile_suffix _)

theorem length_behindEmpty_add_le (text : List Char) :
    (behindEmpty text).length + emptyCount text ≤ text.length := by
  induction text using emptyLines_induction with
  | none text noLine =>
      rw [behindEmpty_of_no_emptyLine noLine, emptyCount_of_no_emptyLine noLine]
      omega
  | line text rest empty inductionHypothesis =>
      have shorter := length_lt_of_emptyLine? empty
      rw [behindEmpty_of_emptyLine? empty, emptyCount_of_emptyLine? empty]
      omega

/-- The first character of empty lines belongs to them. -/
theorem behindEmpty_cons
    {c : Char}
    (empty : emptyLine? (c :: text) = some rest) :
    behindEmpty (c :: text) = behindEmpty text := by
  by_cases indent : isIndent c = true
  · have tailEmpty : emptyLine? text = some rest := by
      rwa [emptyLine?_cons_of_isIndent indent] at empty
    rw [behindEmpty_of_emptyLine? empty, behindEmpty_of_emptyLine? tailEmpty]
  · rw [behindEmpty_of_emptyLine? empty]
    rw [emptyLine?_cons_of_not_isIndent indent] at empty
    rcases lineEnd?_eq_some_iff.1 empty with whole | whole
    · rw [(List.cons.inj whole).2]
    · have lineEnd : emptyLine? ('\n' :: rest) = some rest := rfl
      rw [(List.cons.inj whole).2, behindEmpty_of_emptyLine? lineEnd]

/-- Behind any line end among empty lines stand the others of them. -/
theorem behindEmpty_of_suffix
    {here : List Char}
    (within : here <:+ text)
    (longer : (behindEmpty text).length < here.length)
    (ends : lineEnd? here = some rest) :
    behindEmpty rest = behindEmpty text := by
  induction text with
  | nil =>
      rw [List.suffix_nil.1 within] at ends
      cases ends
  | cons c text inductionHypothesis =>
      -- The first line is empty: otherwise all of the text would be behind no empty lines.
      have empty : ∃ behind, emptyLine? (c :: text) = some behind := by
        rw [← Option.ne_none_iff_exists']
        intro noLine
        rw [behindEmpty_of_no_emptyLine noLine] at longer
        exact absurd within.length_le (Nat.not_le.2 longer)
      obtain ⟨behind, empty⟩ := empty
      rcases List.suffix_cons_iff.1 within with rfl | within
      · have visible : ¬isIndent c = true := by
          intro indent
          rw [lineEnd?_cons_of_isIndent indent] at ends
          cases ends
        rw [← emptyLine?_cons_of_not_isIndent visible] at ends
        exact (behindEmpty_of_emptyLine? ends).symm
      · rw [behindEmpty_cons empty] at longer ⊢
        exact inductionHypothesis within longer

end

/-! ## Runs of empty lines -/

section

variable {text rest behind : List Char}

/-- A run begins at the end of a line and goes on with three or more empty lines. -/
theorem gap?_eq_some_iff :
    gap? text = some behind ↔
      ∃ rest, lineEnd? text = some rest ∧ 3 ≤ emptyCount rest ∧ behindEmpty rest = behind := by
  unfold gap?
  cases ends : lineEnd? text with
  | none => simp
  | some rest => simp [emptyCount, behindEmpty]

theorem length_add_four_le_of_gap?
    (gap : gap? text = some behind) :
    behind.length + 4 ≤ text.length := by
  obtain ⟨rest, ends, three, rfl⟩ := gap?_eq_some_iff.1 gap
  have shorter := length_lt_of_lineEnd? ends
  have counted := length_behindEmpty_add_le rest
  omega

theorem suffix_of_gap?
    (gap : gap? text = some behind) :
    behind <:+ text := by
  obtain ⟨rest, ends, -, rfl⟩ := gap?_eq_some_iff.1 gap
  exact (behindEmpty_suffix rest).trans (suffix_of_lineEnd? ends)

theorem gap?_eq_none_of_le_two
    (ends : lineEnd? text = some rest)
    (few : emptyCount rest ≤ 2) :
    gap? text = none := by
  rw [Option.eq_none_iff_forall_ne_some]
  intro behind gap
  obtain ⟨other, sameEnds, three, -⟩ := gap?_eq_some_iff.1 gap
  obtain rfl := Option.some.inj (ends.symm.trans sameEnds)
  omega

theorem gap?_cons_of_isIndent
    {c : Char}
    (indent : isIndent c = true)
    (text : List Char) :
    gap? (c :: text) = none := by
  rw [gap?, lineEnd?_cons_of_isIndent indent]

theorem emptyCount_le_two_of_no_gap
    (noGap : gap? text = none)
    (ends : lineEnd? text = some rest) :
    emptyCount rest ≤ 2 := by
  apply Nat.le_of_not_lt
  intro more
  have gap := gap?_eq_some_iff.2 ⟨rest, ends, more, rfl⟩
  rw [noGap] at gap
  cases gap

/-- The text with one empty line in place of each run. -/
def collapsed (text : List Char) : List Char :=
  collapse text.length text

theorem toList_collapseBlankLines (text : String) :
    (collapseBlankLines text).toList = collapsed text.toList := by
  rw [collapseBlankLines, String.toList_ofList]
  rfl

theorem collapse_of_length_le
    {fuel : Nat}
    (enough : text.length ≤ fuel) :
    collapse fuel text = collapsed text := by
  have same (bound : Nat) {first second : Nat} {text : List Char} (short : text.length ≤ bound)
      (inFirst : text.length ≤ first) (inSecond : text.length ≤ second) :
      collapse first text = collapse second text := by
    induction bound generalizing first second text with
    | zero =>
        obtain rfl := List.length_eq_zero_iff.1 (Nat.le_zero.1 short)
        cases first <;> cases second <;> rfl
    | succ bound inductionHypothesis =>
        cases text with
        | nil => cases first <;> cases second <;> rfl
        | cons c rest =>
            rw [List.length_cons] at short inFirst inSecond
            obtain ⟨first, rfl⟩ : ∃ less, first = less + 1 :=
              Nat.exists_eq_add_one_of_ne_zero (by omega)
            obtain ⟨second, rfl⟩ : ∃ less, second = less + 1 :=
              Nat.exists_eq_add_one_of_ne_zero (by omega)
            rw [collapse, collapse]
            cases gap : gap? (c :: rest) with
            | none =>
                simp only
                have later : collapse first rest = collapse second rest :=
                  inductionHypothesis (by omega) (by omega) (by omega)
                rw [later]
            | some behind =>
                have shorter := length_add_four_le_of_gap? gap
                rw [List.length_cons] at shorter
                have later : collapse first behind = collapse second behind :=
                  inductionHypothesis (by omega) (by omega) (by omega)
                simp only
                rw [later]
  exact same text.length (Nat.le_refl _) enough (Nat.le_refl _)

theorem collapsed_of_gap
    (gap : gap? text = some behind) :
    collapsed text = '\n' :: '\n' :: collapsed behind := by
  have shorter := length_add_four_le_of_gap? gap
  cases text with
  | nil => cases gap
  | cons c rest =>
      rw [List.length_cons] at shorter
      rw [collapsed, List.length_cons, collapse, gap]
      simp only
      rw [collapse_of_length_le (by omega)]

theorem collapsed_of_no_gap
    {c : Char}
    (noGap : gap? (c :: text) = none) :
    collapsed (c :: text) = c :: collapsed text := by
  rw [collapsed, List.length_cons, collapse, noGap]
  rfl

/-- What goes from behind a run to the text in front of it, and from behind a character where no run
begins, holds of all texts. -/
theorem collapsed_induction
    {motive : List Char → Prop}
    (nil : motive [])
    (gap : ∀ text behind, gap? text = some behind → motive behind → motive text)
    (keep : ∀ c text, gap? (c :: text) = none → motive text → motive (c :: text))
    (text : List Char) :
    motive text := by
  match text with
  | [] => exact nil
  | c :: rest =>
      cases isGap : gap? (c :: rest) with
      | some behind => exact gap _ behind isGap (collapsed_induction nil gap keep behind)
      | none => exact keep c rest isGap (collapsed_induction nil gap keep rest)
termination_by text.length
decreasing_by
  · exact Nat.lt_succ_self _
  · have shorter := length_add_four_le_of_gap? isGap
    omega

/-! ## Texts without runs -/

/-- No run begins anywhere in a text. -/
def GapFree (text : List Char) : Prop :=
  ∀ rest, rest <:+ text → gap? rest = none

theorem gapFree_nil : GapFree [] := by
  intro rest within
  rw [List.suffix_nil.1 within]
  rfl

theorem gapFree_cons_iff {c : Char} :
    GapFree (c :: text) ↔ gap? (c :: text) = none ∧ GapFree text := by
  constructor
  · intro free
    refine ⟨free _ List.suffix_rfl, fun rest within => ?_⟩
    exact free rest (within.trans (List.suffix_cons c text))
  · rintro ⟨here, later⟩ rest within
    rcases List.suffix_cons_iff.1 within with rfl | within
    · exact here
    · exact later rest within

theorem length_collapsed_le (text : List Char) : (collapsed text).length ≤ text.length := by
  induction text using collapsed_induction with
  | nil => exact Nat.le_refl _
  | gap text behind gap inductionHypothesis =>
      have shorter := length_add_four_le_of_gap? gap
      rw [collapsed_of_gap gap, List.length_cons, List.length_cons]
      omega
  | keep c text noGap inductionHypothesis =>
      rw [collapsed_of_no_gap noGap, List.length_cons, List.length_cons]
      omega

/-- Collapsing changes nothing exactly if there is no run. -/
theorem collapsed_eq_self_iff : collapsed text = text ↔ GapFree text := by
  induction text using collapsed_induction with
  | nil => exact ⟨fun _ => gapFree_nil, fun _ => rfl⟩
  | gap text behind gap inductionHypothesis =>
      constructor
      · intro same
        have lengths := congrArg List.length same
        have shorter := length_add_four_le_of_gap? gap
        have bound := length_collapsed_le behind
        rw [collapsed_of_gap gap, List.length_cons, List.length_cons] at lengths
        omega
      · intro free
        have noGap := free text List.suffix_rfl
        rw [gap] at noGap
        cases noGap
  | keep c text noGap inductionHypothesis =>
      rw [collapsed_of_no_gap noGap, gapFree_cons_iff, ← inductionHypothesis]
      simp [noGap]

end

/-! ## Line ends in a collapsed text -/

/-- A line whose end has a second carriage return stands here, in front of a run of empty lines. -/
def StrayReturn (text : List Char) : Prop :=
  ∃ rest, text = '\r' :: '\r' :: '\n' :: rest ∧ 3 ≤ emptyCount rest

section

variable {text rest behind : List Char}

/-- Indentation is kept. -/
theorem dropWhile_isIndent_collapsed (text : List Char) :
    (collapsed text).dropWhile isIndent = collapsed (text.dropWhile isIndent) := by
  induction text with
  | nil => rfl
  | cons c text inductionHypothesis =>
      by_cases indent : isIndent c = true
      · rw [collapsed_of_no_gap (gap?_cons_of_isIndent indent text),
          List.dropWhile_cons_of_pos indent, List.dropWhile_cons_of_pos indent,
          inductionHypothesis]
      · rw [List.dropWhile_cons_of_neg indent]
        cases gap : gap? (c :: text) with
        | none => rw [collapsed_of_no_gap gap, List.dropWhile_cons_of_neg indent]
        | some behind => rw [collapsed_of_gap gap, List.dropWhile_cons_of_neg (by decide)]

theorem lineEnd?_collapsed
    (noGap : gap? text = none)
    (ends : lineEnd? text = some rest) :
    lineEnd? (collapsed text) = some (collapsed rest) := by
  rcases lineEnd?_eq_some_iff.1 ends with rfl | rfl
  · rw [collapsed_of_no_gap noGap]
    rfl
  · have noGapBehind : gap? ('\n' :: rest) = none := noGap
    rw [collapsed_of_no_gap noGap, collapsed_of_no_gap noGapBehind]
    rfl

/-- A carriage return becomes the beginning of a line end if a run behind it loses its own. -/
theorem StrayReturn.exists_lineEnd?_collapsed
    (stray : StrayReturn text) :
    ∃ rest behind, text = '\r' :: rest ∧ gap? rest = some behind ∧
      lineEnd? (collapsed text) = some ('\n' :: collapsed behind) := by
  obtain ⟨rest, rfl, three⟩ := stray
  have gap : gap? ('\r' :: '\n' :: rest) = some (behindEmpty rest) :=
    gap?_eq_some_iff.2 ⟨rest, rfl, three, rfl⟩
  refine ⟨_, _, rfl, gap, ?_⟩
  rw [collapsed_of_no_gap rfl, collapsed_of_gap gap]
  rfl

/-- No other line ends come in. -/
theorem lineEnd?_collapsed_eq_none
    (noEnd : lineEnd? text = none)
    (noStray : ¬StrayReturn text) :
    lineEnd? (collapsed text) = none := by
  cases text with
  | nil => rfl
  | cons c text =>
      have noGap : gap? (c :: text) = none := by
        rw [gap?, noEnd]
      rw [collapsed_of_no_gap noGap, Option.eq_none_iff_forall_ne_some]
      intro rest ends
      rcases lineEnd?_eq_some_iff.1 ends with whole | whole
      · obtain ⟨rfl, -⟩ := List.cons.inj whole
        cases noEnd
      · obtain ⟨rfl, feed⟩ := List.cons.inj whole
        cases text with
        | nil => cases feed
        | cons d text =>
            cases gap : gap? (d :: text) with
            | none =>
                rw [collapsed_of_no_gap gap] at feed
                obtain ⟨rfl, -⟩ := List.cons.inj feed
                cases noEnd
            | some behind =>
                obtain ⟨rest, ends, three, -⟩ := gap?_eq_some_iff.1 gap
                rcases lineEnd?_eq_some_iff.1 ends with front | front
                · obtain ⟨rfl, -⟩ := List.cons.inj front
                  cases noEnd
                · exact noStray ⟨rest, by rw [front], three⟩

/-! ## Empty lines in a collapsed text -/

/-- No line becomes empty without a stray return. -/
theorem emptyCount_collapsed_of_not_strayReturn
    (noLine : emptyLine? text = none)
    (noStray : ¬StrayReturn (text.dropWhile isIndent)) :
    emptyCount (collapsed text) = 0 := by
  apply emptyCount_of_no_emptyLine
  rw [emptyLine?, dropWhile_isIndent_collapsed]
  exact lineEnd?_collapsed_eq_none noLine noStray

/-- A stray return gives two empty lines, and those behind the run come in. -/
theorem exists_emptyCount_collapsed_of_strayReturn
    (stray : StrayReturn (text.dropWhile isIndent)) :
    ∃ here behind, here <:+ text ∧ gap? here = some behind ∧
      emptyCount (collapsed text) = emptyCount (collapsed behind) + 2 := by
  obtain ⟨here, behind, whole, gap, ends⟩ := stray.exists_lineEnd?_collapsed
  have within : here <:+ text := by
    have inIndent : '\r' :: here <:+ text := by
      rw [← whole]
      exact List.dropWhile_suffix _
    exact (List.suffix_cons _ _).trans inIndent
  refine ⟨here, behind, within, gap, ?_⟩
  rw [← dropWhile_isIndent_collapsed] at ends
  have second : emptyLine? ('\n' :: collapsed behind) = some (collapsed behind) := rfl
  rw [emptyCount_of_emptyLine? ends, emptyCount_of_emptyLine? second]

/-- Too few empty lines for a run stay as many, and those behind them come in. -/
theorem emptyCount_collapsed
    (few : emptyCount text ≤ 3) :
    emptyCount (collapsed text) = emptyCount text + emptyCount (collapsed (behindEmpty text)) := by
  induction text using emptyLines_induction with
  | none text noLine =>
      rw [behindEmpty_of_no_emptyLine noLine, emptyCount_of_no_emptyLine noLine, Nat.zero_add]
  | line text rest empty inductionHypothesis =>
      rw [emptyCount_of_emptyLine? empty] at few
      have noGap : gap? (text.dropWhile isIndent) = none := by
        rw [Option.eq_none_iff_forall_ne_some]
        intro behind gap
        obtain ⟨other, ends, three, -⟩ := gap?_eq_some_iff.1 gap
        obtain rfl := Option.some.inj (ends.symm.trans empty)
        omega
      have emptyCollapsed : emptyLine? (collapsed text) = some (collapsed rest) := by
        rw [emptyLine?, dropWhile_isIndent_collapsed]
        exact lineEnd?_collapsed noGap empty
      rw [emptyCount_of_emptyLine? emptyCollapsed, inductionHypothesis (by omega),
        emptyCount_of_emptyLine? empty, behindEmpty_of_emptyLine? empty]
      omega

/-! ## A second pass -/

/-- A line end and one or more empty lines stand here, and behind them a line of indentation whose end
has a second carriage return, in front of a run of empty lines. -/
def StrayReturnBehindEmptyLine (text : List Char) : Prop :=
  ∃ rest, lineEnd? text = some rest ∧ 1 ≤ emptyCount rest ∧
    StrayReturn ((behindEmpty rest).dropWhile isIndent)

/-- Where no such line stands behind a run, no empty line comes in behind it. -/
theorem emptyCount_collapsed_behind_gap
    (gap : gap? text = some behind)
    (noStray : ¬StrayReturnBehindEmptyLine text) :
    emptyCount (collapsed behind) = 0 := by
  obtain ⟨rest, ends, three, rfl⟩ := gap?_eq_some_iff.1 gap
  apply emptyCount_collapsed_of_not_strayReturn (emptyLine?_behindEmpty rest)
  intro stray
  exact noStray ⟨rest, ends, by omega, stray⟩

/-- A collapsed text has no runs if there is no such line. -/
theorem gapFree_collapsed
    (noStray : ∀ here, here <:+ text → ¬StrayReturnBehindEmptyLine here) :
    GapFree (collapsed text) := by
  induction text using collapsed_induction with
  | nil => exact gapFree_nil
  | gap text behind gap inductionHypothesis =>
      have nothing := emptyCount_collapsed_behind_gap gap (noStray text List.suffix_rfl)
      have second : emptyLine? ('\n' :: collapsed behind) = some (collapsed behind) := rfl
      rw [collapsed_of_gap gap, gapFree_cons_iff, gapFree_cons_iff]
      refine ⟨gap?_eq_none_of_le_two rfl ?_, gap?_eq_none_of_le_two rfl ?_, inductionHypothesis ?_⟩
      · rw [emptyCount_of_emptyLine? second]
        omega
      · omega
      · intro here inBehind
        exact noStray here (inBehind.trans (suffix_of_gap? gap))
  | keep c text noGap inductionHypothesis =>
      have later : GapFree (collapsed text) := by
        apply inductionHypothesis
        intro here inText
        exact noStray here (inText.trans (List.suffix_cons c text))
      rw [collapsed_of_no_gap noGap, gapFree_cons_iff, ← collapsed_of_no_gap noGap]
      refine ⟨?_, later⟩
      cases ends : lineEnd? (c :: text) with
      | some rest =>
          apply gap?_eq_none_of_le_two (lineEnd?_collapsed noGap ends)
          have few := emptyCount_le_two_of_no_gap noGap ends
          rw [emptyCount_collapsed (by omega)]
          by_cases stray : StrayReturn ((behindEmpty rest).dropWhile isIndent)
          · -- No empty line is in front of the stray return, which gives two.
            have noLine : emptyCount rest = 0 := by
              apply Nat.eq_zero_of_not_pos
              intro one
              exact noStray _ List.suffix_rfl ⟨rest, ends, one, stray⟩
            obtain ⟨here, behind, within, gap, two⟩ :=
              exists_emptyCount_collapsed_of_strayReturn stray
            have inText : here <:+ c :: text :=
              (within.trans (behindEmpty_suffix rest)).trans (suffix_of_lineEnd? ends)
            have nothing := emptyCount_collapsed_behind_gap gap (noStray here inText)
            omega
          · have nothing := emptyCount_collapsed_of_not_strayReturn (emptyLine?_behindEmpty rest)
              stray
            omega
      | none =>
          by_cases stray : StrayReturn (c :: text)
          · obtain ⟨here, behind, whole, gap, comesIn⟩ := stray.exists_lineEnd?_collapsed
            obtain ⟨rfl, rfl⟩ := List.cons.inj whole
            apply gap?_eq_none_of_le_two comesIn
            have second : emptyLine? ('\n' :: collapsed behind) = some (collapsed behind) := rfl
            rw [emptyCount_of_emptyLine? second,
              emptyCount_collapsed_behind_gap gap (noStray text (List.suffix_cons _ _))]
            omega
          · rw [gap?, lineEnd?_collapsed_eq_none ends stray]

/-- A collapsed text has a run if there is such a line. -/
theorem not_gapFree_collapsed
    {here : List Char}
    (within : here <:+ text)
    (stray : StrayReturnBehindEmptyLine here) :
    ¬GapFree (collapsed text) := by
  obtain ⟨rest, ends, one, strayReturn⟩ := stray
  obtain ⟨inside, behindRun, -, -, two⟩ := exists_emptyCount_collapsed_of_strayReturn strayReturn
  induction text using collapsed_induction with
  | nil =>
      rw [List.suffix_nil.1 within] at ends
      cases ends
  | gap text behind gap inductionHypothesis =>
      rw [collapsed_of_gap gap, gapFree_cons_iff, gapFree_cons_iff]
      rintro ⟨noGap, -, later⟩
      by_cases short : here.length ≤ behind.length
      · exact inductionHypothesis
          (List.suffix_of_suffix_length_le within (suffix_of_gap? gap) short) later
      · -- The line end is among those of the run, so that the stray return is behind the run.
        obtain ⟨first, firstEnds, -, rfl⟩ := gap?_eq_some_iff.1 gap
        have firstLine : emptyLine? text = some first := by
          cases text with
          | nil => cases firstEnds
          | cons c text =>
              rw [emptyLine?_cons_of_not_isIndent ?_, firstEnds]
              intro indent
              rw [lineEnd?_cons_of_isIndent indent] at firstEnds
              cases firstEnds
        have sameBehind := behindEmpty_of_suffix within
          (by rw [behindEmpty_of_emptyLine? firstLine]; omega) ends
        rw [behindEmpty_of_emptyLine? firstLine] at sameBehind
        have second : emptyLine? ('\n' :: collapsed (behindEmpty first)) =
            some (collapsed (behindEmpty first)) := rfl
        have few := emptyCount_le_two_of_no_gap noGap rfl
        rw [emptyCount_of_emptyLine? second, ← sameBehind] at few
        omega
  | keep c text noGap inductionHypothesis =>
      rw [collapsed_of_no_gap noGap, gapFree_cons_iff, ← collapsed_of_no_gap noGap]
      rintro ⟨noGapCollapsed, later⟩
      rcases List.suffix_cons_iff.1 within with rfl | within
      · have few := emptyCount_le_two_of_no_gap noGap ends
        have fewCollapsed :=
          emptyCount_le_two_of_no_gap noGapCollapsed (lineEnd?_collapsed noGap ends)
        rw [emptyCount_collapsed (by omega)] at fewCollapsed
        omega
      · exact inductionHypothesis within later

end

/-- **When collapsing twice is collapsing once.** A second pass changes nothing exactly if nowhere
behind a line end and one or more empty lines stands a line of indentation whose end has a second
carriage return, in front of a run of empty lines. So it changes nothing if no line end has a second
carriage return. -/
theorem collapse_again_iff_no_strayReturn (text : String) :
    (collapseBlankLines (collapseBlankLines text) = collapseBlankLines text ↔
      ∀ here, here <:+ text.toList → ¬StrayReturnBehindEmptyLine here) ∧
      (¬['\r', '\r', '\n'] <:+: text.toList →
        collapseBlankLines (collapseBlankLines text) = collapseBlankLines text) := by
  have again : collapseBlankLines (collapseBlankLines text) = collapseBlankLines text ↔
      ∀ here, here <:+ text.toList → ¬StrayReturnBehindEmptyLine here := by
    rw [← String.toList_inj, toList_collapseBlankLines, toList_collapseBlankLines,
      collapsed_eq_self_iff]
    constructor
    · intro free here within stray
      exact not_gapFree_collapsed within stray free
    · exact gapFree_collapsed
  refine ⟨again, fun noReturn => again.2 ?_⟩
  rintro here within ⟨rest, ends, -, behind, whole, -⟩
  apply noReturn
  have inRest : '\r' :: '\r' :: '\n' :: behind <:+ rest := by
    rw [← whole]
    exact (List.dropWhile_suffix _).trans (behindEmpty_suffix rest)
  have inText := (inRest.trans (suffix_of_lineEnd? ends)).trans within
  exact (List.prefix_append ['\r', '\r', '\n'] behind).isInfix.trans inText.isInfix

/-- An empty line comes in behind another one, and with those of the run behind it they collapse
again. -/
theorem strayReturn_collapses_again :
    collapseBlankLines "\n\n\r\r\n\n\n\n" = "\n\n\r\n\n" ∧
      collapseBlankLines (collapseBlankLines "\n\n\r\r\n\n\n\n") = "\n\n" := by
  decide +kernel

end Normalize
end SqlLineage
