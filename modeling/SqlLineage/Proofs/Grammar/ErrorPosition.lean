import Mathlib.Data.List.Infix
import Mathlib.Data.List.TakeWhile
import SqlLineage.Grammar
import SqlLineage.Proofs.Text.Blank
import SqlLineage.Proofs.Text.MachineWord

/-!
# Positions in error messages

A grammar writes a line and a column behind its message, and the first places of the text that look
like a line and a column are read. So the position is read back if the message itself does not look
as if it named one; a message that quotes such a text hides the position behind it.
-/

namespace SqlLineage
namespace SqlError

/-- A message with a line and a column behind it, as a grammar writes them. -/
def positioned (message : String) (line column : Nat) : String :=
  message ++ s!" at Line: {line}, Column: {column}"

theorem positioned_eq_append_suffix
    (message : String)
    {position : Grammar.Position}
    (known : position.line ≠ 0) :
    positioned message position.line position.column = message ++ position.suffix := by
  rw [positioned, Grammar.Position.suffix, if_neg known]

/-- A message with a blank behind it holds a marker. -/
def Marks (marker message : String) : Prop :=
  marker.toList <:+: (message ++ " ").toList

instance (marker message : String) : Decidable (Marks marker message) :=
  inferInstanceAs (Decidable (_ <:+: _))

/-! ## The first occurrence -/

/-- The marker is found exactly if it stands in the text. -/
theorem isSome_behind?_iff (marker text : List Char) :
    (behind? marker text).isSome ↔ marker <:+: text := by
  induction text with
  | nil =>
      rw [behind?, List.infix_nil]
      cases marker <;> simp
  | cons c text inductionHypothesis =>
      rw [behind?, List.infix_cons_iff, ← inductionHypothesis, ← List.isPrefixOf_iff_prefix]
      by_cases here : marker.isPrefixOf (c :: text) = true <;> simp [here]

/-- Text in which a marker does not begin is passed over. -/
theorem behind?_append_of_not_mem
    {first : Char}
    {text : List Char}
    (absent : first ∉ text)
    (others rest : List Char) :
    behind? (first :: others) (text ++ rest) = behind? (first :: others) rest := by
  induction text with
  | nil => rfl
  | cons c text inductionHypothesis =>
      obtain ⟨different, later⟩ := not_or.1 (mt List.mem_cons.2 absent)
      have elsewhere : ¬(first :: others).isPrefixOf (c :: (text ++ rest)) = true := by
        simp [List.isPrefixOf, different]
      rw [List.cons_append, behind?, if_neg elsewhere, inductionHypothesis later]

theorem behind?_append_self
    {marker : List Char}
    (nonempty : marker ≠ [])
    (rest : List Char) :
    behind? marker (marker ++ rest) = some rest := by
  obtain ⟨first, others, rfl⟩ := List.exists_cons_of_ne_nil nonempty
  have here : (first :: others).isPrefixOf (first :: others ++ rest) = true :=
    List.isPrefixOf_iff_prefix.2 (List.prefix_append _ _)
  rw [List.cons_append] at here ⊢
  rw [behind?, if_pos here, ← List.cons_append, List.drop_left]

/-- A word with a blank behind it does not reach over a blank. -/
theorem prefix_append_blank_iff
    {word : List Char}
    (visible : ' ' ∉ word)
    (text rest : List Char) :
    word ++ [' '] <+: text ++ ' ' :: rest ↔ word ++ [' '] <+: text ++ [' '] := by
  induction text generalizing word with
  | nil =>
      cases word with
      | nil => simp
      | cons c word =>
          have different : c ≠ ' ' := fun same => visible (same ▸ List.mem_cons_self)
          simp [different]
  | cons c text inductionHypothesis =>
      cases word with
      | nil => simp
      | cons d word =>
          have later := inductionHypothesis (mt (List.mem_cons_of_mem d) visible)
          simpa using and_congr_right fun _ => later

/-- A word with a blank behind it is found up to a blank, or behind it. -/
theorem behind?_append_blank
    {word : List Char}
    (visible : ' ' ∉ word)
    (nonempty : word ≠ [])
    (text rest : List Char) :
    behind? (word ++ [' ']) (text ++ ' ' :: rest) =
      ((behind? (word ++ [' ']) (text ++ [' '])).map (· ++ rest)).or
        (behind? (word ++ [' ']) rest) := by
  induction text with
  | nil =>
      obtain ⟨first, others, rfl⟩ := List.exists_cons_of_ne_nil nonempty
      have absent : first ∉ [' '] := fun same => visible (List.mem_singleton.1 same ▸ .head _)
      have blank (rest : List Char) : behind? (first :: others ++ [' ']) (' ' :: rest) =
          behind? (first :: others ++ [' ']) rest :=
        behind?_append_of_not_mem absent (others ++ [' ']) rest
      rw [List.nil_append, List.nil_append, blank, blank]
      rfl
  | cons c text inductionHypothesis =>
      have here_iff := prefix_append_blank_iff visible (c :: text) rest
      rw [List.cons_append, List.cons_append, ← List.isPrefixOf_iff_prefix,
        ← List.isPrefixOf_iff_prefix] at here_iff
      rw [List.cons_append, List.cons_append, behind?, behind?]
      by_cases here : (word ++ [' ']).isPrefixOf (c :: (text ++ [' '])) = true
      · have within := (List.isPrefixOf_iff_prefix.1 here).length_le
        have split : c :: (text ++ ' ' :: rest) = c :: (text ++ [' ']) ++ rest := by simp
        rw [if_pos here, if_pos (here_iff.2 here), split, List.drop_append_of_le_length within]
        rfl
      · rw [if_neg here, if_neg (mt here_iff.1 here), inductionHypothesis]

/-! ## The number behind a marker -/

/-- The number in front of other text, behind blanks, if it fits a machine word. -/
def numberIn? (text : List Char) : Option Nat :=
  (Text.readWord (String.ofList ((text.dropWhile Text.isBlank).takeWhile
    Text.isAsciiDigit))).toOption

theorem numberBehind?_eq (marker message : String) :
    numberBehind? marker message = (behind? marker.toList message.toList).bind numberIn? := rfl

/-- A number ends where other text begins. -/
theorem numberIn?_append
    (text : List Char)
    {c : Char}
    (visible : Text.isBlank c = false)
    (noDigit : Text.isAsciiDigit c = false)
    (rest : List Char) :
    numberIn? (text ++ c :: rest) = numberIn? text := by
  have blanks : (text ++ c :: rest).dropWhile Text.isBlank =
      text.dropWhile Text.isBlank ++ c :: rest := by
    rw [List.dropWhile_append]
    split
    next empty =>
      rw [List.isEmpty_iff.1 empty, List.nil_append, List.dropWhile_cons_of_neg (by simp [visible])]
    next => rfl
  have digits (front : List Char) : (front ++ c :: rest).takeWhile Text.isAsciiDigit =
      front.takeWhile Text.isAsciiDigit := by
    rw [List.takeWhile_append]
    split
    next whole =>
      rw [List.takeWhile_cons_of_neg (by simp [noDigit]), List.append_nil,
        (List.takeWhile_prefix _).eq_of_length whole]
    next => rfl
  rw [numberIn?, numberIn?, blanks, digits]

theorem numberIn?_toDigits
    {number : Nat}
    (fits : number < Text.wordLimit) :
    numberIn? (Nat.toDigits 10 number) = some number := by
  have areDigits : ∀ c ∈ Nat.toDigits 10 number, Text.isAsciiDigit c = true :=
    fun c member => Text.isAsciiDigit_of_mem_toDigits member
  have visible : ∀ c ∈ Nat.toDigits 10 number, ¬Text.isBlank c = true := fun c member blank =>
    Bool.false_ne_true ((Text.eq_false_of_isBlank blank Text.isAsciiDigit (by decide)).symm.trans
      (areDigits c member))
  have noBlanks : (Nat.toDigits 10 number).dropWhile Text.isBlank = Nat.toDigits 10 number :=
    List.dropWhile_eq_self_iff.2 fun _ => visible _ (List.getElem_mem _)
  rw [numberIn?, noBlanks, List.takeWhile_eq_self_iff.2 areDigits, Text.readWord_toDigits fits]
  rfl

/-- The number behind a marker in a text with a blank behind it is that of the text, whatever comes
behind the blank. -/
theorem bind_behind?_append_blank
    {word : List Char}
    (visible : ' ' ∉ word)
    (nonempty : word ≠ [])
    (text : List Char)
    {c : Char}
    (noBlank : Text.isBlank c = false)
    (noDigit : Text.isAsciiDigit c = false)
    (rest : List Char) :
    (behind? (word ++ [' ']) (text ++ ' ' :: c :: rest)).bind numberIn? =
      if word ++ [' '] <:+: text ++ [' '] then
        (behind? (word ++ [' ']) (text ++ [' '])).bind numberIn?
      else (behind? (word ++ [' ']) (c :: rest)).bind numberIn? := by
  have found := isSome_behind?_iff (word ++ [' ']) (text ++ [' '])
  rw [behind?_append_blank visible nonempty]
  split
  next marks =>
    obtain ⟨left, isLeft⟩ := Option.isSome_iff_exists.1 (found.2 marks)
    rw [isLeft]
    exact numberIn?_append left noBlank noDigit rest
  next unmarked =>
    rw [Option.not_isSome_iff_eq_none.1 (mt found.1 unmarked)]
    rfl

/-- A line and a column as a grammar writes them, behind a blank. -/
def positionText (line column : Nat) : List Char :=
  "at Line: ".toList ++ (Nat.toDigits 10 line ++ (", Column: ".toList ++ Nat.toDigits 10 column))

theorem toList_positioned (message : String) (line column : Nat) :
    (positioned message line column).toList =
      message.toList ++ ' ' :: positionText line column := by
  have shown (text : String) : toString text = text := rfl
  have digits (number : Nat) : (toString number).toList = Nat.toDigits 10 number := Nat.toList_repr
  have front : " at Line: ".toList = ' ' :: "at Line: ".toList := by decide
  rw [positioned, shown, shown, String.toList_append, String.toList_append, String.toList_append,
    String.toList_append, digits, digits, List.append_assoc, List.append_assoc, front]
  rfl

/-- Behind a message that does not hold the marker of a number, the number is read. -/
theorem numberBehind?_positioned
    {marker : String}
    {word : List Char}
    (spelling : marker.toList = word ++ [' '])
    (visible : ' ' ∉ word)
    (nonempty : word ≠ [])
    (message : String)
    {line column number : Nat}
    (named : (behind? marker.toList (positionText line column)).bind numberIn? = some number) :
    numberBehind? marker (positioned message line column) =
      if Marks marker message then numberBehind? marker (message ++ " ") else some number := by
  have marks_iff : word ++ [' '] <:+: message.toList ++ [' '] ↔ Marks marker message := by
    rw [Marks, spelling, String.toList_append]
    rfl
  rw [numberBehind?_eq, numberBehind?_eq, toList_positioned, String.toList_append, ← named,
    spelling]
  exact (bind_behind?_append_blank visible nonempty message.toList (by decide) (by decide) _).trans
    (if_congr marks_iff rfl rfl)

theorem line_positioned
    (message : String)
    {line : Nat}
    (fits : line < Text.wordLimit)
    (column : Nat) :
    numberBehind? "Line: " (positioned message line column) =
      if Marks "Line: " message then numberBehind? "Line: " (message ++ " ") else some line := by
  have spelling : "Line: ".toList = "Line:".toList ++ [' '] := by decide
  have found : behind? "Line: ".toList (positionText line column) =
      some (Nat.toDigits 10 line ++ ',' :: (" Column: ".toList ++ Nat.toDigits 10 column)) := rfl
  refine numberBehind?_positioned spelling (by decide) (by decide) message ?_
  rw [found, Option.bind_some, numberIn?_append _ (by decide) (by decide), numberIn?_toDigits fits]

theorem column_positioned
    (message : String)
    (line : Nat)
    {column : Nat}
    (fits : column < Text.wordLimit) :
    numberBehind? "Column: " (positioned message line column) =
      if Marks "Column: " message then numberBehind? "Column: " (message ++ " ")
      else some column := by
  have spelling : "Column: ".toList = "Column:".toList ++ [' '] := by decide
  have first : "Column: ".toList = 'C' :: "olumn: ".toList := by decide
  have comma : ", Column: ".toList = [',', ' '] ++ "Column: ".toList := by decide
  have noDigit : 'C' ∉ Nat.toDigits 10 line := fun member =>
    Bool.false_ne_true (Text.isAsciiDigit_of_mem_toDigits member)
  have absent : 'C' ∉ "at Line: ".toList ++ (Nat.toDigits 10 line ++ [',', ' ']) := by
    simp [noDigit]
  have split : positionText line column = "at Line: ".toList ++ (Nat.toDigits 10 line ++
      [',', ' ']) ++ ("Column: ".toList ++ Nat.toDigits 10 column) := by
    change "at Line: ".toList ++ (_ ++ (", Column: ".toList ++ _)) = _
    simp only [comma, List.append_assoc]
  have found : behind? "Column: ".toList (positionText line column) =
      some (Nat.toDigits 10 column) := by
    rw [split, first, behind?_append_of_not_mem absent]
    exact behind?_append_self (List.cons_ne_nil _ _) _
  refine numberBehind?_positioned spelling (by decide) (by decide) message ?_
  rw [found, Option.bind_some, numberIn?_toDigits fits]

/-! ## Reading positions back -/

/-- If a message holds a marker itself, a number is read there. -/
def Agrees (marker message : String) (number : Nat) : Prop :=
  Marks marker message → numberBehind? marker (message ++ " ") = some number

/-- A message holds a marker itself, and no number that fits a machine word is read there. -/
def MarksNoNumber (marker message : String) : Prop :=
  Marks marker message ∧ numberBehind? marker (message ++ " ") = none

theorem agrees_iff (marker message : String) (number : Nat) :
    Agrees marker message number ↔
      (if Marks marker message then numberBehind? marker (message ++ " ") else some number) =
        some number := by
  rw [Agrees]
  split
  next marks => exact forall_prop_of_true marks
  next unmarked => exact iff_of_true (fun marks => absurd marks unmarked) rfl

theorem marksNoNumber_iff (marker message : String) (number : Nat) :
    MarksNoNumber marker message ↔
      (if Marks marker message then numberBehind? marker (message ++ " ") else some number) =
        none := by
  rw [MarksNoNumber]
  split
  next marks => exact and_iff_right marks
  next unmarked => simp [unmarked]

/-- An error is that of a line and a column exactly if both are read, or if one of them is not and
both are zero. -/
theorem ofMessage_eq_parse_iff (message : String) (line column : Nat) :
    ofMessage message = .parse message line column ↔
      (numberBehind? "Line: " message = some line ∧
          numberBehind? "Column: " message = some column) ∨
        line = 0 ∧ column = 0 ∧
          (numberBehind? "Line: " message = none ∨ numberBehind? "Column: " message = none) := by
  rw [ofMessage]
  cases numberBehind? "Line: " message <;> cases numberBehind? "Column: " message <;>
    simp [eq_comm]

/-- **A position behind a message is read back unless the message names another one.** The error is
always a parse error with the whole message. It has the line and the column that stand behind the
message exactly if the message, with a blank behind it, names no other line and no other column, or
if both numbers are zero and the message marks a line or a column but does not name it. -/
theorem position_read_back_iff
    (message : String)
    {line column : Nat}
    (lineFits : line < Text.wordLimit)
    (columnFits : column < Text.wordLimit) :
    (∃ readLine readColumn, ofMessage (positioned message line column) =
        .parse (positioned message line column) readLine readColumn) ∧
      (ofMessage (positioned message line column) =
          .parse (positioned message line column) line column ↔
        (Agrees "Line: " message line ∧ Agrees "Column: " message column) ∨
          line = 0 ∧ column = 0 ∧
            (MarksNoNumber "Line: " message ∨ MarksNoNumber "Column: " message)) := by
  constructor
  · rw [ofMessage]
    split
    next => exact ⟨_, _, rfl⟩
    next => exact ⟨0, 0, rfl⟩
  · rw [ofMessage_eq_parse_iff, line_positioned message lineFits,
      column_positioned message _ columnFits, agrees_iff, agrees_iff, marksNoNumber_iff _ _ line,
      marksNoNumber_iff _ _ column]

/-- The greatest line and column that fit are read back behind a message that looks like none. -/
theorem position_read_back_of_greatest :
    (18446744073709551615 < Text.wordLimit ∧ 18446744073709551615 < Text.wordLimit) ∧
      ofMessage (positioned "Expected: an expression, found: Line:FROM" 18446744073709551615
          18446744073709551615) =
        .parse (positioned "Expected: an expression, found: Line:FROM" 18446744073709551615
          18446744073709551615) 18446744073709551615 18446744073709551615 := by
  have fits : 18446744073709551615 < Text.wordLimit := by decide
  refine ⟨⟨fits, fits⟩, (position_read_back_iff _ fits fits).2.2 (.inl ⟨?_, ?_⟩)⟩
  · exact fun marks => absurd marks (by decide +kernel)
  · exact fun marks => absurd marks (by decide +kernel)

/-- What a grammar says of a text that ends in a quoted position. -/
def quotingMessage : String :=
  "sql parser error: Expected: end of statement, found: 'Line: 7, Column: 9'"

/-- A position that the message quotes from the text is read in place of the one behind it. -/
theorem quoted_position_read :
    SqlGrammar.generic.facts "SELECT 1 FROM a b 'Line: 7, Column: 9'" =
        .error (ofMessage (positioned quotingMessage 1 19)) ∧
      ofMessage (positioned quotingMessage 1 19) =
        .parse (positioned quotingMessage 1 19) 7 9 ∧
      ofMessage (positioned quotingMessage 1 19) ≠
        .parse (positioned quotingMessage 1 19) 1 19 := by
  decide +kernel

end SqlError
end SqlLineage
