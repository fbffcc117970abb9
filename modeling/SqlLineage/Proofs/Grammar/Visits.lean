import SqlLineage.Proofs.Grammar.Place
import SqlLineage.Proofs.Grammar.Sequence

/-!
# The names that a walk meets

Every name that a walk meets stands at a place: it names a table, or it stands behind the mark of
the table function that it names. At each place a statement is open and no mark is set, so that a
mark reaches the name of its own function and no other name, and every name has a scope to wait in.
-/

namespace SqlLineage
namespace Grammar

/-! ## Splitting a walk -/

section

variable {α β : Type} {b : β} {before after : List β}

/-- An entry of two lists one behind the other is an entry of the first or of the second. -/
theorem append_eq_append_cons_cases
    {front back : List β}
    (split : front ++ back = before ++ b :: after) :
    (∃ last, front = before ++ b :: last ∧ after = last ++ back) ∨
      ∃ first, before = front ++ first ∧ back = first ++ b :: after := by
  rcases List.append_eq_append_iff.1 split with ⟨first, rfl, inBack⟩ | ⟨last, rfl, inFront⟩
  · exact .inr ⟨first, rfl, inBack⟩
  · cases last with
    | nil => exact .inr ⟨[], by simp, inFront.symm⟩
    | cons c last =>
        obtain ⟨rfl, rfl⟩ := List.cons.inj inFront
        exact .inl ⟨last, rfl, rfl⟩

/-- An entry of a list made of parts is an entry of one of the parts. -/
theorem exists_part_of_flatMap_eq
    {f : α → List β}
    {parts : List α}
    (split : parts.flatMap f = before ++ b :: after) :
    ∃ front part back first last, parts = front ++ part :: back ∧
      f part = first ++ b :: last ∧ before = front.flatMap f ++ first ∧
      after = last ++ back.flatMap f := by
  induction parts generalizing before with
  | nil => simp at split
  | cons part parts inductionHypothesis =>
      rw [List.flatMap_cons] at split
      rcases append_eq_append_cons_cases split with ⟨last, here, rfl⟩ | ⟨first, rfl, behind⟩
      · exact ⟨[], part, parts, before, last, rfl, here, rfl, rfl⟩
      · obtain ⟨front, inner, back, head, tail, rfl, here, rfl, rfl⟩ := inductionHypothesis behind
        exact ⟨part :: front, inner, back, head, tail, rfl, here, by simp, rfl⟩

/-- An entry of a list that is not at its ends is an entry of its middle. -/
theorem exists_middle_of_append_eq
    {opening middle closing : List β}
    (split : opening ++ middle ++ closing = before ++ b :: after)
    (notOpening : b ∉ opening)
    (notClosing : b ∉ closing) :
    ∃ first last, middle = first ++ b :: last ∧ before = opening ++ first ∧
      after = last ++ closing := by
  rcases append_eq_append_cons_cases split with ⟨last, inFront, rfl⟩ | ⟨first, -, rfl⟩
  · rcases append_eq_append_cons_cases inFront with ⟨rest, rfl, -⟩ | ⟨first, rfl, inMiddle⟩
    · exact absurd (List.mem_append_right _ List.mem_cons_self) notOpening
    · exact ⟨first, last, inMiddle, rfl, rfl⟩
  · exact absurd (List.mem_append_right _ List.mem_cons_self) notClosing

end

/-- Whether an event is met at a name: it is the name, or the mark in front of it. -/
def Event.IsName : Event → Prop
  | relation _ => True
  | tableFunction _ => True
  | _ => False

namespace Node

variable {event : Event}

theorem not_mem_opening_of_isName (isName : event.IsName) (n : Node) : event ∉ n.opening := by
  cases n with
  | statement s =>
      rw [opening, Walk.beginning_eq]
      cases event <;> simp_all [Event.IsName]
  | _ => exact List.not_mem_nil

theorem not_mem_closing_of_isName (isName : event.IsName) (n : Node) : event ∉ n.closing := by
  cases n with
  | statement s => cases event <;> simp_all [Event.IsName, closing]
  | _ => exact List.not_mem_nil

/-- A name that is met in a node is met at one of its items. -/
theorem exists_item_of_walk_eq
    {n : Node}
    {before after : List Event}
    (isName : event.IsName)
    (split : n.walk = before ++ event :: after) :
    ∃ front item back first last, n.items = front ++ item :: back ∧
      item.events = first ++ event :: last ∧
      before = n.opening ++ Item.eventsOf front ++ first ∧
      after = last ++ (Item.eventsOf back ++ n.closing) := by
  rw [n.walk_eq] at split
  obtain ⟨inBefore, inAfter, inItems, rfl, rfl⟩ := exists_middle_of_append_eq split
    (n.not_mem_opening_of_isName isName) (n.not_mem_closing_of_isName isName)
  obtain ⟨front, item, back, first, last, items, here, rfl, rfl⟩ :=
    exists_part_of_flatMap_eq inItems
  exact ⟨front, item, back, first, last, items, here, by simp [Item.eventsOf],
    by simp [Item.eventsOf]⟩

end Node

/-- The innermost place at which a name is met in an item. -/
theorem Place.exists_innermost
    {root : Statement}
    {around : List Node}
    {item : Item}
    {before after first last : List Event}
    {event : Event}
    (place : Place root around item before after)
    (isName : event.IsName)
    (split : item.events = first ++ event :: last) :
    ∃ around inner front back head tail, Place root around inner front back ∧
      (∀ m, inner ≠ .node m) ∧ inner.events = head ++ event :: tail ∧
      before ++ first = front ++ head ∧ last ++ after = tail ++ back := by
  cases item with
  | node n =>
      induction n using Node.items_induction generalizing around before after first last with
      | step n inductionHypothesis =>
          obtain ⟨front, inner, back, head, tail, items, here, rfl, rfl⟩ :=
            n.exists_item_of_walk_eq isName split
          have within := place.inside front inner back items
          cases inner with
          | node m =>
              have member : .node m ∈ n.items := by simp [items]
              obtain ⟨around, inner, front, back, head, tail, found, solid, here, start, stop⟩ :=
                inductionHypothesis m member within here
              exact ⟨around, inner, front, back, head, tail, found, solid, here,
                by simpa using start, by simpa using stop⟩
          | _ => exact ⟨_, _, _, _, head, tail, within, nofun, here, by simp, by simp⟩
  | _ => exact ⟨_, _, _, _, first, last, place, nofun, split, rfl, rfl⟩

/-- A name that is met in a statement is met at a place. -/
theorem exists_place_of_isName
    {root : Statement}
    {before after : List Event}
    {event : Event}
    (isName : event.IsName)
    (split : Walk.statement root = before ++ event :: after) :
    ∃ around item front back head tail, Place root around item front back ∧
      (∀ m, item ≠ .node m) ∧ item.events = head ++ event :: tail ∧
      before = front ++ head ∧ after = tail ++ back := by
  obtain ⟨front, item, back, first, last, items, here, rfl, rfl⟩ :=
    (Node.statement root).exists_item_of_walk_eq isName split
  exact (Place.top front item back items).exists_innermost isName here

/-- Each mark stands in front of the name of its own function. -/
theorem exists_place_of_tableFunction
    {root : Statement}
    {before after : List Event}
    {signature : String}
    (split : Walk.statement root = before ++ .tableFunction signature :: after) :
    ∃ around name arity back, Place root around (.tableFunction name arity) before back ∧
      signature = Walk.signature name arity ∧ after = .relation name.dotted :: back := by
  have isName : (Event.tableFunction signature).IsName := trivial
  obtain ⟨around, item, front, back, head, tail, place, solid, here, rfl, rfl⟩ :=
    exists_place_of_isName isName split
  cases item with
  | node m => exact absurd rfl (solid m)
  | tableFunction name arity =>
      obtain ⟨rfl, rfl, rfl⟩ : head = [] ∧ signature = Walk.signature name arity ∧
          tail = [.relation name.dotted] := by
        simpa [Item.events, List.cons_eq_append_iff] using here
      exact ⟨around, name, arity, back, by simpa using place, rfl, rfl⟩
  | _ => simp [Item.events, List.cons_eq_append_iff] at here

/-- Each name is that of a table, or it stands behind the mark of the table function that it
names. -/
theorem exists_place_of_relation
    {root : Statement}
    {before after : List Event}
    {table : String}
    (split : Walk.statement root = before ++ .relation table :: after) :
    ∃ around name, table = ObjectName.dotted name ∧
      (Place root around (.table name) before after ∨
        ∃ arity front, Place root around (.tableFunction name arity) front after ∧
          before = front ++ [.tableFunction (Walk.signature name arity)]) := by
  have isName : (Event.relation table).IsName := trivial
  obtain ⟨around, item, front, back, head, tail, place, solid, here, rfl, rfl⟩ :=
    exists_place_of_isName isName split
  cases item with
  | node m => exact absurd rfl (solid m)
  | table name =>
      obtain ⟨rfl, rfl, rfl⟩ : head = [] ∧ table = name.dotted ∧ tail = [] := by
        simpa [Item.events, List.cons_eq_append_iff] using here
      exact ⟨around, name, rfl, .inl (by simpa using place)⟩
  | tableFunction name arity =>
      obtain ⟨rfl, rfl, rfl⟩ : head = [.tableFunction (Walk.signature name arity)] ∧
          table = name.dotted ∧ tail = [] := by
        simpa [Item.events, List.cons_eq_append_iff] using here
      exact ⟨around, name, rfl, .inr ⟨arity, front, place, rfl⟩⟩
  | _ => simp [Item.events, List.cons_eq_append_iff] at here

/-! ## What a survey is ready for -/

/-- A survey in which the next name is that of a table of some statement. -/
structure Survey.Ready (survey : Survey) : Prop where
  /-- A statement is open, so that the name has a scope to wait in. -/
  inStatement : survey.scopes ≠ []
  /-- No mark of a table function is set. -/
  unmarked : survey.skips = false

namespace Survey

variable {survey : Survey}

theorem ready_beginning (unmarked : survey.skips = false) (s : Statement) :
    (survey.run (Walk.beginning s)).Ready := by
  rw [Walk.beginning_eq, run_append, run_calls]
  exact ⟨List.cons_ne_nil _ _, unmarked⟩

theorem Ready.run_of_acts
    {events : List Event}
    {effect : Effect}
    (ready : survey.Ready)
    (acts : Acts events effect) :
    (survey.run events).Ready := by
  obtain ⟨scopes, skips, facts⟩ := survey
  obtain ⟨inStatement, rfl⟩ := ready
  cases scopes with
  | nil => exact absurd rfl inStatement
  | cons scope scopes =>
      rw [acts]
      exact ⟨List.cons_ne_nil _ _, rfl⟩

theorem Ready.run_opening (ready : survey.Ready) (n : Node) :
    (survey.run n.opening).Ready := by
  cases n with
  | statement s => exact ready_beginning ready.unmarked s
  | _ => exact ready

end Survey

/-- At each place a statement is open and no mark is set, if none was set in front of the whole
statement. -/
theorem Place.ready
    {root : Statement}
    {around : List Node}
    {item : Item}
    {before after : List Event}
    (place : Place root around item before after)
    {survey : Survey}
    (unmarked : survey.skips = false) :
    (survey.run before).Ready := by
  induction place with
  | top front item back split =>
      rw [Survey.run_append]
      exact (Survey.ready_beginning unmarked root).run_of_acts (acts_eventsOf front)
  | @inside around n before after outer front item back split inductionHypothesis =>
      rw [Survey.run_append, Survey.run_append]
      exact (inductionHypothesis.run_opening n).run_of_acts (acts_eventsOf front)

/-- When statements name something, one of them is open, and a mark is set exactly if the name
stands behind a mark. -/
theorem scopes_ne_nil_and_skips_iff
    {statements : List Statement}
    {before after : List Event}
    {table : String}
    (split : statements.flatMap Walk.statement = before ++ .relation table :: after) :
    (Survey.start.run before).scopes ≠ [] ∧
      ((Survey.start.run before).skips = true ↔
        ∃ front signature, before = front ++ [.tableFunction signature]) := by
  have marked (found : ∃ front signature, before = front ++ [.tableFunction signature]) :
      (Survey.start.run before).skips = true := by
    obtain ⟨front, signature, rfl⟩ := found
    rw [Survey.run_append]
    rfl
  obtain ⟨earlier, s, later, first, last, rfl, here, rfl, rfl⟩ := exists_part_of_flatMap_eq split
  have unmarked : (Survey.start.run (earlier.flatMap Walk.statement)).skips = false := by
    rw [Survey.start, Survey.run_statements]
  obtain ⟨around, name, -, place | ⟨arity, front, place, rfl⟩⟩ := exists_place_of_relation here
  · have ready := place.ready unmarked
    rw [← Survey.run_append] at ready
    refine ⟨ready.inStatement, fun skips => ?_, marked⟩
    rw [ready.unmarked] at skips
    cases skips
  · have ready := place.ready unmarked
    rw [← Survey.run_append] at ready
    refine ⟨?_, fun _ => ⟨_, _, (List.append_assoc _ _ _).symm⟩, marked⟩
    rw [← List.append_assoc, Survey.run_append]
    exact ready.inStatement

end Grammar
end SqlLineage
