import SqlLineage.Proofs.Grammar.Visits
import SqlLineage.Proofs.Grammar.WriteTarget

/-!
# Table functions

A source of rows with arguments calls a function. Its name is not the name of a table, and nothing
but this name is left out: what stands in the arguments and behind them is read as it is elsewhere.
The call is reported, unless it stands behind `LATERAL`; then it is reported only if the statement
calls the function in another way as well.
-/

namespace SqlLineage
namespace Grammar

/-! ## Functions that are called -/

/-- Whether an item of a node calls a function. -/
inductive Item.CallsFunction : Item → String → Prop
  /-- A call in an expression. -/
  | call (signature : String) : CallsFunction (.call signature) signature
  /-- A table function. -/
  | tableFunction (name : ObjectName) (arity : Nat) :
      CallsFunction (.tableFunction name arity) (Walk.signature name arity)

/-- Whether a function is called in a statement: at one of its places, or by a statement in it that
is a call. -/
def Statement.CallsFunction (root : Statement) (signature : String) : Prop :=
  (∃ around item before after,
    Place root around item before after ∧ item.CallsFunction signature) ∨
    ∃ s, root.Contains s ∧ signature ∈ s.calls

theorem Item.CallsFunction.mem_called
    {item : Item}
    {signature : String}
    (calls : item.CallsFunction signature) :
    signature ∈ item.effect.called := by
  cases calls <;> exact List.mem_cons_self

namespace Node

theorem called_subset_effect (n : Node) : (Item.effectOf n.items).called ⊆ n.effect.called := by
  rw [n.effect_eq]
  cases n with
  | statement s => exact List.subset_append_right _ _
  | _ => exact List.Subset.refl _

theorem called_item_subset_effect
    {n : Node}
    {item : Item}
    (member : item ∈ n.items) :
    item.effect.called ⊆ n.effect.called := by
  intro signature called
  apply n.called_subset_effect
  rw [Item.mem_effectOf Effect.called rfl fun _ _ => rfl]
  exact ⟨item, member, called⟩

end Node

variable {root : Statement} {around : List Node} {signature : String}

/-- What is called at a place is called in the whole statement. -/
theorem Place.called_subset_effect
    {item : Item}
    {before after : List Event}
    (place : Place root around item before after) :
    item.effect.called ⊆ (Node.statement root).effect.called := by
  induction place with
  | top front item back split =>
      apply Node.called_item_subset_effect
      rw [Node.items, split]
      exact List.mem_append_right _ List.mem_cons_self
  | @inside around n before after outer front item back split inductionHypothesis =>
      refine List.Subset.trans (Node.called_item_subset_effect (n := n) ?_) inductionHypothesis
      rw [split]
      exact List.mem_append_right _ List.mem_cons_self

namespace Within

variable {n : Node}

theorem called_subset_effect (within : Within root around n) :
    n.effect.called ⊆ (Node.statement root).effect.called := by
  cases within with
  | root => exact List.Subset.refl _
  | item place => exact place.called_subset_effect

theorem callsFunction_of_mem_called
    (within : Within root around n)
    (called : signature ∈ n.effect.called) :
    root.CallsFunction signature := by
  induction n using Node.items_induction generalizing around with
  | step n inductionHypothesis =>
      have inItems (called : signature ∈ (Item.effectOf n.items).called) :
          root.CallsFunction signature := by
        obtain ⟨item, member, inItem⟩ :=
          (Item.mem_effectOf Effect.called rfl fun _ _ => rfl).1 called
        obtain ⟨before, after, place⟩ := within.exists_place member
        cases item with
        | node m => exact inductionHypothesis m member (.item place) inItem
        | call other =>
            obtain rfl : signature = other := by
              simpa [Item.effect, Effect.calling] using inItem
            exact .inl ⟨_, _, _, _, place, .call signature⟩
        | tableFunction name arity =>
            obtain rfl : signature = Walk.signature name arity := by
              simpa [Item.effect, Effect.calling] using inItem
            exact .inl ⟨_, _, _, _, place, .tableFunction name arity⟩
        | _ => simp [Item.effect, Effect.defining, Effect.naming, Effect.none] at inItem
      rw [n.effect_eq] at called
      cases opens : n.statement? with
      | none => exact inItems (by rwa [Node.wrap_of_statement?_eq_none opens] at called)
      | some s =>
          obtain rfl := Node.eq_statement_of_statement? opens
          rcases List.mem_append.1 called with byStatement | inside
          · exact .inr ⟨s, ⟨around, within⟩, byStatement⟩
          · exact inItems inside

end Within

/-- The functions of a statement are those that are called in it. -/
theorem mem_functions_iff_callsFunction :
    signature ∈ (factsOf [root]).functions.toList ↔ root.CallsFunction signature := by
  rw [mem_functions_factsOf_iff]
  simp only [List.mem_singleton, exists_eq_left]
  constructor
  · exact Within.root.callsFunction_of_mem_called
  · rintro (⟨around, item, before, after, place, calls⟩ | ⟨s, ⟨around, within⟩, called⟩)
    · exact place.called_subset_effect calls.mem_called
    · apply within.called_subset_effect
      rw [Node.effect_eq]
      exact List.mem_append_left _ called

/-! ## Tables without the names of functions -/

namespace Survey

/-- Two surveys agree on all but the functions that are known. -/
structure AgreesOnTables (first second : Survey) : Prop where
  /-- The same scopes are open. -/
  scopes : first.scopes = second.scopes
  /-- The mark of a table function is set in both or in none. -/
  skips : first.skips = second.skips
  /-- The same tables are known. -/
  tables : first.facts.tables = second.facts.tables

namespace AgreesOnTables

variable {first second : Survey}

theorem step (agrees : first.AgreesOnTables second) (event : Event) :
    (first.step event).AgreesOnTables (second.step event) := by
  obtain ⟨scopes, skips, tables, functions⟩ := first
  obtain ⟨otherScopes, otherSkips, otherTables, otherFunctions⟩ := second
  obtain ⟨rfl, rfl, rfl⟩ := agrees
  cases event with
  | enter targets => exact ⟨rfl, rfl, rfl⟩
  | call signature => exact ⟨rfl, rfl, rfl⟩
  | tableFunction signature => exact ⟨rfl, rfl, rfl⟩
  | define name => cases scopes <;> exact ⟨rfl, rfl, rfl⟩
  | relation table => cases skips <;> cases scopes <;> exact ⟨rfl, rfl, rfl⟩
  | leave =>
      cases scopes with
      | nil => exact ⟨rfl, rfl, rfl⟩
      | cons scope scopes =>
          simp only [Survey.step, Facts.foldl_addTable]
          exact ⟨rfl, rfl, rfl⟩

theorem run (agrees : first.AgreesOnTables second) (events : List Event) :
    (first.run events).AgreesOnTables (second.run events) := by
  induction events generalizing first second with
  | nil => exact agrees
  | cons event events inductionHypothesis => exact inductionHypothesis (agrees.step event)

end AgreesOnTables

/-- The name of a table function leaves a survey as it was, but for the function that is called. -/
theorem Ready.agreesOnTables_tableFunction
    {survey : Survey}
    (ready : survey.Ready)
    (signature table : String) :
    (survey.run [.tableFunction signature, .relation table]).AgreesOnTables survey := by
  refine ⟨rfl, ?_, rfl⟩
  rw [ready.unmarked]
  rfl

end Survey

/-- The tables are those of the walk without the name of a table function. -/
theorem Place.tables_without_tableFunction
    {name : ObjectName}
    {arity : Nat}
    {before after : List Event}
    (place : Place root around (.tableFunction name arity) before after) :
    (factsOf [root]).tables = (Survey.start.run (before ++ after)).facts.tables := by
  have ready : (Survey.start.run before).Ready := place.ready rfl
  have agrees := (ready.agreesOnTables_tableFunction (Walk.signature name arity) name.dotted).run
    after
  rw [factsOf, List.flatMap_singleton, place.walk_eq, Survey.run_append, Survey.run_append,
    Survey.run_append]
  exact agrees.tables

/-- A plain table is read, unless the statement around it defines or writes its name. -/
theorem Place.exists_owner_of_table
    {name : ObjectName}
    {before after : List Event}
    (place : Place root around (.table name) before after) :
    ∃ owner, owner? around = some owner ∧
      (owner.Defines name.dotted ∨ name.dotted ∈ Walk.writtenNames owner ∨
        name.dotted ∈ (factsOf [root]).tables.toList) := by
  obtain ⟨owner, owned, -⟩ := place.exists_owner
  refine ⟨owner, owned, ?_⟩
  by_contra leftOut
  simp only [not_or] at leftOut
  obtain ⟨undefined, unwritten, unread⟩ := leftOut
  have refers : root.Refers owner name.dotted := ⟨_, _, _, _, place, owned, rfl⟩
  exact unread (refers.mem_tables undefined unwritten)

/-- **A table function leaves out its own name only.** What a source of rows with arguments calls is
a function of its statement, unless all arguments are lock hints, and the tables are those of the
walk that meets only its arguments and what stands behind them. Behind `LATERAL` the name is not met
either, but neither is the call: the function is reported exactly if it is called elsewhere in the
statement. Every other table that is named in `FROM` is read, as far as the statement around it does
not define or write its name. This is so since a mark is set at the name of its own function and at
no other name, and no name is met where no statement is open. -/
theorem table_function_leaves_out_own_name_only (root : Statement) :
    (∀ around name args options before after,
      Place root around (.node (.factor (.table name (some args) options))) before after →
      Walk.areHints args = false →
        Walk.signature name args.length ∈ (factsOf [root]).functions.toList ∧
          (factsOf [root]).tables =
            (Survey.start.run
              (before ++ (Walk.exprs args ++ Walk.exprs options) ++ after)).facts.tables) ∧
    (∀ around name args before after,
      Place root around (.node (.factor (.lateral name args))) before after →
        (Walk.signature name args.length ∈ (factsOf [root]).functions.toList ↔
          root.CallsFunction (Walk.signature name args.length)) ∧
        factsOf [root] = (Survey.start.run (before ++ Walk.exprs args ++ after)).facts) ∧
    (∀ around name args options before after,
      Place root around (.node (.factor (.table name args options))) before after →
      (∀ hints ∈ args, Walk.areHints hints = true) →
        ∃ owner, owner? around = some owner ∧
          (owner.Defines name.dotted ∨ name.dotted ∈ Walk.writtenNames owner ∨
            name.dotted ∈ (factsOf [root]).tables.toList)) ∧
    (∀ (statements : List Statement) before table after,
      statements.flatMap Walk.statement = before ++ .relation table :: after →
        (Survey.start.run before).scopes ≠ [] ∧
          ((Survey.start.run before).skips = true ↔
            ∃ front signature, before = front ++ [.tableFunction signature])) ∧
    ∀ (statements : List Statement) before signature after,
      statements.flatMap Walk.statement = before ++ .tableFunction signature :: after →
        ∃ name arity rest, signature = Walk.signature name arity ∧
          after = .relation name.dotted :: rest := by
  refine ⟨?_, ?_, ?_, fun statements before table after => scopes_ne_nil_and_skips_iff, ?_⟩
  · intro around name args options before after place calls
    have own := place.inside [] (Item.source name (some args)) _ rfl
    have source_eq : Item.source name (some args) = .tableFunction name args.length := by
      simp [Item.source, calls]
    rw [source_eq] at own
    constructor
    · rw [mem_functions_iff_callsFunction]
      exact .inl ⟨_, _, _, _, own, .tableFunction name args.length⟩
    · rw [own.tables_without_tableFunction]
      simp [Walk.exprs_eq_eventsOf, Node.opening, Node.closing]
  · intro around name args before after place
    refine ⟨mem_functions_iff_callsFunction, ?_⟩
    rw [factsOf, List.flatMap_singleton, place.walk_eq]
    rfl
  · intro around name args options before after place hints
    have own := place.inside [] (Item.source name args) _ rfl
    have source_eq : Item.source name args = .table name := by
      cases args with
      | none => rfl
      | some es => simp [Item.source, hints es rfl]
    rw [source_eq] at own
    exact own.exists_owner_of_table
  · intro statements before signature after split
    obtain ⟨earlier, s, later, first, last, -, here, -, rfl⟩ := exists_part_of_flatMap_eq split
    obtain ⟨around, name, arity, back, -, rfl, rfl⟩ := exists_place_of_tableFunction here
    exact ⟨name, arity, _, rfl, rfl⟩

/-- The query `SELECT *` from sources of rows. -/
def Query.selectAll (sources : List TableFactor) : Query :=
  .ofBody (.select [.wildcard []] (sources.map fun source => .mk source []) [])

/-- The sources of a selection stand at places of it. -/
theorem Place.source_of_selectAll (front back : List TableFactor) (source : TableFactor) :
    ∃ around before after,
      Place (.query (.selectAll (front ++ source :: back))) around (.node (.factor source))
        before after := by
  have query : Place (.query (.selectAll (front ++ source :: back))) _ _ _ _ :=
    .top [] (.node (.query _)) [] rfl
  have body := query.inside [] (.node (.body _)) [] rfl
  have tables := body.inside
    (.expr (.wildcard []) :: front.map fun t => .node (.tables (.mk t [])))
    (.node (.tables (.mk source []))) (back.map fun t => .node (.tables (.mk t [])))
    (by simp [Node.items, Item.expr, Function.comp_def])
  exact ⟨_, _, _, tables.inside [] (.node (.factor source)) [] rfl⟩

/-- A table in the arguments of a table function is read, and so is one with a lock hint:
`SELECT * FROM f((SELECT * FROM t), 1), u(NOLOCK)`. -/
theorem argument_and_hinted_table_read :
    let call : TableFactor := .table [.bare "f"] (some [.query (.selectFrom [] "t"), .literal]) []
    let hinted : TableFactor := .table [.bare "u"] (some [.name [.bare "NOLOCK"]]) []
    "f(2)" ∈ (factsOf [.query (.selectAll [call, hinted])]).functions.toList ∧
      (factsOf [.query (.selectAll [call, hinted])]).tables.toList = ["t", "u"] := by
  intro call hinted
  obtain ⟨around, before, after, place⟩ := Place.source_of_selectAll [] [hinted] call
  obtain ⟨calls, -⟩ := table_function_leaves_out_own_name_only (.query (.selectAll [call, hinted]))
  obtain ⟨called, -⟩ := calls _ _ _ _ _ _ place (by decide)
  exact ⟨called, by decide +kernel⟩

/-- A function behind `LATERAL` is not reported: `SELECT * FROM a, LATERAL f(1)`. -/
theorem lateral_function_unreported :
    let plain : TableFactor := .table [.bare "a"] none []
    let call : TableFactor := .lateral [.bare "f"] [.literal]
    ((∃ around before after, Place (.query (.selectAll [plain, call])) around
        (.node (.factor call)) before after) ∧
      Walk.areHints [.literal] = false ∧ Walk.signature [.bare "f"] 1 = "f(1)" ∧
      "f(1)" ∉ (factsOf [.query (.selectAll [plain, call])]).functions.toList) ∧
      (SqlGrammar.generic.facts "SELECT * FROM a, LATERAL f(1)").toOption.map
        (·.functions.toList) = some [] := by
  intro plain call
  exact ⟨⟨Place.source_of_selectAll [plain] [] call, rfl, by decide, by decide +kernel⟩,
    by decide +kernel⟩

end Grammar
end SqlLineage
