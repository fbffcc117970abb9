import SqlLineage.Grammar.Survey
import SqlLineage.Proofs.Grammar.Outline
import SqlLineage.Proofs.UniqueList

/-!
# The effect of a statement on a survey

What a survey learns from a node does not depend on what it knew before: the node has an effect,
computed from its items, and the walk through the node adds that effect to the innermost open scope
and to the facts. The end of a statement turns the names that wait in its scope into tables that are
read, so that a statement leaves the scopes around it as they were.
-/

namespace SqlLineage
namespace Grammar

/-- Whether the name of a common table expression hides a table: a quoted name hides itself, a bare
name hides every spelling. -/
def Ident.hides (name : Ident) (table : String) : Bool :=
  if name.quote.isSome then name.value == table
  else Text.lower name.value == Text.lower table

/-- What a survey learns from a part of a statement. -/
structure Effect where
  /-- The names of common table expressions, for the scope that is open. -/
  defined : List Ident
  /-- The tables that are named, for the scope that is open. -/
  named : List String
  /-- The tables that statements inside the part read. -/
  read : List String
  /-- The functions that are called. -/
  called : List String

namespace Effect

/-- Nothing is learned. -/
def none : Effect :=
  ⟨[], [], [], []⟩

/-- A function is called. -/
def calling (signature : String) : Effect :=
  { none with called := [signature] }

/-- A common table expression is defined. -/
def defining (name : Ident) : Effect :=
  { none with defined := [name] }

/-- A table is named. -/
def naming (table : String) : Effect :=
  { none with named := [table] }

/-- What is learned from one part and then from another. -/
def append (first second : Effect) : Effect :=
  ⟨first.defined ++ second.defined, first.named ++ second.named, first.read ++ second.read,
    first.called ++ second.called⟩

/-- What is learned from parts in order. -/
def total (effects : List Effect) : Effect :=
  effects.foldr append none

@[simp] theorem none_append (effect : Effect) : none.append effect = effect := rfl

@[simp] theorem append_none (effect : Effect) : effect.append none = effect := by
  simp [append, none]

theorem append_assoc (first second third : Effect) :
    (first.append second).append third = first.append (second.append third) := by
  simp [append]

@[simp] theorem total_nil : total [] = none := rfl

@[simp] theorem total_cons (effect : Effect) (effects : List Effect) :
    total (effect :: effects) = effect.append (total effects) := rfl

theorem total_append (front back : List Effect) :
    total (front ++ back) = (total front).append (total back) := by
  induction front with
  | nil => rfl
  | cons effect front inductionHypothesis =>
      simp [inductionHypothesis, append_assoc]

/-- What is learned from parts is learned from one of them, in each field of an effect. -/
theorem mem_total
    {α : Type}
    (field : Effect → List α)
    (field_none : field none = [])
    (field_append : ∀ first second, field (append first second) = field first ++ field second)
    {effects : List Effect}
    {a : α} :
    a ∈ field (total effects) ↔ ∃ effect ∈ effects, a ∈ field effect := by
  induction effects with
  | nil => simp [field_none]
  | cons effect effects inductionHypothesis =>
      rw [total_cons, field_append, List.mem_append, inductionHypothesis]
      simp

/-- Whether one of the common table expressions hides a table. -/
def hides (effect : Effect) (table : String) : Bool :=
  effect.defined.any fun name => name.hides table

/-- The tables that a statement reads whose parts have an effect: those that are neither hidden by a
common table expression nor written. -/
def tables (effect : Effect) (targets : List String) : List String :=
  effect.named.filter fun table => !effect.hides table && !targets.contains table

/-- The effect of a statement, given that of its parts. -/
def ended (effect : Effect) (calls targets : List String) : Effect :=
  ⟨[], [], effect.read ++ effect.tables targets, calls ++ effect.called⟩

end Effect

/-! ## The effect of a node -/

/-- The procedures that a statement calls by itself. -/
def Statement.calls : Statement → List String
  | .call name _ args _ => [Walk.signature name args.arity]
  | .execute name args _ => [Walk.signature name args.length]
  | _ => []

theorem Walk.beginning_eq (s : Statement) :
    beginning s = s.calls.map .call ++ [.enter (writtenNames s)] := by
  cases s <;> rfl

namespace Node

/-- The effect of a node, given that of its items. -/
def wrap : Node → Effect → Effect
  | statement s, effect => effect.ended s.calls (Walk.writtenNames s)
  | _, effect => effect

/-- Only a statement keeps what is learned in it to itself. -/
theorem wrap_of_statement?_eq_none
    {n : Node}
    (open_ : n.statement? = Option.none)
    (effect : Effect) :
    n.wrap effect = effect := by
  cases n <;> first | rfl | simp [statement?] at open_

/-- The effect of a node. -/
def effect (n : Node) : Effect :=
  n.wrap (.total (n.items.attach.map fun
    | ⟨.call signature, _⟩ => .calling signature
    | ⟨.define name, _⟩ => .defining name
    | ⟨.table name, _⟩ => .naming name.dotted
    | ⟨.tableFunction name arity, _⟩ => .calling (Walk.signature name arity)
    | ⟨.node m, _⟩ => m.effect))
termination_by sizeOf n
decreasing_by exact sizeOf_lt_of_mem_items ‹_›

end Node

namespace Item

/-- The effect of an item. -/
def effect : Item → Effect
  | .call signature => .calling signature
  | .define name => .defining name
  | .table name => .naming name.dotted
  | .tableFunction name arity => .calling (Walk.signature name arity)
  | .node m => m.effect

/-- The effect of items in order. -/
def effectOf (items : List Item) : Effect :=
  .total (items.map effect)

theorem effectOf_append_cons (front back : List Item) (item : Item) :
    effectOf (front ++ item :: back) =
      (effectOf front).append (item.effect.append (effectOf back)) := by
  simp [effectOf, Effect.total_append]

end Item

/-- The effect of a node is made from the effects of its items. -/
theorem Node.effect_eq (n : Node) : n.effect = n.wrap (Item.effectOf n.items) := by
  have items_eq : n.items.map Item.effect =
      n.items.attach.map (Item.effect ∘ Subtype.val) := by
    rw [← List.map_map, List.attach_map_subtype_val]
  rw [effect, Item.effectOf, items_eq]
  congr 2
  apply List.map_congr_left
  rintro ⟨item, member⟩ -
  cases item <;> rfl

/-! ## Learning -/

namespace Scope

/-- The scope with what is learned about it. -/
def learn (scope : Scope) (effect : Effect) : Scope where
  relations := scope.relations ++ effect.named
  exactNames :=
    ((effect.defined.filter fun name => name.quote.isSome).map Ident.value).reverse ++
      scope.exactNames
  foldedNames :=
    ((effect.defined.filter fun name => name.quote.isNone).map
      fun name => Text.lower name.value).reverse ++ scope.foldedNames
  targets := scope.targets

@[simp] theorem learn_none (scope : Scope) : scope.learn .none = scope := by
  simp [learn, Effect.none]

theorem learn_append (scope : Scope) (first second : Effect) :
    scope.learn (first.append second) = (scope.learn first).learn second := by
  simp [learn, Effect.append]

@[simp] theorem learn_ended
    (scope : Scope)
    (effect : Effect)
    (calls targets : List String) :
    scope.learn (effect.ended calls targets) = scope := by
  simp [learn, Effect.ended]

/-- A name is defined in the order of the walk, so that it comes in front of the names before it. -/
theorem define_eq_learn (scope : Scope) (name : Ident) :
    scope.define name = scope.learn (.defining name) := by
  cases quoted : name.quote <;>
    simp [define, learn, Effect.defining, Effect.none, quoted]

/-- A new scope that learned an effect hides what the effect hides. -/
theorem defines_learn_opened
    (targets : List String)
    (effect : Effect)
    (table : String) :
    ((opened targets).learn effect).defines table = effect.hides table := by
  rw [Bool.eq_iff_iff]
  simp only [defines, learn, opened, Effect.hides, Ident.hides, Bool.or_eq_true, List.append_nil,
    List.contains_eq_mem, decide_eq_true_eq, List.mem_reverse, List.mem_map, List.mem_filter,
    List.any_eq_true]
  constructor
  · rintro (⟨name, ⟨member, quoted⟩, equal⟩ | ⟨name, ⟨member, bare⟩, equal⟩)
    · exact ⟨name, member, by simp [quoted, equal]⟩
    · exact ⟨name, member, by simp_all⟩
  · rintro ⟨name, member, hidden⟩
    cases quoted : name.quote.isSome with
    | true => exact .inl ⟨name, ⟨member, quoted⟩, by simpa [quoted] using hidden⟩
    | false =>
        exact .inr ⟨name, ⟨member, by simpa using quoted⟩, by simpa [quoted] using hidden⟩

/-- The tables that a new scope reads after it learned an effect. -/
theorem reads_learn_opened (targets : List String) (effect : Effect) :
    ((opened targets).learn effect).reads = effect.tables targets := by
  simp only [reads, defines_learn_opened]
  rfl

end Scope

end Grammar

namespace Facts

/-- The facts with what is learned about tables and functions. -/
def learn (facts : Facts) (effect : Grammar.Effect) : Facts :=
  ⟨facts.tables.extend effect.read, facts.functions.extend effect.called⟩

@[simp] theorem learn_none (facts : Facts) : facts.learn .none = facts := rfl

theorem learn_append (facts : Facts) (first second : Grammar.Effect) :
    facts.learn (first.append second) = (facts.learn first).learn second := by
  simp [learn, Grammar.Effect.append, UniqueList.extend_append]

theorem foldl_addTable (facts : Facts) (tables : List String) :
    tables.foldl addTable facts = { facts with tables := facts.tables.extend tables } := by
  induction tables generalizing facts with
  | nil => rfl
  | cons table tables inductionHypothesis =>
      rw [List.foldl_cons, inductionHypothesis]
      rfl

end Facts

namespace Grammar

namespace Survey

@[simp] theorem run_nil (survey : Survey) : survey.run [] = survey := rfl

@[simp] theorem run_cons (survey : Survey) (event : Event) (events : List Event) :
    survey.run (event :: events) = (survey.step event).run events := rfl

theorem run_append (survey : Survey) (front back : List Event) :
    survey.run (front ++ back) = (survey.run front).run back :=
  List.foldl_append

theorem run_calls (survey : Survey) (calls : List String) :
    survey.run (calls.map .call) =
      { survey with facts := survey.facts.learn { Effect.none with called := calls } } := by
  induction calls generalizing survey with
  | nil => rfl
  | cons call calls inductionHypothesis =>
      rw [List.map_cons, run_cons, inductionHypothesis]
      rfl

end Survey

/-- Events have an effect inside a statement: they leave the number of open scopes and the mark of
table functions as they were. -/
def Acts (events : List Event) (effect : Effect) : Prop :=
  ∀ scope scopes facts,
    Survey.run ⟨scope :: scopes, false, facts⟩ events =
      ⟨scope.learn effect :: scopes, false, facts.learn effect⟩

namespace Acts

theorem nil : Acts [] .none := by
  intro scope scopes facts
  simp

theorem append
    {front back : List Event}
    {first second : Effect}
    (acts : Acts front first)
    (follows : Acts back second) :
    Acts (front ++ back) (first.append second) := by
  intro scope scopes facts
  rw [Survey.run_append, acts, follows, Scope.learn_append, Facts.learn_append]

/-- A table that is named waits in the scope that is open. -/
theorem relation (table : String) : Acts [.relation table] (.naming table) := by
  intro scope scopes facts
  simp [Survey.step, Scope.relate, Scope.learn, Facts.learn, Effect.naming, Effect.none]

theorem item
    {item : Item}
    (inner : ∀ m, item = .node m → Acts m.walk m.effect) :
    Acts item.events item.effect := by
  cases item with
  | node m => exact inner m rfl
  | table name => exact relation name.dotted
  | define name =>
      intro scope scopes facts
      simp only [Item.events, Survey.run_cons, Survey.run_nil, Survey.step,
        Scope.define_eq_learn]
      rfl
  | call signature | tableFunction name arity =>
      intro scope scopes facts
      simp [Survey.step, Item.events, Item.effect, Effect.calling, Effect.none, Scope.learn,
        Facts.learn, Facts.addFunction]

theorem items
    {items : List Item}
    (inner : ∀ m, .node m ∈ items → Acts m.walk m.effect) :
    Acts (Item.eventsOf items) (Item.effectOf items) := by
  induction items with
  | nil => exact nil
  | cons first rest inductionHypothesis =>
      have head : Acts first.events first.effect :=
        item fun m equal => inner m (equal ▸ List.mem_cons_self)
      exact head.append
        (inductionHypothesis fun m member => inner m (List.mem_cons_of_mem _ member))

end Acts

/-- A statement leaves all scopes as they were, and its own scope becomes tables that are read. -/
theorem run_statement_of_acts
    {events : List Event}
    {effect : Effect}
    (acts : Acts events effect)
    (s : Statement)
    (scopes : List Scope)
    (facts : Facts) :
    Survey.run ⟨scopes, false, facts⟩ (Walk.beginning s ++ events ++ [.leave]) =
      ⟨scopes, false, facts.learn (effect.ended s.calls (Walk.writtenNames s))⟩ := by
  rw [Walk.beginning_eq]
  simp only [Survey.run_append, Survey.run_calls, Survey.run_cons, Survey.run_nil, Survey.step]
  rw [acts]
  simp [Scope.reads_learn_opened, Facts.foldl_addTable, Facts.learn, Effect.none, Effect.ended,
    UniqueList.extend_append]

/-- What stands around the items of a node turns their effect into that of the node. -/
theorem Acts.wrap
    {events : List Event}
    {effect : Effect}
    (acts : Acts events effect)
    (n : Node) :
    Acts (n.opening ++ events ++ n.closing) (n.wrap effect) := by
  cases n with
  | statement s =>
      intro scope scopes facts
      have ended := run_statement_of_acts acts s (scope :: scopes) facts
      simpa [Node.opening, Node.closing, Node.wrap] using ended
  | _ => simpa [Node.opening, Node.closing, Node.wrap] using acts

/-- The walk through a node has the effect of the node. -/
theorem acts_walk (n : Node) : Acts n.walk n.effect := by
  induction n using Node.items_induction with
  | step n inductionHypothesis =>
      rw [n.walk_eq, n.effect_eq]
      exact (Acts.items inductionHypothesis).wrap n

theorem acts_eventsOf (items : List Item) :
    Acts (Item.eventsOf items) (Item.effectOf items) :=
  .items fun m _ => acts_walk m

end Grammar
end SqlLineage
