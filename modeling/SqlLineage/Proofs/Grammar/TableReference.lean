import SqlLineage.Proofs.Grammar.CteScope
import SqlLineage.Proofs.Grammar.Sequence

/-!
# References to tables

A statement reads a table exactly if some reference to the table counts: its owner neither writes
the table nor has a common table expression of its name, in whatever query of the owner. Common
table expressions have no narrower scope. A reference that none of them is in scope of is lost if
another query of its owner defines the name, as when a common table expression reads the table that
it is named for.
-/

namespace SqlLineage
namespace Grammar

/-- A reference to a table that a statement inside of `root`, or `root` itself, owns. -/
def Statement.Refers (root owner : Statement) (table : String) : Prop :=
  ∃ around name before after,
    Place root around (.table name) before after ∧
      owner? around = some owner ∧ ObjectName.dotted name = table

/-- A node of a statement and the nodes around it: the statement itself, or an item at a place. -/
inductive Within (root : Statement) : List Node → Node → Prop
  | root : Within root [] (.statement root)
  | item {around : List Node} {n : Node} {before after : List Event} :
      Place root around (.node n) before after → Within root around n

namespace Within

variable {root : Statement} {around : List Node} {n : Node}

/-- The items of a node are at places. -/
theorem exists_place
    (within : Within root around n)
    {item : Item}
    (member : item ∈ n.items) :
    ∃ before after, Place root (n :: around) item before after := by
  obtain ⟨front, back, split⟩ := List.append_of_mem member
  cases within with
  | root => exact ⟨_, _, .top front item back split⟩
  | item place => exact ⟨_, _, place.inside front item back split⟩

/-- A name that waits in the scope of a statement comes from a reference that the statement owns. -/
theorem refers_of_mem_named
    {owner : Statement}
    {table : String}
    (within : Within root around n)
    (owned : owner? (n :: around) = some owner)
    (named : table ∈ (Item.effectOf n.items).named) :
    root.Refers owner table := by
  induction n using Node.items_induction generalizing around with
  | step n inductionHypothesis =>
      obtain ⟨item, member, inItem⟩ :=
        (Item.mem_effectOf Effect.named rfl fun _ _ => rfl).1 named
      obtain ⟨before, after, place⟩ := within.exists_place member
      cases item with
      | table name =>
          have same : table = ObjectName.dotted name := by
            simpa [Item.effect, Effect.naming, Effect.none] using inItem
          exact ⟨_, name, before, after, place, owned, same.symm⟩
      | node m =>
          rw [Item.effect, m.effect_eq] at inItem
          cases opens : m.statement? with
          | none =>
              rw [Node.wrap_of_statement?_eq_none opens] at inItem
              refine inductionHypothesis m member (.item place) ?_ inItem
              rwa [owner?, List.findSome?_cons, opens]
          | some inner =>
              obtain rfl := Node.eq_statement_of_statement? opens
              simp [Node.wrap, Effect.ended] at inItem
      | _ => simp [Item.effect, Effect.calling, Effect.defining, Effect.none] at inItem

/-- A table that is read inside of a node is referred to where its owner neither defines nor writes
it. -/
theorem exists_owner_of_mem_read
    {table : String}
    (within : Within root around n)
    (read : table ∈ n.effect.read) :
    ∃ owner, root.Refers owner table ∧ ¬owner.Defines table ∧
      table ∉ Walk.writtenNames owner := by
  induction n using Node.items_induction generalizing around with
  | step n inductionHypothesis =>
      have inItems (read : table ∈ (Item.effectOf n.items).read) :
          ∃ owner, root.Refers owner table ∧ ¬owner.Defines table ∧
            table ∉ Walk.writtenNames owner := by
        obtain ⟨item, member, inItem⟩ :=
          (Item.mem_effectOf Effect.read rfl fun _ _ => rfl).1 read
        obtain ⟨before, after, place⟩ := within.exists_place member
        cases item with
        | node m => exact inductionHypothesis m member (.item place) inItem
        | _ =>
            simp [Item.effect, Effect.calling, Effect.defining, Effect.naming, Effect.none]
              at inItem
      rw [n.effect_eq] at read
      cases opens : n.statement? with
      | none => exact inItems (by rwa [Node.wrap_of_statement?_eq_none opens] at read)
      | some s =>
          obtain rfl := Node.eq_statement_of_statement? opens
          -- What a statement reads is read inside of it, or waits in its scope until it ends.
          rcases List.mem_append.1 read with inside | waiting
          · exact inItems inside
          · obtain ⟨named, visible⟩ := List.mem_filter.1 waiting
            obtain ⟨unhidden, unwritten⟩ :
                (Item.effectOf (Node.statementItems s)).hides table = false ∧
                  table ∉ Walk.writtenNames s := by
              simpa [Node.items] using visible
            refine ⟨s, within.refers_of_mem_named rfl named, ?_, unwritten⟩
            rw [← Statement.hides_effect_iff, Statement.effect, unhidden]
            exact Bool.false_ne_true

end Within

/-- A reference counts if its owner neither defines nor writes the table. -/
theorem Statement.Refers.mem_tables
    {root owner : Statement}
    {table : String}
    (refers : root.Refers owner table)
    (undefined : ¬owner.Defines table)
    (unwritten : table ∉ Walk.writtenNames owner) :
    table ∈ (factsOf [root]).tables.toList := by
  obtain ⟨around, name, before, after, place, owned, rfl⟩ := refers
  obtain ⟨other, otherOwned, first, second, outcome, effect_eq, run_eq, reads⟩ :=
    place.exists_owner
  obtain rfl : owner = other := Option.some.inj (owned.symm.trans otherOwned)
  have facts_eq : factsOf [root] =
      outcome ((first.append ((Effect.naming name.dotted).append second)).ended owner.calls
        (Walk.writtenNames owner)) := by
    rw [← run_eq (.relation name.dotted), factsOf, List.flatMap_singleton, place.walk_eq]
    rfl
  rw [facts_eq]
  apply reads
  apply Effect.mem_read_ended_naming
  rw [← Effect.hides_append_naming_append first second name.dotted]
  change ¬((first.append ((Item.table name).effect.append second)).hides name.dotted = true ∨ _)
  rw [← effect_eq, Statement.hides_effect_iff]
  exact not_or.2 ⟨undefined, unwritten⟩

/-- **A table is read exactly if a reference to it counts**: some statement owns a reference to the
table, writes no such table, and has no common table expression that hides it. A common table
expression hides the name in the whole of its statement, not only where it is in scope. -/
theorem mem_tables_iff_reference_counts (root : Statement) (table : String) :
    table ∈ (factsOf [root]).tables.toList ↔
      ∃ owner, root.Refers owner table ∧ ¬owner.Defines table ∧
        table ∉ Walk.writtenNames owner := by
  constructor
  · intro member
    have read : table ∈ (Node.statement root).effect.read := by
      rw [factsOf_eq, Facts.learn, UniqueList.mem_extend] at member
      simpa [Effect.ofStatements, Facts.none] using member
    exact Within.root.exists_owner_of_mem_read read
  · rintro ⟨owner, refers, undefined, unwritten⟩
    exact refers.mem_tables undefined unwritten

/-! ## Tables that are lost to a common table expression -/

namespace Node

/-- The common table expressions of a node that are in scope at its item behind `position` others.
The body of a query and what stands behind it see all of them. Each of them sees those in front of
it, or all of them if the query is recursive. -/
def ctesInScope : Node → Nat → List Cte
  | query (.mk recursive definitions _ _), position =>
    if recursive then definitions else definitions.take (position - definitions.length)
  | _, _ => []

end Node

/-- `Sees root around item scope`: the common table expressions `scope` are in scope at an item of
`root`, where `around` are the nodes that contain it. -/
inductive Sees (root : Statement) : List Node → Item → List Cte → Prop
  | top (front : List Item) (item : Item) (back : List Item) :
      Node.statementItems root = front ++ item :: back →
      Sees root [.statement root] item []
  | inside {around : List Node} {n : Node} {scope : List Cte} :
      Sees root around (.node n) scope →
      (front : List Item) → (item : Item) → (back : List Item) →
      n.items = front ++ item :: back →
      Sees root (n :: around) item (n.ctesInScope front.length ++ scope)

/-- `WITH c AS (SELECT * FROM c) SELECT * FROM c`. -/
def Query.shadowing : Query :=
  .selectFrom [.mk (.bare "c") (.selectFrom [] "c")] "c"

/-- A table is lost to the common table expression that reads it and has its name: nothing of this
name is in scope in the common table expression, and nothing is written. -/
theorem table_lost_to_own_cte :
    (∃ around scope,
      Sees (.query .shadowing) around (.table [.bare "c"]) scope ∧
        (∀ c ∈ scope, c.name.hides "c" = false) ∧
        (∀ s, .statement s ∈ around → "c" ∉ Walk.writtenNames s) ∧
        "c" ∉ (factsOf [.query .shadowing]).tables.toList) ∧
      (SqlGrammar.generic.facts "WITH c AS (SELECT * FROM c) SELECT * FROM c").toOption.map
        (·.tables.toList) = some [] := by
  have query : Sees (.query .shadowing) [.statement (.query .shadowing)]
      (.node (.query .shadowing)) [] := .top [] _ [] rfl
  have definition := query.inside [.define (.bare "c")] (.node (.query (.selectFrom [] "c")))
    [.node (.body _)] rfl
  have body := definition.inside [] (.node (.body _)) [] rfl
  have tables := body.inside [.expr (.wildcard [])] (.node (.tables _)) [] rfl
  have factor := tables.inside [] (.node (.factor _)) [] rfl
  have reference := factor.inside [] (.table [.bare "c"]) [] rfl
  refine ⟨⟨_, _, reference, ?_, ?_, by decide⟩, by decide +kernel⟩
  · decide
  · intro s member
    obtain rfl : s = .query .shadowing := by simpa using member
    decide

end Grammar
end SqlLineage
