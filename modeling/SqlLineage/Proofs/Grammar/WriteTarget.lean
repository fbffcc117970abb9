import SqlLineage.Proofs.Grammar.TableReference

/-!
# Tables that are changed

A statement does not read the tables that it writes, but this is known in the scope of the writing
statement only. A statement around the writer, or inside of it, that refers to such a table by
itself reads it, so that the table is reported for the statement as a whole. The table stays out
exactly if all references to it belong to statements that write it as well or hide it.
-/

namespace SqlLineage
namespace Grammar

namespace Statement

/-- The tables whose rows a statement changes by an insertion, an update or a merge. -/
def changedNames : Statement → List String
  | insert target ps => Walk.writtenNames (insert target ps)
  | update table ps => Walk.writtenNames (update table ps)
  | merge target source ps => Walk.writtenNames (merge target source ps)
  | _ => []

theorem changedNames_subset (s : Statement) : s.changedNames ⊆ Walk.writtenNames s := by
  cases s <;> simp [changedNames]

/-- Whether a statement occurs in `root`, at any depth; `root` itself does. -/
def Contains (root s : Statement) : Prop :=
  ∃ around, Within root around (.statement s)

end Statement

/-- The owner of a place occurs in the statement that the place is in. -/
theorem Place.contains_owner
    {root owner : Statement}
    {around : List Node}
    {item : Item}
    {before after : List Event}
    (place : Place root around item before after)
    (owned : owner? around = some owner) :
    root.Contains owner := by
  induction place with
  | top front item back split =>
      obtain rfl : root = owner := by simpa [owner?, Node.statement?] using owned
      exact ⟨[], .root⟩
  | @inside around n before after outer front item back split inductionHypothesis =>
      rw [owner?, List.findSome?_cons] at owned
      cases opens : n.statement? with
      | none =>
          rw [opens] at owned
          exact inductionHypothesis owned
      | some s =>
          obtain rfl : s = owner := by simpa [opens] using owned
          obtain rfl := Node.eq_statement_of_statement? opens
          exact ⟨around, .item outer⟩

/-- A table is not read exactly if every reference to it is left out by its owner. -/
theorem not_mem_tables_iff {root : Statement} {table : String} :
    table ∉ (factsOf [root]).tables.toList ↔
      ∀ owner, root.Refers owner table →
        owner.Defines table ∨ table ∈ Walk.writtenNames owner := by
  constructor
  · intro unread owner refers
    by_contra counts
    obtain ⟨undefined, unwritten⟩ := not_or.1 counts
    exact unread (refers.mem_tables undefined unwritten)
  · intro leftOut member
    have read : table ∈ (Node.statement root).effect.read := by
      simpa using mem_tables_factsOf_iff.1 member
    obtain ⟨owner, refers, undefined, unwritten⟩ := Within.root.exists_owner_of_mem_read read
    exact (leftOut owner refers).elim undefined unwritten

/-- **When the tables that a statement changes stay out of those that it reads.** No target of an
insertion, update or merge anywhere in `root` is read exactly if every reference to a target is
owned by a statement that hides the name or writes it. This is so if `root` contains no statement
but itself. -/
theorem changed_tables_unread_iff (root : Statement) :
    ((∀ writer table, root.Contains writer → table ∈ writer.changedNames →
        table ∉ (factsOf [root]).tables.toList) ↔
      ∀ writer table owner, root.Contains writer → table ∈ writer.changedNames →
        root.Refers owner table → owner.Defines table ∨ table ∈ Walk.writtenNames owner) ∧
    ((∀ s, root.Contains s → s = root) →
      ∀ writer table, root.Contains writer → table ∈ writer.changedNames →
        table ∉ (factsOf [root]).tables.toList) := by
  constructor
  · constructor
    · intro unread writer table owner contains changed
      exact not_mem_tables_iff.1 (unread writer table contains changed) owner
    · intro leftOut writer table contains changed
      exact not_mem_tables_iff.2 fun owner => leftOut writer table owner contains changed
  · intro alone writer table contains changed
    rw [not_mem_tables_iff]
    rintro owner ⟨around, name, before, after, place, owned, -⟩
    obtain rfl : owner = root := alone owner (place.contains_owner owned)
    obtain rfl : writer = owner := alone writer contains
    exact .inr (writer.changedNames_subset changed)

/-- `WITH a AS (SELECT * FROM t) INSERT INTO t SELECT * FROM b`. -/
def Query.refilling : Query :=
  .mk false [.mk (.bare "a") (.selectFrom [] "t")]
    (.statement (.insert (some [.bare "t"]) [.query (.selectFrom [] "b")])) []

/-- An insertion behind a common table expression that reads its target: the target is read. -/
theorem insertion_target_read_by_cte :
    (∃ writer, (Statement.query .refilling).Contains writer ∧ "t" ∈ writer.changedNames ∧
      "t" ∈ (factsOf [.query .refilling]).tables.toList) ∧
      (SqlGrammar.generic.facts
        "WITH a AS (SELECT * FROM t) INSERT INTO t SELECT * FROM b").toOption.map
          (·.tables.toList) = some ["b", "t"] := by
  have query : Place (.query .refilling) [.statement (.query .refilling)] _ _ _ :=
    .top [] (.node (.query .refilling)) [] rfl
  have body := query.inside
    [.define (.bare "a"), .node (.query (.selectFrom [] "t"))] (.node (.body _)) [] rfl
  have insert := body.inside [] (.node (.statement _)) [] rfl
  exact ⟨⟨_, ⟨_, .item insert⟩, by decide, by decide⟩, by decide +kernel⟩

end Grammar
end SqlLineage
