import SqlLineage.Proofs.Grammar.Effect

/-!
# Statements in sequence

One survey goes through all statements, but no statement leaves a scope open or a mark of a table
function behind. What a statement adds to the facts is its effect, which does not depend on the
statements in front of it, so the facts of a sequence are those of its parts one behind the other.
-/

namespace SqlLineage
namespace Grammar

/-- What is learned from statements in order. -/
def Effect.ofStatements (statements : List Statement) : Effect :=
  .total (statements.map fun s => (Node.statement s).effect)

namespace Survey

/-- A statement leaves the open scopes and the mark as they were, also if no scope is open. -/
theorem run_statement (s : Statement) (scopes : List Scope) (facts : Facts) :
    run ⟨scopes, false, facts⟩ (Walk.statement s) =
      ⟨scopes, false, facts.learn (Node.statement s).effect⟩ := by
  change run _ (Node.statement s).walk = _
  rw [Node.walk_statement, run_statement_of_acts (acts_eventsOf _), Node.effect_eq]
  rfl

theorem run_statements (statements : List Statement) (scopes : List Scope) (facts : Facts) :
    run ⟨scopes, false, facts⟩ (statements.flatMap Walk.statement) =
      ⟨scopes, false, facts.learn (.ofStatements statements)⟩ := by
  induction statements generalizing facts with
  | nil => rfl
  | cons s statements inductionHypothesis =>
      rw [List.flatMap_cons, run_append, run_statement, inductionHypothesis, ← Facts.learn_append]
      rfl

end Survey

theorem factsOf_eq (statements : List Statement) :
    factsOf statements = Facts.none.learn (.ofStatements statements) := by
  rw [factsOf, Survey.start, Survey.run_statements]

/-- A table is read by statements if one of them reads it. -/
theorem mem_tables_factsOf_iff {statements : List Statement} {table : String} :
    table ∈ (factsOf statements).tables.toList ↔
      ∃ s ∈ statements, table ∈ (Node.statement s).effect.read := by
  have nothing : table ∉ Facts.none.tables.toList := List.not_mem_nil
  rw [factsOf_eq, Facts.learn, UniqueList.mem_extend, or_iff_right nothing, Effect.ofStatements,
    Effect.mem_total Effect.read rfl fun _ _ => rfl]
  simp

/-- A function is called by statements if one of them calls it. -/
theorem mem_functions_factsOf_iff {statements : List Statement} {signature : String} :
    signature ∈ (factsOf statements).functions.toList ↔
      ∃ s ∈ statements, signature ∈ (Node.statement s).effect.called := by
  have nothing : signature ∉ Facts.none.functions.toList := List.not_mem_nil
  rw [factsOf_eq, Facts.learn, UniqueList.mem_extend, or_iff_right nothing, Effect.ofStatements,
    Effect.mem_total Effect.called rfl fun _ _ => rfl]
  simp

/-- **Statements do not leak into each other.** The tables of a sequence are those of its first part
and behind them those of its second part that are not there already, and so are the functions.
Behind the first part no scope is open and no mark of a table function is set. -/
theorem facts_of_sequence (first second : List Statement) :
    (factsOf (first ++ second)).tables.toList =
        (factsOf first).tables.toList ++
          (factsOf second).tables.toList.filter
            (fun table => table ∉ (factsOf first).tables.toList) ∧
      (factsOf (first ++ second)).functions.toList =
        (factsOf first).functions.toList ++
          (factsOf second).functions.toList.filter
            (fun function => function ∉ (factsOf first).functions.toList) ∧
      Survey.start.run (first.flatMap Walk.statement) = ⟨[], false, factsOf first⟩ := by
  have split : factsOf (first ++ second) =
      (factsOf first).learn (.ofStatements second) := by
    rw [factsOf_eq, factsOf_eq, ← Facts.learn_append]
    simp only [Effect.ofStatements, List.map_append, Effect.total_append]
  have alone : factsOf second =
      ⟨.ofList (Effect.ofStatements second).read, .ofList (Effect.ofStatements second).called⟩ :=
    factsOf_eq second
  refine ⟨?_, ?_, ?_⟩
  · rw [split, alone, Facts.learn, UniqueList.toList_extend, UniqueList.toList_ofList]
  · rw [split, alone, Facts.learn, UniqueList.toList_extend, UniqueList.toList_ofList]
  · rw [Survey.start, Survey.run_statements, factsOf_eq]

end Grammar
end SqlLineage
