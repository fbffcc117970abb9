import SqlLineage.Collector
import SqlLineage.Proofs.Finding
import SqlLineage.Proofs.OrderedMap

/-!
# What a failing job keeps

A job whose document has a component that fails gets the lineage of the document cut off before that
component: nothing of the component itself is kept, even if one of its parameters could be resolved,
and nothing behind it. Merging a lineage comes after every failure.
-/

namespace SqlLineage

namespace LineageResult

/-- A lineage that says nothing leaves no trace. -/
theorem merge_empty (result : LineageResult) (job : Job) :
    result.merge job .empty = result := rfl

end LineageResult

namespace Collector

/-- What collecting a job whose document is known gives. -/
theorem collect_of_document
    (collector : Collector)
    {job : Job}
    {document : JobDocument}
    (loaded : collector.repository.document job = .ok document) :
    (collector.collect job).1 =
        Finding.failure? (Finding.ofDocument collector.grammar collector.policy document) ∧
      (collector.collect job).2.result =
        collector.result.merge job (Finding.lineage
          (Finding.ofDocument collector.grammar collector.policy document)) := by
  rw [collect, inspect, loaded]
  exact ⟨rfl, rfl⟩

/-- Nothing is collected from a job whose document cannot be had. -/
theorem collect_of_error
    {collector : Collector}
    {job : Job}
    {error : LineageError}
    (missing : collector.repository.document job = .error error) :
    collector.collect job = (some error, collector) := by
  have unchanged := LineageResult.merge_empty collector.result job
  rw [collect, inspect, missing]
  exact congrArg (fun result => (some error, { collector with result := result })) unchanged

/-- **A failing job keeps exactly what came before the failure.** A job whose document cannot be had
changes nothing. A job none of whose components fails is collected without an error. Otherwise, let
`node` be the first whose component fails: the error names the component and its first reference
without a value, and the result is the same as for a repository in which the document is cut off
just before `node`. -/
theorem collect_keeps_front
    (collector : Collector)
    (job : Job) :
    (∀ error, collector.repository.document job = .error error →
      collector.collect job = (some error, collector)) ∧
    ∀ document, collector.repository.document job = .ok document →
      ((∀ component ∈ document.components.filterMap ComponentNode.component?,
          component.unbound? (.ofParameters document.context) = none) →
        (collector.collect job).1 = none) ∧
      ∀ front node behind component name,
        document.components = front ++ node :: behind →
        (∀ earlier ∈ front.filterMap ComponentNode.component?,
          earlier.unbound? (.ofParameters document.context) = none) →
        node.component? = some component →
        component.unbound? (.ofParameters document.context) = some name →
        (collector.collect job).1 = some (.unresolved component.id name) ∧
        ∀ cut : Repository,
          cut.document job = .ok { document with components := front } →
          ({ collector with repository := cut }.collect job).1 = none ∧
          (collector.collect job).2.result =
            ({ collector with repository := cut }.collect job).2.result := by
  refine ⟨fun error missing => collect_of_error missing, fun document loaded => ⟨?_, ?_⟩⟩
  · intro bound
    rw [(collect_of_document collector loaded).1]
    exact Finding.failure?_ofDocument collector.grammar collector.policy bound
  · intro front node behind component name split bound named unbound
    obtain ⟨finding, findings, failure⟩ := Finding.ofDocument_of_unbound
      collector.grammar collector.policy split bound named unbound
    have frontSucceeds : Finding.failure? (Finding.ofDocument collector.grammar collector.policy
        { document with components := front }) = none :=
      Finding.failure?_ofDocument collector.grammar collector.policy bound
    obtain ⟨error, result⟩ := collect_of_document collector loaded
    constructor
    · rw [error, findings, Finding.failure?, List.findSome?_append]
      rw [Finding.failure?] at frontSucceeds
      rw [frontSucceeds, List.findSome?_singleton, failure]
      rfl
    · intro cut cutLoaded
      obtain ⟨cutError, cutResult⟩ :=
        collect_of_document { collector with repository := cut } cutLoaded
      rw [cutError, cutResult, result, findings]
      refine ⟨frontSucceeds, congrArg (collector.result.merge job) ?_⟩
      rw [Finding.lineage, List.foldl_append, List.foldl_cons, List.foldl_nil,
        Finding.addTo_of_error failure]
      rfl

/-- An output that writes the table `orders`, with more parameters. -/
def ordersOutput (id : String) (more : List ElementParameter) : ComponentNode :=
  ⟨"tOutput", [⟨"UNIQUE_NAME", "TEXT", id⟩, ⟨"TABLE", "DBTABLE", "\"orders\""⟩] ++ more⟩

/-- A collector that knows the document of one job, which has these components. -/
def ofComponents (components : List ComponentNode) : Collector :=
  new (.ofDocuments (OrderedMap.empty.insert (Repository.givenJob "load" "1.0")
    (some ⟨[], components⟩))) .generic default

theorem document_ofComponents (components : List ComponentNode) (job : Job) :
    (ofComponents components).repository.document job =
      if compare (Repository.givenJob "load" "1.0") job = .eq then .ok ⟨[], components⟩
      else .error (.unreadable job .absent) := by
  simp only [ofComponents, new, Repository.ofDocuments, OrderedMap.insert, OrderedMap.get?_update,
    OrderedMap.get?_empty]
  by_cases same : compare (Repository.givenJob "load" "1.0") job = .eq <;> simp [same]

theorem collect_keeps_front_of_failing_schema :
    let load := Repository.givenJob "load" "1.0"
    let other := Repository.givenJob "other" "1.0"
    let first := ordersOutput "first" []
    let second := ordersOutput "second" [⟨"SCHEMA_DB", "TEXT", "context.absent"⟩]
    let third := ordersOutput "third" [⟨"SCHEMA_DB", "TEXT", "\"sales\""⟩]
    ((ofComponents [first, second, third]).collect other).1 =
        some (.unreadable other .absent) ∧
      ((ofComponents [first, third]).collect load).1 = .none ∧
      ((ofComponents [first, second, third]).collect load).1 =
        some (.unresolved "second" "absent") ∧
      ((ofComponents [first, second, third]).collect load).2.result =
        ((ofComponents [first]).collect load).2.result ∧
      ((ofComponents [first]).collect load).2.result.outputTables.get? load =
        some (.ofList ["orders"]) := by
  intro load other first second third
  have whole := collect_keeps_front (ofComponents [first, second, third])
  have loaded (components : List ComponentNode) :
      (ofComponents components).repository.document load = .ok ⟨[], components⟩ := by
    rw [document_ofComponents, if_pos (by decide +kernel)]
  have missing : (ofComponents [first, second, third]).repository.document other =
      .error (.unreadable other .absent) := by
    rw [document_ofComponents, if_neg (by decide +kernel)]
  have succeeds := ((collect_keeps_front (ofComponents [first, third]) load).2 _ (loaded _)).1
    (by decide +kernel)
  have fails := ((whole load).2 _ (loaded _)).2 [first] second [third]
    (.output "second" (some "\"orders\"") (some "context.absent")) "absent" rfl
    (by decide +kernel) (by decide +kernel) (by decide +kernel)
  refine ⟨?_, ?_, ?_, ?_, ?_⟩
  · rw [(whole other).1 _ missing]
  · exact succeeds
  · exact fails.1
  · exact (fails.2 (ofComponents [first]).repository (loaded _)).2
  · decide +kernel

end Collector
end SqlLineage
