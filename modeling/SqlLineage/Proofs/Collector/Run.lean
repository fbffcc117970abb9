import SqlLineage.Collector
import SqlLineage.Proofs.Lineage.Accumulation

/-!
# Runs of a collector

A collector may be asked for single jobs and for searches, any number of times. Whatever it is asked
for, its result is the union of lineages of jobs, and in each of them the tables that are read are
those that the components read.
-/

namespace SqlLineage

namespace Reading

/-- What is read from the SQL of a component comes to the job and to the component together. -/
theorem linked_addTo
    (component : String)
    {lineage : JobLineage}
    (linked : lineage.Linked)
    (reading : Reading) :
    (reading.addTo component lineage).Linked := by
  have inputs {lineage : JobLineage} (linked : lineage.Linked) (tables : List String) :
      (tables.foldl (·.addInput component ·) lineage).Linked :=
    List.foldlRecOn _ _ linked fun _ linked table _ => linked.addInput component table
  have facts (facts : Facts) : (addFacts component lineage facts).Linked :=
    List.foldlRecOn _ _ (inputs linked facts.tables.toList)
      fun _ linked signature _ => linked.addFunction signature
  cases reading with
  | scanned statements =>
      refine List.foldlRecOn _ _ linked fun lineage linked statement _ => ?_
      rw [addStatement]
      cases statement.2 with
      | none => exact inputs linked statement.1
      | some table => exact (inputs linked statement.1).addOutput table
  | parsed parsedFacts => exact facts parsedFacts
  | fallback error scannedFacts => exact facts scannedFacts
  | refused error => exact linked

end Reading

namespace Finding

theorem linked_lineage (findings : List Finding) : (lineage findings).Linked := by
  refine List.foldlRecOn _ _ JobLineage.linked_empty fun lineage linked finding _ => ?_
  cases finding with
  | skipped componentName error => exact linked
  | written table => exact linked.addOutput table
  | queried component query reading => exact reading.linked_addTo component linked
  | unresolved component query name => exact linked

end Finding

/-- A search for all versions of given jobs selects those whose name the pattern matches, which are
in order already. -/
theorem Repository.select_ofDocuments
    (documents : OrderedMap Job (Option JobDocument))
    {pattern : String}
    {regex : Regex}
    (parsed : Regex.parse (JobSelection.anchored pattern) = .ok regex) :
    (ofDocuments documents).select pattern false =
      .ok (documents.keys.filter fun job => regex.occursIn job.name) := by
  change JobSelection.select pattern false documents.keys = _
  rw [JobSelection.select, parsed]
  refine congrArg Except.ok (List.mergeSort_of_pairwise ?_)
  refine (documents.pairwise_keys.filter _).imp fun less => ?_
  rw [less]
  rfl

namespace Collector

/-- What a collector may be asked for. -/
inductive Request
  /-- The lineage of a job. -/
  | collect (job : Job)
  /-- The lineages of the jobs that a pattern selects. -/
  | search (pattern : String) (onlyLatest : Bool)
  /-- Another preference for the grammar. -/
  | preferGrammar (prefer : Bool)
  /-- Another preference for scanning. -/
  | preferPattern (prefer : Bool)

/-- The collector after a request. A search that fails leaves it as it is. -/
def perform (collector : Collector) : Request → Collector
  | .collect job => (collector.collect job).2
  | .search pattern onlyLatest =>
    match collector.search pattern onlyLatest with
    | .ok (_, searched) => searched
    | .error _ => collector
  | .preferGrammar prefer => collector.preferGrammar prefer
  | .preferPattern prefer => collector.preferPattern prefer

/-- The collector after requests. -/
def performAll (collector : Collector) (requests : List Request) : Collector :=
  requests.foldl perform collector

theorem performAll_collect (jobs : List Job) (collector : Collector) :
    collector.performAll (jobs.map .collect) =
      (jobs.map collector.inspect).foldl adopt collector := by
  induction jobs generalizing collector with
  | nil => rfl
  | cons job jobs inductionHypothesis =>
      -- What is found in the other jobs does not depend on what was collected from this one.
      exact inductionHypothesis (collector.adopt (collector.inspect job))

/-- A search collects the jobs that are selected, one after the other. -/
theorem perform_search
    (collector : Collector)
    {pattern : String}
    {onlyLatest : Bool}
    {jobs : List Job}
    (selects : collector.repository.select pattern onlyLatest = .ok jobs) :
    collector.perform (.search pattern onlyLatest) =
      collector.performAll (jobs.map .collect) := by
  rw [perform, search, selects, performAll_collect]
  rfl

/-- The result of a collector is the union of what was found in jobs. -/
def Unites (collector : Collector) (found : List JobFindings) : Prop :=
  collector.result = .ofMerges (found.map fun findings => (findings.job, findings.lineage))

namespace Unites

variable {collector : Collector} {found : List JobFindings}

theorem foldl_adopt
    (unites : collector.Unites found)
    (more : List JobFindings) :
    (more.foldl adopt collector).Unites (found ++ more) := by
  induction more generalizing collector found with
  | nil => simpa using unites
  | cons findings more inductionHypothesis =>
      have adopted : (collector.adopt findings).Unites (found ++ [findings]) := by
        rw [Unites, List.map_append, LineageResult.ofMerges, List.foldl_append]
        exact congrArg (fun result => result.adopt findings) unites
      simpa using inductionHypothesis adopted

/-- A request adds what it finds. -/
theorem perform
    (unites : collector.Unites found)
    (request : Request) :
    ∃ more, (collector.perform request).Unites (found ++ more) := by
  cases request with
  | collect job => exact ⟨[collector.inspect job], unites.foldl_adopt [collector.inspect job]⟩
  | search pattern onlyLatest =>
      rw [Collector.perform, search]
      cases collector.repository.select pattern onlyLatest with
      | error error => exact ⟨[], by simpa using unites⟩
      | ok jobs => exact ⟨_, unites.foldl_adopt (jobs.map collector.inspect)⟩
  | preferGrammar prefer | preferPattern prefer =>
      exact ⟨[], by rw [List.append_nil]; exact unites⟩

theorem performAll
    (unites : collector.Unites found)
    (requests : List Request) :
    ∃ more, (collector.performAll requests).Unites (found ++ more) := by
  induction requests generalizing collector found with
  | nil => exact ⟨[], by rw [List.append_nil]; exact unites⟩
  | cons request requests inductionHypothesis =>
      obtain ⟨first, afterFirst⟩ := unites.perform request
      obtain ⟨more, afterAll⟩ := inductionHypothesis afterFirst
      exact ⟨first ++ more, by rw [← List.append_assoc]; exact afterAll⟩

end Unites

/-- The result of a run is a union of lineages in which inputs and components are linked. -/
theorem exists_merges_performAll
    (repository : Repository)
    (grammar : SqlGrammar)
    (policy : ExtractionPolicy)
    (requests : List Request) :
    ∃ merges : List (Job × JobLineage), (∀ merge ∈ merges, merge.2.Linked) ∧
      ((new repository grammar policy).performAll requests).result = .ofMerges merges := by
  have start : (new repository grammar policy).Unites [] := rfl
  obtain ⟨found, unites⟩ := start.performAll requests
  refine ⟨_, fun merge member => ?_, unites⟩
  obtain ⟨findings, _, rfl⟩ := List.mem_map.1 member
  exact Finding.linked_lineage findings.findings

end Collector
end SqlLineage
