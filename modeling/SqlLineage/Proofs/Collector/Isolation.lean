import SqlLineage.Collector
import SqlLineage.Proofs.Lineage.Merge

/-!
# Jobs do not affect each other

A search collects one job after the other into one result. The entries of a job in that result come
from its own document alone: other jobs leave them as they are, and a job that comes in again
changes nothing. Jobs that compare as equal are one job.
-/

namespace SqlLineage

namespace Collector

/-! ## The entries of one job -/

/-- Once the lineage of a job is in its entries, findings in which the job has no other lineage
leave them alone. -/
theorem entries_foldl_adopt_of_merged
    {found : List JobFindings}
    {job : Job}
    {lineage : JobLineage}
    (agree : ∀ findings ∈ found, compare findings.job job = .eq → findings.lineage = lineage)
    (collector : Collector)
    (merged : (collector.result.entries job).merge lineage = collector.result.entries job) :
    (found.foldl adopt collector).result.entries job = collector.result.entries job := by
  induction found generalizing collector with
  | nil => rfl
  | cons findings found inductionHypothesis =>
      obtain ⟨agreeHead, agreeTail⟩ := List.forall_mem_cons.1 agree
      have unchanged : (collector.adopt findings).result.entries job =
          collector.result.entries job := by
        rw [adopt, LineageResult.adopt]
        by_cases equal : compare findings.job job = .eq
        · rw [LineageResult.entries_merge_of_eq equal, agreeHead equal, merged]
        · rw [LineageResult.entries_merge_of_ne equal]
      rw [List.foldl_cons, inductionHypothesis agreeTail _ (by rw [unchanged, merged]), unchanged]

/-- The entries of a job in which something was searched get its lineage, whatever is found in other
jobs. -/
theorem entries_foldl_adopt
    {found : List JobFindings}
    {job : Job}
    {lineage : JobLineage}
    (agree : ∀ findings ∈ found, compare findings.job job = .eq → findings.lineage = lineage)
    (listed : ∃ findings ∈ found, compare findings.job job = .eq)
    (collector : Collector) :
    (found.foldl adopt collector).result.entries job =
      (collector.result.entries job).merge lineage := by
  -- Up to the first findings of the job its entries stay as they are, and from there on its lineage
  -- is in them.
  induction found generalizing collector with
  | nil => simp at listed
  | cons findings found inductionHypothesis =>
      obtain ⟨agreeHead, agreeTail⟩ := List.forall_mem_cons.1 agree
      rw [List.foldl_cons]
      by_cases equal : compare findings.job job = .eq
      · have own : (collector.adopt findings).result.entries job =
            (collector.result.entries job).merge lineage := by
          rw [adopt, LineageResult.adopt, LineageResult.entries_merge_of_eq equal, agreeHead equal]
        rw [entries_foldl_adopt_of_merged agreeTail _
          (by rw [own, JobEntries.merge_merge_self]), own]
      · have listedTail : ∃ findings ∈ found, compare findings.job job = .eq := by
          obtain ⟨other, member, equalOther⟩ := listed
          rcases List.mem_cons.1 member with rfl | member
          · exact absurd equalOther equal
          · exact ⟨other, member, equalOther⟩
        rw [inductionHypothesis agreeTail listedTail, adopt, LineageResult.adopt,
          LineageResult.entries_merge_of_ne equal]

/-! ## Searches -/

/-- One round of a search: a job is collected, and counted if it failed. -/
def visit (progress : SearchStats × Collector) (job : Job) : SearchStats × Collector :=
  let collected := progress.2.collect job
  (⟨progress.1.jobsFound, progress.1.jobsFailed + collected.1.isSome.toNat⟩, collected.2)

/-- What is found in a job does not depend on what was collected before. -/
theorem inspect_adopt (collector : Collector) (found : JobFindings) :
    (collector.adopt found).inspect = collector.inspect := rfl

theorem foldl_visit (jobs : List Job) (stats : SearchStats) (collector : Collector) :
    jobs.foldl visit (stats, collector) =
      (⟨stats.jobsFound,
        stats.jobsFailed + jobs.countP fun job => (collector.collect job).1.isSome⟩,
        (jobs.map collector.inspect).foldl adopt collector) := by
  induction jobs generalizing stats collector with
  | nil => rfl
  | cons job jobs inductionHypothesis =>
      have counted : (job :: jobs).countP (fun job => (collector.collect job).1.isSome) =
          (collector.collect job).1.isSome.toNat +
            jobs.countP fun job => (collector.collect job).1.isSome := by
        rw [List.countP_cons]
        cases (collector.collect job).1.isSome <;> simp [Nat.add_comm]
      rw [List.foldl_cons, visit, inductionHypothesis, counted, ← Nat.add_assoc]
      simp only [collect, inspect_adopt, List.map_cons, List.foldl_cons]

/-- A search is a loop over the listed jobs. -/
theorem search_eq_foldl_visit
    (collector : Collector)
    (pattern : String)
    (onlyLatest : Bool) :
    collector.search pattern onlyLatest =
      (collector.repository.select pattern onlyLatest).map fun jobs =>
        jobs.foldl visit (⟨jobs.length, 0⟩, collector) := by
  rw [search]
  cases collector.repository.select pattern onlyLatest with
  | error error => rfl
  | ok jobs =>
      have counted : SearchStats.ofFindings (jobs.map collector.inspect) =
          ⟨jobs.length, jobs.countP fun job => (collector.collect job).1.isSome⟩ := by
        rw [SearchStats.ofFindings, List.length_map, List.countP_map]
        rfl
      rw [Except.map, foldl_visit, Nat.zero_add, ← counted]
      rfl

/-- What a search gives, if the jobs can be listed. -/
theorem search_of_select
    (collector : Collector)
    {pattern : String}
    {onlyLatest : Bool}
    {jobs : List Job}
    (selects : collector.repository.select pattern onlyLatest = .ok jobs) :
    collector.search pattern onlyLatest =
      .ok (⟨jobs.length, jobs.countP fun job => (collector.collect job).1.isSome⟩,
        (jobs.map collector.inspect).foldl adopt collector) := by
  rw [search_eq_foldl_visit, selects, Except.map, foldl_visit, Nat.zero_add]

/-- A search fails exactly if the jobs cannot be listed. -/
theorem search_eq_error_iff
    (collector : Collector)
    (pattern : String)
    (onlyLatest : Bool)
    (error : LineageError) :
    collector.search pattern onlyLatest = .error error ↔
      collector.repository.select pattern onlyLatest = .error error := by
  rw [search_eq_foldl_visit]
  cases collector.repository.select pattern onlyLatest <;> simp [Except.map]

/-- Whether a search of given documents lists a job. -/
def Lists
    (documents : OrderedMap Job (Option JobDocument))
    (pattern : String)
    (onlyLatest : Bool)
    (job : Job) :
    Prop :=
  ∃ jobs, (Repository.ofDocuments documents).select pattern onlyLatest = .ok jobs ∧
    ∃ listed ∈ jobs, compare listed job = .eq

/-- A search for all versions lists every given job whose name the pattern matches. -/
theorem lists_of_occursIn
    {documents : OrderedMap Job (Option JobDocument)}
    {pattern : String}
    {regex : Regex}
    {job : Job}
    (parsed : Regex.parse (JobSelection.anchored pattern) = .ok regex)
    (given : job ∈ documents.keys)
    (occurs : regex.occursIn job.name = true) :
    Lists documents pattern false job := by
  refine ⟨JobSelection.sorted (documents.keys.filter fun job => regex.occursIn job.name), ?_,
    job, ?_, Std.ReflOrd.compare_self⟩
  · change JobSelection.select pattern false documents.keys = _
    rw [JobSelection.select, parsed]
    rfl
  · exact List.mem_mergeSort.2 (List.mem_filter.2 ⟨given, occurs⟩)

/-- The lineage that is found in a job depends on its given document alone. -/
theorem lineage_inspect_congr
    (grammar : SqlGrammar)
    (policy : ExtractionPolicy)
    {documents others : OrderedMap Job (Option JobDocument)}
    {job other : Job}
    (sameDocument : documents.get? job = others.get? other) :
    ((new (.ofDocuments documents) grammar policy).inspect job).lineage =
      ((new (.ofDocuments others) grammar policy).inspect other).lineage := by
  simp only [inspect, new, Repository.ofDocuments, sameDocument]
  rcases others.get? other with _ | _ | document <;> rfl

/-- A job that is collected gets the entries of its lineage. -/
theorem entries_collect (collector : Collector) (job : Job) :
    (collector.collect job).2.result.entries job =
      (collector.result.entries job).merge (collector.inspect job).lineage :=
  LineageResult.entries_merge_of_eq Std.ReflOrd.compare_self collector.result _

/-- After a search of given documents the entries of a listed job are those that its lineage gives
alone. -/
theorem entries_search
    (grammar : SqlGrammar)
    (policy : ExtractionPolicy)
    {pattern : String}
    {onlyLatest : Bool}
    {documents : OrderedMap Job (Option JobDocument)}
    {job : Job}
    (lists : Lists documents pattern onlyLatest job) :
    ∃ stats collector,
      (new (.ofDocuments documents) grammar policy).search pattern onlyLatest =
        .ok (stats, collector) ∧
      collector.result.entries job =
        ((new (.ofDocuments documents) grammar policy).collect job).2.result.entries job := by
  obtain ⟨jobs, selects, listed, member, equal⟩ := lists
  have agree : ∀ findings ∈ jobs.map (new (.ofDocuments documents) grammar policy).inspect,
      compare findings.job job = .eq →
        findings.lineage = ((new (.ofDocuments documents) grammar policy).inspect job).lineage := by
    intro findings found equalOther
    obtain ⟨other, _, rfl⟩ := List.mem_map.1 found
    exact lineage_inspect_congr grammar policy (OrderedMap.get?_congr documents equalOther)
  have present : ∃ findings ∈ jobs.map (new (.ofDocuments documents) grammar policy).inspect,
      compare findings.job job = .eq :=
    ⟨_, List.mem_map_of_mem member, equal⟩
  refine ⟨_, _, search_of_select _ selects, ?_⟩
  rw [entries_foldl_adopt agree present, entries_collect]

/-- **One job never affects another in a search.** Of any two collections of documents in which a
search lists a job and which have the same document for it, or none, the search gives the job the
same entries, and these are the entries that collecting the job alone gives, whatever other jobs
there are. A search of any repository fails exactly if its jobs cannot be listed; otherwise it
counts the listed jobs, and among them those for which collecting fails. -/
theorem search_isolates_jobs
    (grammar : SqlGrammar)
    (policy : ExtractionPolicy)
    (pattern : String)
    (onlyLatest : Bool)
    (first second : OrderedMap Job (Option JobDocument))
    (job : Job)
    (listedInFirst : Lists first pattern onlyLatest job)
    (listedInSecond : Lists second pattern onlyLatest job)
    (sameDocument : first.get? job = second.get? job) :
    (∃ stats₁ stats₂ collector₁ collector₂,
      (new (.ofDocuments first) grammar policy).search pattern onlyLatest =
        .ok (stats₁, collector₁) ∧
      (new (.ofDocuments second) grammar policy).search pattern onlyLatest =
        .ok (stats₂, collector₂) ∧
      collector₁.result.entries job = collector₂.result.entries job ∧
      collector₁.result.entries job =
        ((new (.ofDocuments first) grammar policy).collect job).2.result.entries job) ∧
    ∀ repository : Repository,
      (∀ error, (new repository grammar policy).search pattern onlyLatest = .error error ↔
        repository.select pattern onlyLatest = .error error) ∧
      ∀ jobs, repository.select pattern onlyLatest = .ok jobs →
        ∃ collector, (new repository grammar policy).search pattern onlyLatest =
          .ok (⟨jobs.length,
            jobs.countP fun job => ((new repository grammar policy).collect job).1.isSome⟩,
            collector) := by
  obtain ⟨stats₁, collector₁, search₁, entries₁⟩ := entries_search grammar policy listedInFirst
  obtain ⟨stats₂, collector₂, search₂, entries₂⟩ := entries_search grammar policy listedInSecond
  have sameLineage := lineage_inspect_congr grammar policy sameDocument
  constructor
  · refine ⟨stats₁, stats₂, collector₁, collector₂, search₁, search₂, ?_, entries₁⟩
    rw [entries₁, entries₂, entries_collect, entries_collect, sameLineage]
    rfl
  · intro repository
    refine ⟨search_eq_error_iff (new repository grammar policy) pattern onlyLatest, ?_⟩
    intro jobs selects
    exact ⟨_, search_of_select (new repository grammar policy) selects⟩

/-- The documents of a job that writes a table. -/
def writingOnly : OrderedMap Job (Option JobDocument) :=
  OrderedMap.empty.insert (Repository.givenJob "load" "1.0") (some ⟨[], [⟨"tOutput",
    [⟨"UNIQUE_NAME", "TEXT", "out"⟩, ⟨"TABLE", "DBTABLE", "\"orders\""⟩]⟩]⟩)

/-- The documents of that job and of one whose document is missing. -/
def writingAndBroken : OrderedMap Job (Option JobDocument) :=
  writingOnly.insert (Repository.givenJob "broken" "1.0") .none

theorem search_isolates_writing_job :
    ∃ stats₁ stats₂ collector₁ collector₂,
      (new (.ofDocuments writingOnly) .generic default).search ".*" false =
        .ok (stats₁, collector₁) ∧
      (new (.ofDocuments writingAndBroken) .generic default).search ".*" false =
        .ok (stats₂, collector₂) ∧
      collector₁.result.entries (Repository.givenJob "load" "1.0") =
        collector₂.result.entries (Repository.givenJob "load" "1.0") ∧
      collector₁.result.entries (Repository.givenJob "load" "1.0") =
        ⟨.none, some (.ofList ["orders"]), .none⟩ := by
  have accepted : ∃ regex, Regex.parse (JobSelection.anchored ".*") = .ok regex ∧
      regex.occursIn "load" = true := by
    have occurs : (match Regex.parse (JobSelection.anchored ".*") with
      | .ok regex => regex.occursIn "load"
      | .error _ => false) = true := by decide +kernel
    cases parsed : Regex.parse (JobSelection.anchored ".*") with
    | ok regex => exact ⟨regex, rfl, by simpa [parsed] using occurs⟩
    | error fault => simp [parsed] at occurs
  obtain ⟨regex, parsed, occurs⟩ := accepted
  have inFirst : Repository.givenJob "load" "1.0" ∈ writingOnly.keys := by decide +kernel
  have inSecond : Repository.givenJob "load" "1.0" ∈ writingAndBroken.keys := by decide +kernel
  have alone : ((new (.ofDocuments writingOnly) .generic default).collect
      (Repository.givenJob "load" "1.0")).2.result.entries (Repository.givenJob "load" "1.0") =
        ⟨.none, some (.ofList ["orders"]), .none⟩ := by decide +kernel
  have isolated := search_isolates_jobs .generic default ".*" false writingOnly writingAndBroken
    (Repository.givenJob "load" "1.0") (lists_of_occursIn parsed inFirst occurs)
    (lists_of_occursIn parsed inSecond occurs) (by decide +kernel)
  rw [alone] at isolated
  exact isolated.1

end Collector
end SqlLineage
