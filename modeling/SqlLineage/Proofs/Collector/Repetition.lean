import SqlLineage.Proofs.Collector.Run
import SqlLineage.Proofs.Lineage.Growth

/-!
# Searches that are repeated

Whatever a collector is asked for, its result only grows. What a search has found stays in the
result, and since the jobs and their documents do not change, the same search finds the same again:
it has the same counts and adds nothing.
-/

namespace SqlLineage
namespace Collector

/-! ## Growth -/

theorem growsTo_foldl_adopt (collector : Collector) (found : List JobFindings) :
    collector.result.GrowsTo (found.foldl adopt collector).result := by
  induction found generalizing collector with
  | nil => exact .refl _
  | cons findings found inductionHypothesis =>
      have first := collector.result.growsTo_merge findings.job findings.lineage
      exact first.trans (inductionHypothesis (collector.adopt findings))

/-- A request lets the result grow. -/
theorem growsTo_perform (collector : Collector) (request : Request) :
    collector.result.GrowsTo (collector.perform request).result := by
  cases request with
  | collect job => exact collector.growsTo_foldl_adopt [collector.inspect job]
  | search pattern onlyLatest =>
      rw [perform, search]
      cases collector.repository.select pattern onlyLatest with
      | error error => exact .refl _
      | ok jobs => exact collector.growsTo_foldl_adopt (jobs.map collector.inspect)
  | preferGrammar prefer | preferPattern prefer => exact .refl _

/-- Requests let the result grow. -/
theorem growsTo_performAll (collector : Collector) (requests : List Request) :
    collector.result.GrowsTo (collector.performAll requests).result := by
  induction requests generalizing collector with
  | nil => exact .refl _
  | cons request requests inductionHypothesis =>
      have first := collector.growsTo_perform request
      exact first.trans (inductionHypothesis (collector.perform request))

/-! ## What a search has found -/

/-- What was found in a job is in the result. -/
theorem holds_foldl_adopt
    (collector : Collector)
    {found : List JobFindings}
    {findings : JobFindings}
    (member : findings ∈ found) :
    (found.foldl adopt collector).result.Holds findings.job findings.lineage := by
  induction found generalizing collector with
  | nil => simp at member
  | cons first found inductionHypothesis =>
      rcases List.mem_cons.1 member with rfl | member
      · have holds := collector.result.holds_merge findings.job findings.lineage
        exact holds.of_growsTo ((collector.adopt findings).growsTo_foldl_adopt found)
      · exact inductionHypothesis (collector.adopt first) member

/-- Findings that are in the result change nothing. -/
theorem foldl_adopt_eq
    {collector : Collector}
    {found : List JobFindings}
    (holds : ∀ findings ∈ found, collector.result.Holds findings.job findings.lineage) :
    found.foldl adopt collector = collector := by
  induction found with
  | nil => rfl
  | cons findings found inductionHypothesis =>
      obtain ⟨head, tail⟩ := List.forall_mem_cons.1 holds
      have unchanged : collector.adopt findings = collector := by
        rw [adopt, LineageResult.adopt, head.merge_eq]
      rw [List.foldl_cons, unchanged, inductionHypothesis tail]

theorem exists_foldl_adopt_eq (collector : Collector) (found : List JobFindings) :
    ∃ result, found.foldl adopt collector = { collector with result := result } := by
  induction found generalizing collector with
  | nil => exact ⟨collector.result, rfl⟩
  | cons findings found inductionHypothesis =>
      exact inductionHypothesis (collector.adopt findings)

/-- A request changes neither the jobs nor the grammar. -/
theorem exists_perform_eq (collector : Collector) (request : Request) :
    ∃ policy result, collector.perform request =
      { collector with policy := policy, result := result } := by
  cases request with
  | collect job => exact ⟨_, _, rfl⟩
  | search pattern onlyLatest =>
      rw [perform, search]
      cases collector.repository.select pattern onlyLatest with
      | error error => exact ⟨_, _, rfl⟩
      | ok jobs =>
          obtain ⟨result, adopted⟩ :=
            collector.exists_foldl_adopt_eq (jobs.map collector.inspect)
          exact ⟨_, result, adopted⟩
  | preferGrammar prefer | preferPattern prefer => exact ⟨_, _, rfl⟩

theorem exists_performAll_eq (collector : Collector) (requests : List Request) :
    ∃ policy result, collector.performAll requests =
      { collector with policy := policy, result := result } := by
  induction requests generalizing collector with
  | nil => exact ⟨_, _, rfl⟩
  | cons request requests inductionHypothesis =>
      obtain ⟨policy, result, performed⟩ := collector.exists_perform_eq request
      obtain ⟨last, final, performedAll⟩ := inductionHypothesis (collector.perform request)
      refine ⟨last, final, ?_⟩
      rw [performAll] at performedAll ⊢
      rw [List.foldl_cons, performedAll, performed]

/-- A search that succeeds has selected jobs. -/
theorem exists_select_of_search
    {collector searched : Collector}
    {pattern : String}
    {onlyLatest : Bool}
    {stats : SearchStats}
    (success : collector.search pattern onlyLatest = .ok (stats, searched)) :
    ∃ jobs, collector.repository.select pattern onlyLatest = .ok jobs ∧
      stats = .ofFindings (jobs.map collector.inspect) ∧
      searched = (jobs.map collector.inspect).foldl adopt collector := by
  rw [search] at success
  cases selects : collector.repository.select pattern onlyLatest with
  | error error =>
      rw [selects] at success
      cases success
  | ok jobs =>
      rw [selects] at success
      obtain ⟨rfl, rfl⟩ := Prod.mk.inj (Except.ok.inj success)
      exact ⟨jobs, rfl, rfl, rfl⟩

/-- **Collecting only appends, and a search may be repeated.** Whatever a collector is asked for, in
any state, each list of its result stays the beginning of the same list, and no entry goes away or
changes its place. If a search succeeds and the collector is then asked for anything, until its
policy is that of the search again, the same search gives the same counts and leaves the collector
with its result as it is. -/
theorem performAll_appends_and_search_repeats (collector : Collector) :
    (∀ requests, collector.result.GrowsTo (collector.performAll requests).result) ∧
      ∀ pattern onlyLatest stats searched between,
        collector.search pattern onlyLatest = .ok (stats, searched) →
        (searched.performAll between).policy = collector.policy →
        (searched.performAll between).search pattern onlyLatest =
          .ok (stats, searched.performAll between) := by
  refine ⟨collector.growsTo_performAll, ?_⟩
  intro pattern onlyLatest stats searched between success samePolicy
  obtain ⟨jobs, selects, rfl, rfl⟩ := exists_select_of_search success
  have grown := growsTo_performAll ((jobs.map collector.inspect).foldl adopt collector) between
  -- The jobs, the grammar and the policy are those of the search, so the same is found in each job.
  have same : ∃ result,
      ((jobs.map collector.inspect).foldl adopt collector).performAll between =
        { collector with result := result } := by
    obtain ⟨found, adopted⟩ := collector.exists_foldl_adopt_eq (jobs.map collector.inspect)
    obtain ⟨policy, result, performed⟩ := exists_performAll_eq
      ((jobs.map collector.inspect).foldl adopt collector) between
    rw [performed, adopted] at samePolicy ⊢
    obtain rfl : policy = collector.policy := samePolicy
    exact ⟨result, rfl⟩
  obtain ⟨result, later⟩ := same
  rw [later] at grown ⊢
  have again : ((jobs.map collector.inspect).foldl adopt { collector with result := result }) =
      { collector with result := result } := by
    refine foldl_adopt_eq fun findings member => ?_
    exact (collector.holds_foldl_adopt member).of_growsTo grown
  rw [search]
  simp only [selects]
  exact congrArg (fun later => Except.ok (SearchStats.ofFindings _, later)) again

/-- A component that runs SQL. -/
def running (sql : String) : ComponentNode :=
  ⟨"tInput", [⟨"UNIQUE_NAME", "TEXT", "in"⟩, ⟨"QUERY", "MEMO_SQL", "\"" ++ sql ++ "\""⟩]⟩

/-- The first and the second version of a job. -/
def loads : List Job :=
  [Repository.givenJob "load" "1.0", Repository.givenJob "load" "2.0"]

/-- The documents of two versions of a job, of which only one runs SQL that the grammar accepts, and
another job without a document. -/
def loadsAndBroken : OrderedMap Job (Option JobDocument) :=
  ((OrderedMap.empty.insert (Repository.givenJob "load" "1.0")
    (some ⟨[], [running "SELECT * FROM a"]⟩)).insert (Repository.givenJob "load" "2.0")
      (some ⟨[], [running "JOIN b"]⟩)).insert (Repository.givenJob "broken" "1.0") none

/-- Jobs are collected by scanning, before the preferences become what they were. -/
def scanBetween : List Request :=
  [.preferGrammar false, .collect (Repository.givenJob "load" "2.0"),
    .collect (Repository.givenJob "broken" "1.0"), .preferGrammar true, .preferPattern false]

theorem search_of_loads_repeats :
    let collector := new (.ofDocuments loadsAndBroken) .generic .grammarOnly
    ∃ searched, collector.search "load" false = .ok (⟨2, 0⟩, searched) ∧
      (searched.performAll scanBetween).policy = collector.policy ∧
      (searched.performAll scanBetween).search "load" false =
        .ok (⟨2, 0⟩, searched.performAll scanBetween) ∧
      searched.result.components "load" = [("in", ["a"])] ∧
      (searched.performAll scanBetween).result.components "load" = [("in", ["a", "b"])] := by
  intro collector
  have matching : (match Regex.parse (JobSelection.anchored "load") with
    | .ok regex => loadsAndBroken.keys.filter fun job => regex.occursIn job.name
    | .error _ => []) = loads := by decide +kernel
  have selects : collector.repository.select "load" false = .ok loads := by
    cases parsed : Regex.parse (JobSelection.anchored "load") with
    | error fault => simp [parsed, loads] at matching
    | ok regex =>
        rw [parsed] at matching
        rw [← matching]
        exact Repository.select_ofDocuments loadsAndBroken parsed
  let found := loads.map collector.inspect
  have success : collector.search "load" false = .ok (⟨2, 0⟩, found.foldl adopt collector) := by
    have counts : SearchStats.ofFindings found = ⟨2, 0⟩ := by decide +kernel
    rw [search, selects, ← counts]
    rfl
  have samePolicy : ((found.foldl adopt collector).performAll scanBetween).policy =
      collector.policy := by decide +kernel
  refine ⟨_, success, samePolicy, ?_, by decide +kernel, by decide +kernel⟩
  exact (performAll_appends_and_search_repeats collector).2 _ _ _ _ scanBetween success samePolicy

end Collector
end SqlLineage
