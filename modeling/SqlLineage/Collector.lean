import SqlLineage.Finding
import SqlLineage.Repository

/-!
# Collecting lineage

A collector inspects jobs and merges their lineages into a result. What it finds in a job depends on
the document of that job alone, not on what it found before. A job that fails keeps what was found
in it before the failure.
-/

namespace SqlLineage

/-- What is found in a job. -/
structure JobFindings where
  /-- The job. -/
  job : Job
  /-- What is found in its document, or why there is none. -/
  outcome : Except LineageError (List Finding)

namespace JobFindings

/-- What is found in a job of which the document is known, or why it is not. -/
def ofDocument (grammar : SqlGrammar) (policy : ExtractionPolicy) (job : Job)
    (document : Except LineageError JobDocument) : JobFindings :=
  ⟨job, document.map (Finding.ofDocument grammar policy)⟩

/-- What was found. -/
def findings (found : JobFindings) : List Finding :=
  match found.outcome with
  | .ok findings => findings
  | .error _ => []

/-- The lineage that was found. -/
def lineage (found : JobFindings) : JobLineage :=
  Finding.lineage found.findings

/-- The error that kept the job from being searched to its end. -/
def failure? (found : JobFindings) : Option LineageError :=
  match found.outcome with
  | .ok findings => Finding.failure? findings
  | .error error => some error

/-- The records of inspecting the job in a search. -/
def records (grammar : SqlGrammar) (found : JobFindings) : List LogRecord :=
  Reading.record .debug "Find tables in job" [("job", found.job.display)] ::
    found.findings.flatMap (Finding.records grammar found.job) ++
    match found.failure? with
    | none => []
    | some error =>
      [Reading.record .error "Find tables in job failed"
        [("job", found.job.display), ("error", error.message)]]

end JobFindings

namespace SearchStats

/-- How many jobs were found and how many of them failed. -/
def ofFindings (found : List JobFindings) : SearchStats :=
  ⟨found.length, found.countP (·.failure?.isSome)⟩

/-- The record of a search that is finished. -/
def logRecord (stats : SearchStats) : LogRecord :=
  Reading.record .info "Search finished"
    [("jobs_found", toString stats.jobsFound), ("jobs_failed", toString stats.jobsFailed)]

end SearchStats

/-- The result with what was found in a job. -/
def LineageResult.adopt (result : LineageResult) (found : JobFindings) : LineageResult :=
  result.merge found.job found.lineage

/-- What collects lineage, and what it has collected. -/
structure Collector where
  /-- Where the jobs are. -/
  repository : Repository
  /-- The grammar of SQL. -/
  grammar : SqlGrammar
  /-- How SQL is read. -/
  policy : ExtractionPolicy
  /-- What was collected. -/
  result : LineageResult

namespace Collector

/-- A collector that has not collected anything. -/
def new (repository : Repository) (grammar : SqlGrammar) (policy : ExtractionPolicy) : Collector :=
  ⟨repository, grammar, policy, .empty⟩

/-- What is found in a job. -/
def inspect (collector : Collector) (job : Job) : JobFindings :=
  .ofDocument collector.grammar collector.policy job (collector.repository.document job)

/-- The collector with what was found in a job. -/
def adopt (collector : Collector) (found : JobFindings) : Collector :=
  { collector with result := collector.result.adopt found }

/-- Collects the lineage of a job, and tells why it is not all of it. -/
def collect (collector : Collector) (job : Job) : Option LineageError × Collector :=
  let found := collector.inspect job
  (found.failure?, collector.adopt found)

/-- Collects the lineages of the jobs that a pattern selects. -/
def search (collector : Collector) (pattern : String) (onlyLatest : Bool) :
    Except LineageError (SearchStats × Collector) := do
  let found := (← collector.repository.select pattern onlyLatest).map collector.inspect
  return (.ofFindings found, found.foldl adopt collector)

/-- The collector with another preference for the grammar. -/
def preferGrammar (collector : Collector) (prefer : Bool) : Collector :=
  { collector with policy := collector.policy.preferGrammar prefer }

/-- The collector with another preference for scanning. -/
def preferPattern (collector : Collector) (prefer : Bool) : Collector :=
  { collector with policy := collector.policy.preferPattern prefer }

end Collector

end SqlLineage
