import SqlLineage.Proofs.Collector.Run
import SqlLineage.Report.Text

/-!
# The breakdown of a job by components

Both reports show, for each job, the tables that it reads and a breakdown of them by components. The
components are those of all jobs with the name of the job, so the breakdown shows what any of these
jobs reads. It stays within the inputs of the job that it is printed under exactly if the other jobs
of the name, such as its other versions, read nothing else.
-/

namespace SqlLineage

namespace Report

/-- The members of an object. -/
def JsonValue.members : JsonValue → List (String × JsonValue)
  | object members => members
  | _ => []

/-- The member of an object that has a name. -/
def JsonValue.member? (value : JsonValue) (name : String) : Option JsonValue :=
  (value.members.find? fun member => member.1 == name).map Prod.snd

/-- The string that a value is. -/
def JsonValue.text? : JsonValue → Option String
  | text s => some s
  | _ => none

/-- The strings in an array. -/
def JsonValue.strings : JsonValue → List String
  | list elements => elements.filterMap text?
  | _ => []

/-- The inputs that the report of a job shows. -/
def inputs (entry : JsonValue) : List String :=
  ((entry.member? "input_tables").map JsonValue.strings).getD []

/-- The components that the report of a job shows, with their tables. -/
def breakdown (entry : JsonValue) : List (String × List String) :=
  ((entry.member? "input_tables_per_component").map fun components =>
    components.members.map fun member => (member.1, member.2.strings)).getD []

@[simp] theorem JsonValue.strings_texts (items : List String) :
    (JsonValue.texts items).strings = items := by
  simp [texts, strings, text?, List.filterMap_map, Function.comp_def]

@[simp] theorem inputs_jobJson (result : LineageResult) (job : Job) :
    inputs (jobJson result job) = LineageResult.members result.inputTables job := by
  simp [inputs, jobJson, JsonValue.member?, JsonValue.members]

@[simp] theorem breakdown_jobJson (result : LineageResult) (job : Job) :
    breakdown (jobJson result job) = result.components job.name := by
  simp [breakdown, jobJson, JsonValue.member?, JsonValue.members, Function.comp_def]

end Report

namespace LineageResult

/-- The tables of the components that are shown are those of the components that are kept. -/
theorem exists_mem_components_iff
    (result : LineageResult)
    (name table : String) :
    (∃ row ∈ result.components name, table ∈ row.2) ↔
      ∃ component tables, result.componentEntry name component = some tables ∧
        table ∈ tables.toList := by
  simp only [componentEntry, componentIn, components]
  cases result.inputTablesPerComponent.get? name with
  | none => simp
  | some components =>
      simp only [List.mem_map, Option.bind_some]
      constructor
      · rintro ⟨row, ⟨entry, present, rfl⟩, member⟩
        exact ⟨entry.1, entry.2, OrderedMap.get?_of_mem present, member⟩
      · rintro ⟨component, tables, found, member⟩
        obtain ⟨entry, present, _, rfl⟩ := OrderedMap.exists_mem_of_get?_eq_some found
        exact ⟨_, ⟨entry, present, rfl⟩, member⟩

/-- A job that reads a table is among the jobs of a result. -/
theorem exists_job_iff_exists_mem_jobs
    (result : LineageResult)
    (name table : String) :
    (∃ job tables, job.name = name ∧ result.inputTables.get? job = some tables ∧
        table ∈ tables.toList) ↔
      ∃ job ∈ result.jobs, job.name = name ∧ table ∈ members result.inputTables job := by
  simp only [mem_members_iff]
  constructor
  · rintro ⟨job, tables, rfl, found, member⟩
    obtain ⟨listed, inJobs, equal⟩ :=
      (result.exists_mem_jobs_iff job).2 (.inl (by rw [found]; rfl))
    exact ⟨listed, inJobs, Job.name_eq_of_compare_eq equal, tables,
      by rw [OrderedMap.get?_congr _ equal, found], member⟩
  · rintro ⟨job, _, named, tables, found, member⟩
    exact ⟨job, tables, named, found, member⟩

end LineageResult

namespace Collector

/-- **The breakdown of a job shows what the jobs with its name read.** The report for people shows
the inputs and the breakdown of the report for programs. A table is in the breakdown exactly if it
is an input of some job with the name of the job, so that all tables of the breakdown are inputs of
the job itself exactly if this holds of the inputs of all jobs with its name. -/
theorem breakdown_within_inputs_iff
    (repository : Repository)
    (grammar : SqlGrammar)
    (policy : ExtractionPolicy)
    (requests : List Request)
    (job : Job)
    (color : Bool) :
    let result := ((new repository grammar policy).performAll requests).result
    let entry := Report.jobJson result job
    Report.jobText color result job =
        "\nJob: " ++ Report.Style.bold.apply color job.display ++ "\n" ++
          Report.itemLines "Reads" (Report.inputs entry) ++
          Report.itemLines "Writes" (LineageResult.members result.outputTables job) ++
          Report.itemLines "Calls" (LineageResult.members result.functions job) ++
          Report.componentLines color (Report.breakdown entry) ∧
      (∀ table, (∃ row ∈ Report.breakdown entry, table ∈ row.2) ↔
        ∃ other ∈ result.jobs, other.name = job.name ∧
          table ∈ Report.inputs (Report.jobJson result other)) ∧
      ((∀ row ∈ Report.breakdown entry, row.2 ⊆ Report.inputs entry) ↔
        ∀ other ∈ result.jobs, other.name = job.name →
          Report.inputs (Report.jobJson result other) ⊆ Report.inputs entry) := by
  intro result entry
  obtain ⟨merges, linked, united⟩ := exists_merges_performAll repository grammar policy requests
  have shown (table : String) : (∃ row ∈ Report.breakdown entry, table ∈ row.2) ↔
      ∃ other ∈ result.jobs, other.name = job.name ∧
        table ∈ Report.inputs (Report.jobJson result other) := by
    simp only [entry, Report.breakdown_jobJson, Report.inputs_jobJson]
    rw [result.exists_mem_components_iff, ← result.exists_job_iff_exists_mem_jobs]
    simp only [result, united]
    exact LineageResult.exists_component_iff_exists_job linked job.name table
  refine ⟨?_, shown, ?_⟩
  · simp only [entry, Report.breakdown_jobJson, Report.inputs_jobJson]
    rfl
  · constructor
    · intro within other listed named table member
      obtain ⟨row, shownRow, inRow⟩ := (shown table).2 ⟨other, listed, named, member⟩
      exact within row shownRow inRow
    · intro within row shownRow table member
      obtain ⟨other, listed, named, read⟩ := (shown table).1 ⟨row, shownRow, member⟩
      exact within other listed named read

/-- The documents of two versions of a job, whose only component reads another table in each. -/
def twoVersions : OrderedMap Job (Option JobDocument) :=
  let reading (table : String) : JobDocument :=
    ⟨[], [⟨"tDBInput", [⟨"UNIQUE_NAME", "TEXT", "in"⟩,
      ⟨"QUERY", "MEMO_SQL", "\"SELECT * FROM " ++ table ++ "\""⟩]⟩]⟩
  (OrderedMap.empty.insert (Repository.givenJob "load" "1.0") (some (reading "a"))).insert
    (Repository.givenJob "load" "2.0") (some (reading "b"))

/-- After a search for all versions the first version is reported to read `a` alone, but the
breakdown under it shows `b`, which only the second version reads. -/
theorem breakdown_shows_other_version :
    let result := ((new (.ofDocuments twoVersions) .generic default).performAll
      [.search ".*" false]).result
    let job := Repository.givenJob "load" "1.0"
    let entry := Report.jobJson result job
    job ∈ result.jobs ∧ Report.inputs entry = ["a"] ∧
      Report.breakdown entry = [("in", ["a", "b"])] ∧
      Report.jobText false result job =
        "\nJob: load_1.0\n  Reads:\n    • a\n  Components:\n    in: a, b\n" := by
  have accepted : (match Regex.parse (JobSelection.anchored ".*") with
      | .ok regex => twoVersions.keys.filter fun job => regex.occursIn job.name
      | .error _ => []) = [Repository.givenJob "load" "1.0", Repository.givenJob "load" "2.0"] := by
    decide +kernel
  cases parsed : Regex.parse (JobSelection.anchored ".*") with
  | error fault => simp [parsed] at accepted
  | ok regex =>
      have selects := Repository.select_ofDocuments twoVersions parsed
      simp only [parsed] at accepted
      rw [accepted] at selects
      have searched := perform_search (new (.ofDocuments twoVersions) .generic default) selects
      simp only [performAll, List.foldl_cons, List.foldl_nil, searched]
      decide +kernel

end Collector
end SqlLineage
