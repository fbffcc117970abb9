import SqlLineage.Lineage
import SqlLineage.Proofs.OrderedMap
import SqlLineage.Proofs.UniqueList

/-!
# Merging the lineage of a job

A merge puts the lists of a lineage behind the entries of its own job and leaves the entries of
other jobs alone. The tables of a component go to the component of all jobs with the name of the
job.
-/

namespace SqlLineage

/-- The entries of a job in a result: what it reads, writes and calls, if anything. -/
structure JobEntries where
  /-- The tables that are read. -/
  inputs : Option (UniqueList String)
  /-- The tables that are written. -/
  outputs : Option (UniqueList String)
  /-- The functions that are called. -/
  functions : Option (UniqueList String)
deriving DecidableEq

namespace JobEntries

/-- An entry with the members of a list behind its own, if there are any. -/
def extended
    (entry : Option (UniqueList String))
    (list : UniqueList String) :
    Option (UniqueList String) :=
  if list.isEmpty then entry else some ((entry.getD .empty).extend list.toList)

/-- The entries with a lineage of their job. -/
def merge (entries : JobEntries) (lineage : JobLineage) : JobEntries :=
  ⟨extended entries.inputs lineage.inputs, extended entries.outputs lineage.outputs,
    extended entries.functions lineage.functions⟩

@[simp] theorem extended_empty (entry : Option (UniqueList String)) :
    extended entry .empty = entry := rfl

theorem extended_extended_self
    (entry : Option (UniqueList String))
    (list : UniqueList String) :
    extended (extended entry list) list = extended entry list := by
  by_cases empty : list.isEmpty = true
  · simp [extended, empty]
  · simp [extended, empty, UniqueList.extend_extend_self]

/-- A lineage may be merged again. -/
theorem merge_merge_self (entries : JobEntries) (lineage : JobLineage) :
    (entries.merge lineage).merge lineage = entries.merge lineage := by
  simp only [merge, extended_extended_self]

end JobEntries

namespace LineageResult

/-- The entries of a job. -/
def entries (result : LineageResult) (job : Job) : JobEntries :=
  ⟨result.inputTables.get? job, result.outputTables.get? job, result.functions.get? job⟩

theorem get?_mergeList
    {κ : Type}
    [Ord κ]
    [Std.TransOrd κ]
    (map : OrderedMap κ (UniqueList String))
    (key other : κ)
    (list : UniqueList String) :
    (mergeList map key list).get? other =
      if compare key other = .eq then JobEntries.extended (map.get? other) list
      else map.get? other := by
  rw [mergeList, JobEntries.extended]
  split
  next => rw [ite_self]
  next => rw [OrderedMap.get?_update]

/-- A merge changes the entries of its own job. -/
theorem entries_merge_of_eq
    {job other : Job}
    (equal : compare job other = .eq)
    (result : LineageResult)
    (lineage : JobLineage) :
    (result.merge job lineage).entries other = (result.entries other).merge lineage := by
  simp only [entries, merge, get?_mergeList, if_pos equal, JobEntries.merge]

/-- A merge leaves the entries of other jobs alone. -/
theorem entries_merge_of_ne
    {job other : Job}
    (different : compare job other ≠ .eq)
    (result : LineageResult)
    (lineage : JobLineage) :
    (result.merge job lineage).entries other = result.entries other := by
  simp only [entries, merge, get?_mergeList, if_neg different]

theorem mem_members_iff
    {map : OrderedMap Job (UniqueList String)}
    {job : Job}
    {table : String} :
    table ∈ members map job ↔ ∃ tables, map.get? job = some tables ∧ table ∈ tables.toList := by
  rw [members]
  cases map.get? job <;> simp

/-- A merge gives the members of a list to the job, and nothing to other jobs. -/
theorem mem_members_mergeList_iff
    {map : OrderedMap Job (UniqueList String)}
    {job other : Job}
    {list : UniqueList String}
    {table : String} :
    table ∈ members (mergeList map job list) other ↔
      table ∈ members map other ∨ compare job other = .eq ∧ table ∈ list.toList := by
  rw [mem_members_iff, mem_members_iff, get?_mergeList]
  by_cases equal : compare job other = .eq
  · rw [if_pos equal, and_iff_right equal, JobEntries.extended]
    by_cases empty : list.isEmpty = true
    · have nothing : table ∉ list.toList := by
        rw [List.isEmpty_iff.1 empty]
        exact List.not_mem_nil
      rw [if_pos empty, or_iff_left nothing]
    · rw [if_neg empty]
      cases map.get? other <;> simp [UniqueList.empty]
  · simp only [equal, if_false, false_and, or_false]

/-! ## Components -/

/-- The tables of a component of the jobs with a name. -/
def componentIn
    (jobs : OrderedMap String (OrderedMap String (UniqueList String)))
    (name component : String) :
    Option (UniqueList String) :=
  (jobs.get? name).bind (·.get? component)

/-- The components of jobs with the tables of a component of a job called `name`. -/
def mergeComponent
    (name : String)
    (jobs : OrderedMap String (OrderedMap String (UniqueList String)))
    (entry : String × UniqueList String) :
    OrderedMap String (OrderedMap String (UniqueList String)) :=
  if entry.2.isEmpty then jobs
  else jobs.update name fun components => mergeList (components.getD .empty) entry.1 entry.2

theorem inputTablesPerComponent_merge
    (result : LineageResult)
    (job : Job)
    (lineage : JobLineage) :
    (result.merge job lineage).inputTablesPerComponent =
      lineage.perComponent.toList.foldl (mergeComponent job.name)
        result.inputTablesPerComponent := rfl

theorem componentIn_mergeComponent
    (name : String)
    (jobs : OrderedMap String (OrderedMap String (UniqueList String)))
    (entry : String × UniqueList String)
    (other component : String) :
    componentIn (mergeComponent name jobs entry) other component =
      if name = other ∧ entry.1 = component then
        JobEntries.extended (componentIn jobs other component) entry.2
      else componentIn jobs other component := by
  rw [mergeComponent]
  split
  next empty => rw [JobEntries.extended, if_pos empty, ite_self]
  next =>
    by_cases same : name = other
    · subst same
      have unfolded : ((jobs.get? name).getD .empty).get? component =
          componentIn jobs name component := by
        rw [componentIn]
        cases jobs.get? name <;> rfl
      rw [componentIn, OrderedMap.get?_update, if_pos Std.ReflOrd.compare_self, Option.bind_some,
        get?_mergeList, unfolded]
      simp only [Std.compare_eq_iff_eq, true_and]
    · have different : compare name other ≠ .eq := mt Std.compare_eq_iff_eq.1 same
      rw [componentIn, OrderedMap.get?_update, if_neg different,
        if_neg fun both => same both.1]
      rfl

/-- Each component gets its own tables, if the name is that of the job. -/
theorem componentIn_foldl_mergeComponent
    (name : String)
    {entries : List (String × UniqueList String)}
    (sorted : entries.Pairwise fun a b => compare a.1 b.1 = .lt)
    (jobs : OrderedMap String (OrderedMap String (UniqueList String)))
    (other component : String) :
    componentIn (entries.foldl (mergeComponent name) jobs) other component =
      if name = other then
        JobEntries.extended (componentIn jobs other component)
          ((OrderedMap.valueIn entries component).getD .empty)
      else componentIn jobs other component := by
  induction entries generalizing jobs with
  | nil => simp
  | cons entry entries inductionHypothesis =>
      obtain ⟨first, rest⟩ := List.pairwise_cons.1 sorted
      rw [List.foldl_cons, inductionHypothesis rest, componentIn_mergeComponent,
        OrderedMap.valueIn_cons]
      simp only [Std.compare_eq_iff_eq]
      by_cases own : entry.1 = component
      · -- The component does not come again, since the components increase.
        have absent : OrderedMap.valueIn entries component = none :=
          OrderedMap.valueIn_eq_none_of_lt (own ▸ first)
        by_cases same : name = other <;> simp [same, own, absent]
      · simp [own]

/-- The tables of a component of the jobs with a name. -/
def componentEntry (result : LineageResult) (name component : String) :
    Option (UniqueList String) :=
  componentIn result.inputTablesPerComponent name component

end LineageResult

/-- The tables that a component reads. -/
def JobLineage.component (lineage : JobLineage) (component : String) : UniqueList String :=
  (lineage.perComponent.get? component).getD .empty

/-- A merge changes the components of the jobs with the name of its job, and no others. -/
theorem LineageResult.componentEntry_merge
    (result : LineageResult)
    (job : Job)
    (lineage : JobLineage)
    (name component : String) :
    (result.merge job lineage).componentEntry name component =
      if job.name = name then
        JobEntries.extended (result.componentEntry name component) (lineage.component component)
      else result.componentEntry name component := by
  rw [componentEntry, inputTablesPerComponent_merge,
    componentIn_foldl_mergeComponent _ lineage.perComponent.sorted]
  rfl

end SqlLineage
