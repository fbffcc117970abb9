import SqlLineage.Proofs.Lineage.Merge

/-!
# A result as the union of what was merged

A result keeps, for each job and each component, the union of the lists that were merged: their
members in the order of the merges, each at its first occurrence. A list without members leaves no
trace. What the components of the jobs with a name read is what these jobs read, and the jobs of a
result are those that have an entry.
-/

namespace SqlLineage

/-- An entry is the union of lists: it is there if some list has a member, and holds the members of
all of them in order, each at its first occurrence. -/
structure IsUnion
    (entry : Option (UniqueList String))
    (lists : List (UniqueList String)) : Prop where
  /-- There is an entry exactly if there is a member. -/
  isSome_iff : entry.isSome ↔ ∃ list ∈ lists, list.toList ≠ []
  /-- The entry has the members of the lists. -/
  toList_eq : ∀ union, entry = some union →
    union.toList = (lists.flatMap UniqueList.toList).eraseDups

namespace IsUnion

variable {entry : Option (UniqueList String)} {lists : List (UniqueList String)}

/-- The members of an entry are those of the lists. -/
theorem mem_iff
    (isUnion : IsUnion entry lists)
    {value : String} :
    (∃ union, entry = some union ∧ value ∈ union.toList) ↔ ∃ list ∈ lists, value ∈ list.toList := by
  constructor
  · rintro ⟨union, found, member⟩
    rw [isUnion.toList_eq union found, List.mem_eraseDups] at member
    exact List.mem_flatMap.1 member
  · rintro ⟨list, listed, member⟩
    obtain ⟨union, found⟩ := Option.isSome_iff_exists.1
      (isUnion.isSome_iff.2 ⟨list, listed, List.ne_nil_of_mem member⟩)
    refine ⟨union, found, ?_⟩
    rw [isUnion.toList_eq union found, List.mem_eraseDups]
    exact List.mem_flatMap.2 ⟨list, listed, member⟩

/-- The members of an entry that unites what some merges give. -/
theorem mem_iff_exists_merge
    {merges : List (Job × JobLineage)}
    {counts : Job × JobLineage → Bool}
    {list : Job × JobLineage → UniqueList String}
    (isUnion : IsUnion entry ((merges.filter counts).map list))
    (value : String) :
    (∃ union, entry = some union ∧ value ∈ union.toList) ↔
      ∃ merge ∈ merges, counts merge = true ∧ value ∈ (list merge).toList := by
  rw [isUnion.mem_iff]
  simp [and_assoc]

/-- No entry is a list without members. -/
theorem ne_nil
    (isUnion : IsUnion entry lists)
    {union : UniqueList String}
    (found : entry = some union) :
    union.toList ≠ [] := by
  obtain ⟨list, listed, nonempty⟩ := isUnion.isSome_iff.1 (by rw [found]; rfl)
  obtain ⟨value, member⟩ := List.exists_mem_of_ne_nil _ nonempty
  obtain ⟨other, same, present⟩ := isUnion.mem_iff.2 ⟨list, listed, member⟩
  obtain rfl : other = union := Option.some.inj (same.symm.trans found)
  exact List.ne_nil_of_mem present

end IsUnion

namespace JobEntries

/-- Lists that come one after the other extend an entry as one list. -/
theorem foldl_extended
    (lists : List (UniqueList String))
    (entry : Option (UniqueList String)) :
    lists.foldl extended entry =
      if lists.flatMap UniqueList.toList = [] then entry
      else some ((entry.getD .empty).extend (lists.flatMap UniqueList.toList)) := by
  induction lists generalizing entry with
  | nil => rfl
  | cons list lists inductionHypothesis =>
      rw [List.foldl_cons, inductionHypothesis, extended, List.flatMap_cons]
      by_cases empty : list.toList = []
      · simp [UniqueList.isEmpty, empty]
      · simp only [UniqueList.isEmpty, List.isEmpty_iff, empty, List.append_eq_nil_iff, false_and,
          if_false, Option.getD_some, UniqueList.extend_append]
        split
        next none => rw [none, UniqueList.extend_nil]
        next => rfl

theorem isUnion_foldl_extended (lists : List (UniqueList String)) :
    IsUnion (lists.foldl extended none) lists := by
  rw [foldl_extended]
  constructor
  · have empty_iff : lists.flatMap UniqueList.toList = [] ↔
        ¬∃ list ∈ lists, list.toList ≠ [] := by
      simp [List.flatMap_eq_nil_iff]
    split
    next empty => exact iff_of_false Bool.false_ne_true (empty_iff.1 empty)
    next nonempty => exact iff_of_true rfl (not_not.1 (mt empty_iff.2 nonempty))
  · intro union found
    split at found
    next => cases found
    next =>
      obtain rfl := Option.some.inj found
      exact UniqueList.toList_ofList _

end JobEntries

namespace LineageResult

/-- The result of merging lineages of jobs in order. -/
def ofMerges (merges : List (Job × JobLineage)) : LineageResult :=
  merges.foldl (fun result merge => result.merge merge.1 merge.2) .empty

/-- An entry that a merge extends if it is one of certain jobs is the union of what these jobs
give. -/
theorem isUnion_ofMerges
    (entry : LineageResult → Option (UniqueList String))
    (entry_empty : entry .empty = none)
    (counts : Job → Bool)
    (list : JobLineage → UniqueList String)
    (entry_merge : ∀ result job lineage, entry (result.merge job lineage) =
      if counts job then JobEntries.extended (entry result) (list lineage) else entry result)
    (merges : List (Job × JobLineage)) :
    IsUnion (entry (ofMerges merges))
      ((merges.filter fun merge => counts merge.1).map fun merge => list merge.2) := by
  have run : entry (ofMerges merges) =
      ((merges.filter fun merge => counts merge.1).map fun merge => list merge.2).foldl
        JobEntries.extended none := by
    rw [List.foldl_map, List.foldl_filter, ← entry_empty]
    exact (List.foldl_hom entry fun result merge => (entry_merge result merge.1 merge.2).symm).symm
  rw [run]
  exact JobEntries.isUnion_foldl_extended _

theorem isUnion_componentEntry
    (merges : List (Job × JobLineage))
    (name component : String) :
    IsUnion ((ofMerges merges).componentEntry name component)
      ((merges.filter fun merge => merge.1.name = name).map fun merge =>
        merge.2.component component) := by
  refine isUnion_ofMerges (·.componentEntry name component) rfl (fun job => job.name = name)
    (·.component component) ?_ merges
  intro result job lineage
  simp only [componentEntry_merge, decide_eq_true_eq]

/-- The lists that a merge puts into a map by jobs are united job by job. -/
theorem isUnion_get?
    (map : LineageResult → OrderedMap Job (UniqueList String))
    (list : JobLineage → UniqueList String)
    (map_empty : map .empty = .empty)
    (map_merge : ∀ result job lineage,
      map (result.merge job lineage) = mergeList (map result) job (list lineage))
    (merges : List (Job × JobLineage))
    (job : Job) :
    IsUnion ((map (ofMerges merges)).get? job)
      ((merges.filter fun merge => compare merge.1 job = .eq).map fun merge => list merge.2) := by
  refine isUnion_ofMerges (fun result => (map result).get? job) ?_
    (fun other => compare other job = .eq) list ?_ merges
  · rw [map_empty, OrderedMap.get?_empty]
  · intro result other lineage
    rw [map_merge, get?_mergeList]
    simp only [decide_eq_true_eq]

end LineageResult

/-! ## What jobs and their components read -/

namespace JobLineage

/-- A lineage is linked if the tables that are read are those that its components read. -/
def Linked (lineage : JobLineage) : Prop :=
  ∀ table, table ∈ lineage.inputs.toList ↔
    ∃ component, table ∈ (lineage.component component).toList

theorem component_addInput
    (lineage : JobLineage)
    (component table other : String) :
    (lineage.addInput component table).component other =
      if component = other then (lineage.component other).insert table
      else lineage.component other := by
  rw [JobLineage.component, addInput, OrderedMap.get?_update]
  simp only [Std.compare_eq_iff_eq]
  split <;> rfl

theorem linked_empty : empty.Linked := by
  intro table
  simp [empty, component]

namespace Linked

variable {lineage : JobLineage}

/-- A table comes to the inputs and to the component together. -/
theorem addInput
    (linked : lineage.Linked)
    (component table : String) :
    (lineage.addInput component table).Linked := by
  intro other
  simp only [component_addInput]
  change other ∈ (lineage.inputs.insert table).toList ↔ _
  rw [UniqueList.mem_insert, linked other]
  constructor
  · rintro (⟨reader, member⟩ | rfl)
    · refine ⟨reader, ?_⟩
      split
      next => exact UniqueList.mem_insert.2 (.inl member)
      next => exact member
    · exact ⟨component, by rw [if_pos rfl]; exact UniqueList.mem_insert.2 (.inr rfl)⟩
  · rintro ⟨reader, member⟩
    split at member
    next => exact (UniqueList.mem_insert.1 member).imp_left fun member => ⟨reader, member⟩
    next => exact .inl ⟨reader, member⟩

theorem addOutput (linked : lineage.Linked) (table : String) :
    (lineage.addOutput table).Linked := linked

theorem addFunction (linked : lineage.Linked) (signature : String) :
    (lineage.addFunction signature).Linked := linked

end Linked

/-- What is added to a lineage. -/
inductive Addition
  /-- A table that a component reads. -/
  | input (component table : String)
  /-- A table that is written. -/
  | output (table : String)
  /-- A function that is called. -/
  | function (signature : String)

/-- The lineage with an addition. -/
def add (lineage : JobLineage) : Addition → JobLineage
  | .input component table => lineage.addInput component table
  | .output table => lineage.addOutput table
  | .function signature => lineage.addFunction signature

/-- The lineage of additions in order. -/
def ofAdditions (additions : List Addition) : JobLineage :=
  additions.foldl add .empty

theorem linked_ofAdditions (additions : List Addition) : (ofAdditions additions).Linked := by
  induction additions using List.reverseRecOn with
  | nil => exact linked_empty
  | append_singleton additions addition inductionHypothesis =>
      rw [ofAdditions, List.foldl_append]
      cases addition with
      | input component table => exact inductionHypothesis.addInput component table
      | output table => exact inductionHypothesis.addOutput table
      | function signature => exact inductionHypothesis.addFunction signature

end JobLineage

namespace Job

/-- Jobs that compare as equal have one name. -/
theorem name_eq_of_compare_eq
    {job other : Job}
    (equal : compare job other = .eq) :
    job.name = other.name :=
  Std.compare_eq_iff_eq.1 (compareLex_eq_eq.1 equal).1

end Job

namespace LineageResult

/-- The components of the jobs with a name read what these jobs read. -/
theorem exists_component_iff_exists_job
    {merges : List (Job × JobLineage)}
    (linked : ∀ merge ∈ merges, merge.2.Linked)
    (name table : String) :
    (∃ component tables, (ofMerges merges).componentEntry name component = some tables ∧
        table ∈ tables.toList) ↔
      ∃ job tables, job.name = name ∧ (ofMerges merges).inputTables.get? job = some tables ∧
        table ∈ tables.toList := by
  have components (component : String) :=
    (isUnion_componentEntry merges name component).mem_iff_exists_merge table
  have inputs (job : Job) :=
    (isUnion_get? (·.inputTables) (·.inputs) rfl (fun _ _ _ => rfl)
      merges job).mem_iff_exists_merge table
  simp only [decide_eq_true_eq] at components inputs
  constructor
  · rintro ⟨component, found⟩
    obtain ⟨merge, merged, named, member⟩ := (components component).1 found
    obtain ⟨tables, read⟩ := (inputs merge.1).2
      ⟨merge, merged, Std.ReflOrd.compare_self, (linked merge merged table).2 ⟨component, member⟩⟩
    exact ⟨merge.1, tables, named, read⟩
  · rintro ⟨job, tables, rfl, found⟩
    obtain ⟨merge, merged, equal, member⟩ := (inputs job).1 ⟨tables, found⟩
    obtain ⟨component, inComponent⟩ := (linked merge merged table).1 member
    exact ⟨component, (components component).2
      ⟨merge, merged, Job.name_eq_of_compare_eq equal, inComponent⟩⟩

/-! ## The jobs of a result -/

theorem pairwise_jobs (result : LineageResult) :
    result.jobs.Pairwise fun a b => compare a b = .lt :=
  OrderedMap.pairwise_keys _

/-- The jobs of a result are those that read, write or call anything. -/
theorem exists_mem_jobs_iff (result : LineageResult) (job : Job) :
    (∃ listed ∈ result.jobs, compare listed job = .eq) ↔
      (result.inputTables.get? job).isSome ∨ (result.outputTables.get? job).isSome ∨
        (result.functions.get? job).isSome := by
  simp only [jobs]
  rw [← OrderedMap.isSome_get?_iff, OrderedMap.isSome_get?_foldl_update]
  simp only [OrderedMap.isSome_get?_iff, List.mem_append, or_and_right, exists_or]
  simp [or_assoc, OrderedMap.keys, OrderedMap.empty]

/-- **A result is the union of what was merged into it.** The entry of a job, in each map, is the
union of the lists that its lineages gave, and so is that of a component over the jobs with a name,
of which none is without members. What the components of the jobs with a name read is what these
jobs read. The jobs increase, and they are those that have an entry. -/
theorem ofMerges_unites_merged_lists (merges : List (Job × List JobLineage.Addition)) :
    let lineages := merges.map fun merge => (merge.1, JobLineage.ofAdditions merge.2)
    let result := ofMerges lineages
    (∀ job,
      let own := lineages.filter fun merge => compare merge.1 job = .eq
      IsUnion (result.inputTables.get? job) (own.map (·.2.inputs)) ∧
        IsUnion (result.outputTables.get? job) (own.map (·.2.outputs)) ∧
        IsUnion (result.functions.get? job) (own.map (·.2.functions))) ∧
      (∀ name component, IsUnion (result.componentEntry name component)
        ((lineages.filter fun merge => merge.1.name = name).map (·.2.component component))) ∧
      (∀ components ∈ result.inputTablesPerComponent.toList, ∀ entry ∈ components.2.toList,
        entry.2.toList ≠ []) ∧
      (∀ name table,
        (∃ component tables, result.componentEntry name component = some tables ∧
            table ∈ tables.toList) ↔
          ∃ job tables, job.name = name ∧ result.inputTables.get? job = some tables ∧
            table ∈ tables.toList) ∧
      result.jobs.Pairwise (fun a b => compare a b = .lt) ∧
      ∀ job, (∃ listed ∈ result.jobs, compare listed job = .eq) ↔
        (result.inputTables.get? job).isSome ∨ (result.outputTables.get? job).isSome ∨
          (result.functions.get? job).isSome := by
  intro lineages result
  refine ⟨fun job => ⟨?_, ?_, ?_⟩, isUnion_componentEntry lineages, ?_, ?_, pairwise_jobs result,
    exists_mem_jobs_iff result⟩
  · exact isUnion_get? (·.inputTables) (·.inputs) rfl (fun _ _ _ => rfl) lineages job
  · exact isUnion_get? (·.outputTables) (·.outputs) rfl (fun _ _ _ => rfl) lineages job
  · exact isUnion_get? (·.functions) (·.functions) rfl (fun _ _ _ => rfl) lineages job
  · intro components present entry member
    have found : result.componentEntry components.1 entry.1 = some entry.2 := by
      rw [componentEntry, componentIn, OrderedMap.get?_of_mem present, Option.bind_some,
        OrderedMap.get?_of_mem member]
    exact (isUnion_componentEntry lineages components.1 entry.1).ne_nil found
  · refine exists_component_iff_exists_job fun merge member => ?_
    obtain ⟨additions, _, rfl⟩ := List.mem_map.1 member
    exact JobLineage.linked_ofAdditions additions.2

end LineageResult
end SqlLineage
