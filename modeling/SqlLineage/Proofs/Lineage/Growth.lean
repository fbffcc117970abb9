import SqlLineage.Proofs.Lineage.Merge

/-!
# Results that grow

A merge puts members behind those that are there, so that every list of a result stays the beginning
of the same list later on. Once a lineage is in a result it is in all that this grows to, and
merging it again changes nothing.
-/

namespace SqlLineage

/-- The members of a list are the first ones of another. -/
def UniqueList.GrowsTo (list grown : UniqueList String) : Prop :=
  list.toList <+: grown.toList

instance : Std.Refl UniqueList.GrowsTo :=
  ⟨fun list => List.prefix_refl list.toList⟩

instance : IsTrans (UniqueList String) UniqueList.GrowsTo :=
  ⟨fun _ _ _ => List.IsPrefix.trans⟩

namespace LineageResult

/-- Each list of a result is the beginning of a list of another one, under the same job, or under the
same component of the same name, and in the same order of jobs and components. -/
structure GrowsTo (result grown : LineageResult) : Prop where
  /-- The tables that are read. -/
  inputTables : result.inputTables.GrowsTo UniqueList.GrowsTo grown.inputTables
  /-- The tables that are written. -/
  outputTables : result.outputTables.GrowsTo UniqueList.GrowsTo grown.outputTables
  /-- The functions that are called. -/
  functions : result.functions.GrowsTo UniqueList.GrowsTo grown.functions
  /-- The tables that each component reads. -/
  inputTablesPerComponent : result.inputTablesPerComponent.GrowsTo
    (OrderedMap.GrowsTo UniqueList.GrowsTo) grown.inputTablesPerComponent

namespace GrowsTo

theorem refl (result : LineageResult) : result.GrowsTo result :=
  ⟨Std.Refl.refl _, Std.Refl.refl _, Std.Refl.refl _, Std.Refl.refl _⟩

theorem trans
    {first second third : LineageResult}
    (before : first.GrowsTo second)
    (after : second.GrowsTo third) :
    first.GrowsTo third where
  inputTables := IsTrans.trans _ _ _ before.inputTables after.inputTables
  outputTables := IsTrans.trans _ _ _ before.outputTables after.outputTables
  functions := IsTrans.trans _ _ _ before.functions after.functions
  inputTablesPerComponent :=
    IsTrans.trans _ _ _ before.inputTablesPerComponent after.inputTablesPerComponent

end GrowsTo

theorem growsTo_mergeList
    {κ : Type}
    [Ord κ]
    [Std.TransOrd κ]
    (map : OrderedMap κ (UniqueList String))
    (key : κ)
    (list : UniqueList String) :
    map.GrowsTo UniqueList.GrowsTo (mergeList map key list) := by
  rw [mergeList]
  split
  next => exact Std.Refl.refl map
  next => exact map.growsTo_update (fun members => members.prefix_extend list.toList) key

theorem growsTo_mergeComponent
    (name : String)
    (jobs : OrderedMap String (OrderedMap String (UniqueList String)))
    (entry : String × UniqueList String) :
    jobs.GrowsTo (OrderedMap.GrowsTo UniqueList.GrowsTo) (mergeComponent name jobs entry) := by
  rw [mergeComponent]
  split
  next => exact Std.Refl.refl jobs
  next => exact jobs.growsTo_update (fun components => growsTo_mergeList components _ _) name

/-- A merge lets a result grow. -/
theorem growsTo_merge (result : LineageResult) (job : Job) (lineage : JobLineage) :
    result.GrowsTo (result.merge job lineage) where
  inputTables := growsTo_mergeList _ job lineage.inputs
  outputTables := growsTo_mergeList _ job lineage.outputs
  functions := growsTo_mergeList _ job lineage.functions
  inputTablesPerComponent := by
    rw [inputTablesPerComponent_merge]
    refine List.foldlRecOn _ _ (Std.Refl.refl _) fun jobs grown entry _ => ?_
    exact IsTrans.trans _ _ _ grown (growsTo_mergeComponent job.name jobs entry)

/-! ## Lineages that are in a result -/

/-- An entry has all members of a list; none at all has those of the empty list. -/
def Covers (entry : Option (UniqueList String)) (list : UniqueList String) : Prop :=
  list.toList ⊆ (entry.getD .empty).toList

namespace Covers

variable {entry : Option (UniqueList String)} {list : UniqueList String}

theorem extended (entry : Option (UniqueList String)) (list : UniqueList String) :
    Covers (JobEntries.extended entry list) list := by
  rw [Covers, JobEntries.extended]
  split
  next empty => simp [List.isEmpty_iff.1 empty]
  next => exact fun _ member => UniqueList.mem_extend.2 (.inr member)

/-- An entry that has grown has the members that it had. -/
theorem of_grown
    (covers : Covers entry list)
    {later : Option (UniqueList String)}
    (grown : ∀ members, entry = some members →
      ∃ more, later = some more ∧ members.GrowsTo more) :
    Covers later list := by
  intro value member
  cases entry with
  | none => cases covers member
  | some members =>
      obtain ⟨more, rfl, begins⟩ := grown members rfl
      exact begins.subset (covers member)

/-- There is an entry if the list is not empty. -/
theorem exists_eq_some
    (covers : Covers entry list)
    (nonempty : list.isEmpty = false) :
    ∃ members, entry = some members ∧ members.extend list.toList = members := by
  cases entry with
  | none =>
      have empty := List.subset_nil.1 covers
      rw [UniqueList.isEmpty, empty] at nonempty
      cases nonempty
  | some members => exact ⟨members, rfl, UniqueList.extend_of_subset covers⟩

/-- A list whose members are all there changes nothing. -/
theorem mergeList_eq
    {κ : Type}
    [Ord κ]
    [Std.TransOrd κ]
    {map : OrderedMap κ (UniqueList String)}
    {key : κ}
    (covers : Covers (map.get? key) list) :
    mergeList map key list = map := by
  rw [mergeList]
  cases nonempty : list.isEmpty with
  | true => rfl
  | false =>
      obtain ⟨members, found, unchanged⟩ := covers.exists_eq_some nonempty
      exact OrderedMap.update_eq_self found unchanged

/-- The tables of a component that are all there change nothing. -/
theorem mergeComponent_eq
    {jobs : OrderedMap String (OrderedMap String (UniqueList String))}
    {name : String}
    {component : String × UniqueList String}
    (covers : Covers (componentIn jobs name component.1) component.2) :
    mergeComponent name jobs component = jobs := by
  rw [mergeComponent]
  cases nonempty : component.2.isEmpty with
  | true => rfl
  | false =>
      obtain ⟨members, found, _⟩ := covers.exists_eq_some nonempty
      obtain ⟨components, named, inComponents⟩ := Option.bind_eq_some_iff.1 found
      refine OrderedMap.update_eq_self named (mergeList_eq ?_)
      rw [componentIn, named] at covers
      exact covers

end Covers

/-- The entries of a job and of its components have all that a lineage says. -/
structure Holds (result : LineageResult) (job : Job) (lineage : JobLineage) : Prop where
  /-- The tables that are read. -/
  inputs : Covers (result.inputTables.get? job) lineage.inputs
  /-- The tables that are written. -/
  outputs : Covers (result.outputTables.get? job) lineage.outputs
  /-- The functions that are called. -/
  functions : Covers (result.functions.get? job) lineage.functions
  /-- The tables that each component reads. -/
  components : ∀ component,
    Covers (result.componentEntry job.name component) (lineage.component component)

/-- A lineage is in the result that it was merged into. -/
theorem holds_merge (result : LineageResult) (job : Job) (lineage : JobLineage) :
    (result.merge job lineage).Holds job lineage := by
  have covers (map : OrderedMap Job (UniqueList String)) (list : UniqueList String) :
      Covers ((mergeList map job list).get? job) list := by
    rw [get?_mergeList, if_pos Std.ReflOrd.compare_self]
    exact .extended _ list
  refine ⟨covers _ _, covers _ _, covers _ _, fun component => ?_⟩
  rw [componentEntry_merge, if_pos rfl]
  exact .extended _ _

namespace Holds

variable {result grown : LineageResult} {job : Job} {lineage : JobLineage}

/-- A lineage stays in a result that grows. -/
theorem of_growsTo
    (holds : result.Holds job lineage)
    (growsTo : result.GrowsTo grown) :
    grown.Holds job lineage where
  inputs := holds.inputs.of_grown fun _ => growsTo.inputTables.exists_get?
  outputs := holds.outputs.of_grown fun _ => growsTo.outputTables.exists_get?
  functions := holds.functions.of_grown fun _ => growsTo.functions.exists_get?
  components component := by
    refine (holds.components component).of_grown fun members found => ?_
    obtain ⟨components, named, inComponents⟩ := Option.bind_eq_some_iff.1 found
    obtain ⟨later, namedLater, grownComponents⟩ :=
      growsTo.inputTablesPerComponent.exists_get? named
    obtain ⟨more, inLater, begins⟩ := grownComponents.exists_get? inComponents
    exact ⟨more, Option.bind_eq_some_iff.2 ⟨later, namedLater, inLater⟩, begins⟩

/-- A lineage that is in a result may be merged into it again. -/
theorem merge_eq
    (holds : result.Holds job lineage) :
    result.merge job lineage = result := by
  have components : lineage.perComponent.toList.foldl (mergeComponent job.name)
      result.inputTablesPerComponent = result.inputTablesPerComponent := by
    refine List.foldlRecOn (motive := fun jobs => jobs = result.inputTablesPerComponent) _ _ rfl
      fun jobs same component member => ?_
    have covers := holds.components component.1
    rw [JobLineage.component, OrderedMap.get?_of_mem member] at covers
    rw [same]
    exact covers.mergeComponent_eq
  rw [← inputTablesPerComponent_merge] at components
  have whole : result.merge job lineage =
      ⟨mergeList result.inputTables job lineage.inputs,
        mergeList result.outputTables job lineage.outputs,
        mergeList result.functions job lineage.functions,
        (result.merge job lineage).inputTablesPerComponent⟩ := rfl
  rw [whole, holds.inputs.mergeList_eq, holds.outputs.mergeList_eq, holds.functions.mergeList_eq,
    components]

end Holds

end LineageResult
end SqlLineage
