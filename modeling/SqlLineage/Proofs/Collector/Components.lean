import SqlLineage.Proofs.Collector.Visited
import SqlLineage.Proofs.Lineage.Merge

/-!
# What the components of a document read

The entry of an identifier unites what the components with that identifier read, and there is no
entry if they read nothing. In a document without duplicate identifiers an entry is that of one
component, and holds what this component reads.
-/

namespace SqlLineage

/-! ## Entries of components -/

namespace JobEntries

theorem extended_ofList (entry : Option (UniqueList String)) (tables : List String) :
    extended entry (.ofList tables) =
      if tables = [] then entry else some ((entry.getD .empty).extend tables) := by
  have members : (entry.getD .empty).extend (UniqueList.ofList tables).toList =
      (entry.getD .empty).extend tables := UniqueList.extend_toList_extend _ .empty tables
  have empty_iff : (UniqueList.ofList tables).isEmpty = true ↔ tables = [] := by
    simp [UniqueList.isEmpty, UniqueList.ofList, List.eq_nil_iff_forall_not_mem]
  rw [extended, members]
  simp only [empty_iff]

/-- Tables may extend an entry part by part. -/
theorem extended_ofList_append
    (entry : Option (UniqueList String))
    (front behind : List String) :
    extended entry (.ofList (front ++ behind)) =
      extended (extended entry (.ofList front)) (.ofList behind) := by
  simp only [extended_ofList, List.append_eq_nil_iff]
  by_cases noFront : front = []
  · simp [noFront]
  · by_cases noBehind : behind = [] <;> simp [noFront, noBehind, UniqueList.extend_append]

/-- A list extends what is not there to itself. -/
theorem extended_none_ofList
    {tables : List String}
    {entry : UniqueList String}
    (found : extended none (.ofList tables) = some entry) :
    tables ≠ [] ∧ entry = .ofList tables := by
  rw [extended_ofList] at found
  split at found
  next => cases found
  next nonempty => exact ⟨nonempty, (Option.some.inj found).symm⟩

end JobEntries

namespace JobLineage

/-- The tables that a component reads, if there is an entry for them. -/
def component? (lineage : JobLineage) (id : String) : Option (UniqueList String) :=
  lineage.perComponent.get? id

theorem component?_foldl_addInput
    (component id : String)
    (tables : List String)
    (lineage : JobLineage) :
    (tables.foldl (·.addInput component ·) lineage).component? id =
      JobEntries.extended (lineage.component? id)
        (.ofList (if component = id then tables else [])) := by
  induction tables generalizing lineage with
  | nil => rw [ite_self]; rfl
  | cons table tables inductionHypothesis =>
      have first : (lineage.addInput component table).component? id =
          JobEntries.extended (lineage.component? id)
            (.ofList (if component = id then [table] else [])) := by
        rw [component?, addInput, OrderedMap.get?_update]
        simp only [Std.compare_eq_iff_eq]
        split <;> rfl
      rw [List.foldl_cons, inductionHypothesis, first, ← JobEntries.extended_ofList_append]
      split <;> rfl

end JobLineage

namespace Reading

theorem component?_addFacts
    (component id : String)
    (lineage : JobLineage)
    (facts : Facts) :
    (addFacts component lineage facts).component? id =
      JobEntries.extended (lineage.component? id)
        (.ofList (if component = id then facts.tables.toList else [])) := by
  unfold addFacts
  rw [← JobLineage.component?_foldl_addInput]
  exact List.foldlRecOn (motive := fun later : JobLineage => later.component? id = _) _ _ rfl
    fun _ same _ _ => same

/-- A reading puts the tables that were read behind those of its component. -/
theorem component?_addTo
    (reading : Reading)
    (component id : String)
    (lineage : JobLineage) :
    (reading.addTo component lineage).component? id =
      JobEntries.extended (lineage.component? id)
        (.ofList (if component = id then reading.reads else [])) := by
  cases reading with
  | parsed facts => exact component?_addFacts component id lineage facts
  | fallback error facts => exact component?_addFacts component id lineage facts
  | refused error => rw [reads, ite_self]; rfl
  | scanned statements =>
      rw [addTo, reads]
      induction statements generalizing lineage with
      | nil => rw [List.flatMap_nil, ite_self]; rfl
      | cons statement statements inductionHypothesis =>
          have first : (addStatement component lineage statement).component? id =
              JobEntries.extended (lineage.component? id)
                (.ofList (if component = id then statement.1 else [])) := by
            rw [← JobLineage.component?_foldl_addInput]
            unfold addStatement
            cases statement.2 <;> rfl
          rw [List.foldl_cons, inductionHypothesis, first, ← JobEntries.extended_ofList_append,
            List.flatMap_cons]
          split <;> rfl

end Reading

namespace Finding

/-- The tables that a component is found to read. -/
def readsOf
    (grammar : SqlGrammar)
    (policy : ExtractionPolicy)
    (context : Context)
    (component : Component) :
    List String :=
  ((ofComponent? grammar policy context component).map reads).getD []

variable {grammar : SqlGrammar}
variable {policy : ExtractionPolicy}
variable {context : Context}
variable {component : Component}

/-- What is found in a component is the table that it writes, its query, or a variable without a
value. -/
theorem cases_of_ofComponent?
    {finding : Finding}
    (found : ofComponent? grammar policy context component = some finding) :
    (∃ table, finding = written table) ∨
      (∃ query reading, finding = queried component.id query reading) ∨
      ∃ query name, finding = unresolved component.id query name := by
  cases component with
  | output id table schema =>
      cases table with
      | none => cases found
      | some table =>
          rw [ofComponent?] at found
          split at found <;> obtain rfl := Option.some.inj found
          next => exact .inl ⟨_, rfl⟩
          next => exact .inr (.inr ⟨none, _, rfl⟩)
  | query id sql =>
      cases sql with
      | none => cases found
      | some sql =>
          rw [ofComponent?] at found
          split at found
          next => cases found
          next =>
            split at found <;> obtain rfl := Option.some.inj found
            next => exact .inr (.inl ⟨sql, _, rfl⟩)
            next => exact .inr (.inr ⟨some sql, _, rfl⟩)

/-- A component that reads tables has a query. -/
theorem exists_queried_of_readsOf
    (readsTables : readsOf grammar policy context component ≠ []) :
    ∃ query reading,
      ofComponent? grammar policy context component = some (.queried component.id query reading) ∧
        readsOf grammar policy context component = reading.reads := by
  rw [readsOf] at readsTables ⊢
  cases found : ofComponent? grammar policy context component with
  | none =>
      rw [found] at readsTables
      exact absurd rfl readsTables
  | some finding =>
      rw [found] at readsTables
      obtain ⟨table, rfl⟩ | ⟨query, reading, rfl⟩ | ⟨query, name, rfl⟩ :=
        cases_of_ofComponent? found
      · exact absurd rfl readsTables
      · exact ⟨query, reading, rfl, rfl⟩
      · exact absurd rfl readsTables

/-- What is found in a component goes to the entry of its identifier, and to no other. -/
theorem component?_addTo_ofComponent? (id : String) (lineage : JobLineage) :
    (((ofComponent? grammar policy context component).map (addTo lineage)).getD
        lineage).component? id =
      if component.id = id then
        JobEntries.extended (lineage.component? id)
          (.ofList (readsOf grammar policy context component))
      else lineage.component? id := by
  rw [readsOf]
  cases found : ofComponent? grammar policy context component with
  | none => exact (ite_self _).symm
  | some finding =>
      obtain ⟨table, rfl⟩ | ⟨query, reading, rfl⟩ | ⟨query, name, rfl⟩ :=
        cases_of_ofComponent? found
      · exact (ite_self _).symm
      · refine (reading.component?_addTo component.id id lineage).trans ?_
        by_cases own : component.id = id
        · rw [if_pos own, if_pos own]
          rfl
        · rw [if_neg own, if_neg own]
          rfl
      · exact (ite_self _).symm

variable (grammar : SqlGrammar)
variable (policy : ExtractionPolicy)

/-- The entry of an identifier unites what the components with this identifier read that are gone
through. -/
theorem component?_lineage_ofDocument (document : JobDocument) (id : String) :
    (lineage (ofDocument grammar policy document)).component? id =
      ((document.visited.filter (·.id = id)).map fun component =>
        UniqueList.ofList (readsOf grammar policy (.ofParameters document.context) component)).foldl
          JobEntries.extended none := by
  rw [lineage_ofDocument_visited, lineage, List.foldl_filterMap, List.foldl_map, List.foldl_filter]
  refine (List.foldl_hom (JobLineage.component? · id) fun lineage component => ?_).symm
  simp only [decide_eq_true_eq]
  rw [← component?_addTo_ofComponent?]
  cases ofComponent? grammar policy (.ofParameters document.context) component <;> rfl

end Finding

/-! ## Documents without duplicate identifiers -/

/-- At most one component has an identifier if no two have the same. -/
theorem Component.length_filter_id_le_one
    {components : List Component}
    (distinct : (components.map Component.id).Nodup)
    (id : String) :
    (components.filter (·.id = id)).length ≤ 1 := by
  have ids : (components.filter (·.id = id)).map Component.id =
      List.replicate (components.filter (·.id = id)).length id := by
    refine List.eq_replicate_iff.2 ⟨List.length_map _, fun other member => ?_⟩
    obtain ⟨component, kept, rfl⟩ := List.mem_map.1 member
    exact of_decide_eq_true (List.mem_filter.1 kept).2
  rw [← List.nodup_replicate, ← ids]
  exact distinct.sublist (List.filter_sublist.map _)

namespace Finding

/-- In a document without duplicate identifiers an entry is that of one component, and holds the
tables that are read by its query. -/
theorem exists_own_component
    {document : JobDocument}
    (distinct : (document.namedComponents.map Component.id).Nodup)
    (grammar : SqlGrammar)
    (policy : ExtractionPolicy)
    {id : String}
    {tables : UniqueList String}
    (found : (lineage (ofDocument grammar policy document)).component? id = some tables) :
    ∃ component query reading,
      document.namedComponents.filter (·.id = id) = [component] ∧
        ofComponent? grammar policy (.ofParameters document.context) component =
          some (.queried id query reading) ∧
        tables = .ofList reading.reads := by
  have atMostOne := Component.length_filter_id_le_one distinct id
  have visited : (document.visited.filter (·.id = id)).Sublist
      (document.namedComponents.filter (·.id = id)) :=
    (List.takeWhile_sublist _).filter _
  rw [component?_lineage_ofDocument] at found
  cases own : document.visited.filter (·.id = id) with
  | nil =>
      rw [own] at found
      cases found
  | cons component others =>
      rw [own] at found visited
      -- There is no room for another component with the identifier.
      have alone : component :: others = document.namedComponents.filter (·.id = id) :=
        visited.eq_of_length_le (Nat.le_trans atMostOne (Nat.le_add_left 1 _))
      obtain rfl : others = [] := by
        rw [← alone] at atMostOne
        exact List.eq_nil_of_length_eq_zero (Nat.le_zero.1 (Nat.le_of_succ_le_succ atMostOne))
      obtain ⟨readsTables, rfl⟩ := JobEntries.extended_none_ofList found
      obtain ⟨query, reading, queries, same⟩ := exists_queried_of_readsOf readsTables
      have hasId : component.id = id := by
        have kept : component ∈ document.visited.filter (·.id = id) := by
          rw [own]
          exact List.mem_singleton_self component
        exact of_decide_eq_true (List.mem_filter.1 kept).2
      exact ⟨component, query, reading, alone.symm, hasId ▸ queries, by rw [same]⟩

end Finding
end SqlLineage
