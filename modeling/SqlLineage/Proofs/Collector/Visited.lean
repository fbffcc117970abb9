import SqlLineage.Proofs.Collector.Provenance

/-!
# What a document gives

The components of a document are gone through up to the first that fails. What is read comes from
the code of the queries that are gone through, and what is written from this code and from the
outputs. Nothing of it is lost, and there is nothing else.
-/

namespace SqlLineage

/-! ## What readings and findings give -/

namespace Reading

/-- The tables that were read. -/
def reads : Reading → List String
  | scanned statements => statements.flatMap Prod.fst
  | parsed facts => facts.tables.toList
  | fallback _ facts => facts.tables.toList
  | refused _ => []

/-- The tables that are written. -/
def writes : Reading → List String
  | scanned statements => statements.filterMap Prod.snd
  | _ => []

theorem inputs_foldl_addInput
    (component : String)
    (tables : List String)
    (lineage : JobLineage) :
    (tables.foldl (·.addInput component ·) lineage).inputs = lineage.inputs.extend tables :=
  (List.foldl_hom JobLineage.inputs fun _ _ => rfl).symm

theorem outputs_foldl_addInput
    (component : String)
    (tables : List String)
    (lineage : JobLineage) :
    (tables.foldl (·.addInput component ·) lineage).outputs = lineage.outputs :=
  List.foldlRecOn (motive := fun later : JobLineage => later.outputs = lineage.outputs) _ _ rfl
    fun _ same _ _ => same

theorem inputs_addFacts
    (component : String)
    (lineage : JobLineage)
    (facts : Facts) :
    (addFacts component lineage facts).inputs = lineage.inputs.extend facts.tables.toList := by
  unfold addFacts
  rw [← inputs_foldl_addInput component]
  exact List.foldlRecOn (motive := fun later : JobLineage => later.inputs = _) _ _ rfl
    fun _ same _ _ => same

/-- A reading puts the tables that were read behind the inputs. -/
theorem inputs_addTo
    (reading : Reading)
    (component : String)
    (lineage : JobLineage) :
    (reading.addTo component lineage).inputs = lineage.inputs.extend reading.reads := by
  cases reading with
  | parsed facts => exact inputs_addFacts component lineage facts
  | fallback error facts => exact inputs_addFacts component lineage facts
  | refused error => rfl
  | scanned statements =>
      rw [addTo, reads]
      induction statements generalizing lineage with
      | nil => rfl
      | cons statement statements inductionHypothesis =>
          have first : (addStatement component lineage statement).inputs =
              lineage.inputs.extend statement.1 := by
            rw [← inputs_foldl_addInput component]
            unfold addStatement
            cases statement.2 <;> rfl
          rw [List.foldl_cons, inductionHypothesis, first, List.flatMap_cons,
            UniqueList.extend_append]

/-- A reading puts the tables that are written behind the outputs. -/
theorem outputs_addTo
    (reading : Reading)
    (component : String)
    (lineage : JobLineage) :
    (reading.addTo component lineage).outputs = lineage.outputs.extend reading.writes := by
  cases reading with
  | parsed facts => exact outputs_addFacts component lineage facts
  | fallback error facts => exact outputs_addFacts component lineage facts
  | refused error => rfl
  | scanned statements =>
      rw [addTo, writes]
      induction statements generalizing lineage with
      | nil => rfl
      | cons statement statements inductionHypothesis =>
          obtain ⟨tables, written⟩ := statement
          rw [List.foldl_cons, inductionHypothesis]
          cases written with
          | none =>
              rw [List.filterMap_cons_none rfl]
              exact congrArg (UniqueList.extend · _)
                (outputs_foldl_addInput component tables lineage)
          | some table =>
              have written : ((tables, some table) :: statements).filterMap Prod.snd =
                  table :: statements.filterMap Prod.snd := rfl
              rw [written, UniqueList.extend_cons]
              exact congrArg (fun outputs : UniqueList String => (outputs.insert table).extend _)
                (outputs_foldl_addInput component tables lineage)

/-- A scan reads what its statements read. -/
theorem reads_ofSql_patternOnly (grammar : SqlGrammar) (sql : String) :
    (ofSql grammar .patternOnly sql).reads =
      (Scan.codeStatements (Normalize.normalize sql)).flatMap
        fun statement => (Scan.readTables statement.sql).toList := by
  unfold ofSql
  rw [reads, List.flatMap_map]

/-- A scan writes what its statements write. -/
theorem writes_ofSql_patternOnly (grammar : SqlGrammar) (sql : String) :
    (ofSql grammar .patternOnly sql).writes =
      (Scan.codeStatements (Normalize.normalize sql)).filterMap
        fun statement => Scan.writtenTable? statement.sql := by
  unfold ofSql
  rw [writes, List.filterMap_map]
  rfl

end Reading

namespace Finding

/-- The tables that are read. -/
def reads : Finding → List String
  | queried _ _ reading => reading.reads
  | _ => []

/-- The tables that are written. -/
def writes : Finding → List String
  | written table => [table]
  | queried _ _ reading => reading.writes
  | _ => []

/-- Findings give the tables that each of them reads and writes. -/
theorem foldl_addTo (findings : List Finding) (lineage : JobLineage) :
    (findings.foldl addTo lineage).inputs = lineage.inputs.extend (findings.flatMap reads) ∧
      (findings.foldl addTo lineage).outputs = lineage.outputs.extend (findings.flatMap writes) := by
  induction findings generalizing lineage with
  | nil => exact ⟨rfl, rfl⟩
  | cons finding findings inductionHypothesis =>
      obtain ⟨inputs, outputs⟩ := inductionHypothesis (finding.addTo lineage)
      have first : (finding.addTo lineage).inputs = lineage.inputs.extend finding.reads ∧
          (finding.addTo lineage).outputs = lineage.outputs.extend finding.writes := by
        cases finding with
        | queried component query reading =>
            exact ⟨reading.inputs_addTo component lineage, reading.outputs_addTo component lineage⟩
        | _ => exact ⟨rfl, rfl⟩
      rw [List.foldl_cons, inputs, outputs, first.1, first.2, List.flatMap_cons, List.flatMap_cons,
        UniqueList.extend_append, UniqueList.extend_append]
      exact ⟨rfl, rfl⟩

theorem mem_lineage_iff (findings : List Finding) (name : String) :
    (name ∈ (lineage findings).inputs.toList ↔ ∃ finding ∈ findings, name ∈ finding.reads) ∧
      (name ∈ (lineage findings).outputs.toList ↔ ∃ finding ∈ findings, name ∈ finding.writes) := by
  obtain ⟨inputs, outputs⟩ := foldl_addTo findings .empty
  unfold lineage
  rw [inputs, outputs, UniqueList.mem_extend, UniqueList.mem_extend]
  simp [JobLineage.empty, List.mem_flatMap]

end Finding

/-! ## The components that are gone through -/

/-- The code of a query that is not blank, with the values of its context. -/
def Component.code? (context : Context) : Component → Option String
  | query _ (some sql) => if Text.allBlank sql then none else (context.replace sql).toOption
  | _ => none

namespace JobDocument

/-- The components that are gone through: those in front of the first one that fails. -/
def visited (document : JobDocument) : List Component :=
  document.namedComponents.takeWhile fun component =>
    (component.unbound? (.ofParameters document.context)).isNone

/-- The code of the queries that are gone through. -/
def codes (document : JobDocument) : List String :=
  document.visited.filterMap (Component.code? (.ofParameters document.context))

end JobDocument

namespace Component

/-- An output writes the table that it resolves to. -/
theorem resolveTable_of_writes
    {context : Context}
    {id table name : String}
    {schema : Option String}
    (writes : Writes context (output id (some table) schema) name) :
    Finding.resolveTable context table schema = .ok name := by
  cases writes with
  | withoutSchema resolved =>
      rw [Finding.resolveTable, resolved]
      rfl
  | emptySchema resolved schemaResolved =>
      rw [Finding.resolveTable, resolved]
      simp only [schemaResolved]
      rfl
  | inSchema resolved schemaResolved nonempty =>
      rw [Finding.resolveTable, resolved]
      simp only [schemaResolved]
      exact congrArg Except.ok (if_neg (mt String.isEmpty_iff.1 nonempty))

end Component

namespace Finding

variable (grammar : SqlGrammar)
variable (policy : ExtractionPolicy)

/-- Nodes give what is found in the components that are gone through. -/
theorem foldl_addTo_ofNodes
    (context : Context)
    (nodes : List ComponentNode)
    (lineage : JobLineage) :
    (ofNodes grammar policy context nodes).foldl addTo lineage =
      (((nodes.filterMap fun node => (Component.ofNode node).toOption).takeWhile
          fun component => (component.unbound? context).isNone).filterMap
        (ofComponent? grammar policy context)).foldl addTo lineage := by
  induction nodes generalizing lineage with
  | nil => rfl
  | cons node nodes inductionHypothesis =>
      cases named : Component.ofNode node with
      | error missing =>
          have skips : ofNode? grammar policy context node =
              some (skipped node.componentName missing) := by
            rw [ofNode?, named]
          rw [ofNodes, skips, List.filterMap_cons_none (by rw [named]; rfl)]
          exact inductionHypothesis lineage
      | ok component =>
          have found : ofNode? grammar policy context node =
              ofComponent? grammar policy context component := by
            rw [ofNode?, named]
          have failure := error?_ofComponent? grammar policy context component
          rw [List.filterMap_cons_some (by rw [named]; rfl), List.takeWhile_cons]
          cases unbound : component.unbound? context with
          | some name =>
              rw [← found, unbound] at failure
              obtain ⟨finding, all, isError⟩ := ofNodes_cons_of_error failure nodes
              rw [all]
              exact addTo_of_error isError lineage
          | none =>
              rw [unbound] at failure
              rw [ofNodes, found]
              cases result : ofComponent? grammar policy context component with
              | none =>
                  rw [Option.isNone_none, if_pos rfl, List.filterMap_cons_none result]
                  exact inductionHypothesis lineage
              | some finding =>
                  rw [result] at failure
                  have succeeds : finding.error? = none := failure
                  rw [Option.isNone_none, if_pos rfl, List.filterMap_cons_some result]
                  simp only [succeeds, Option.isSome_none, Bool.false_eq_true, if_false]
                  exact inductionHypothesis (finding.addTo lineage)

/-- A document gives what is found in the components that are gone through. -/
theorem lineage_ofDocument_visited (document : JobDocument) :
    lineage (ofDocument grammar policy document) =
      lineage (document.visited.filterMap
        (ofComponent? grammar policy (.ofParameters document.context))) := by
  rw [lineage, ofDocument, foldl_addTo_ofNodes, JobDocument.visited, namedComponents_eq]
  rfl

/-- What a component is found to read comes from its code. -/
theorem exists_mem_reads_iff
    (context : Context)
    (component : Component)
    (name : String) :
    (∃ finding, ofComponent? grammar policy context component = some finding ∧
        name ∈ finding.reads) ↔
      ∃ code, component.code? context = some code ∧
        name ∈ (Reading.ofSql grammar policy code).reads := by
  cases component with
  | output id table schema =>
      cases table with
      | none => simp [ofComponent?, Component.code?]
      | some table =>
          cases resolved : resolveTable context table schema <;>
            simp [ofComponent?, Component.code?, resolved, reads]
  | query id sql =>
      cases sql with
      | none => simp [ofComponent?, Component.code?]
      | some sql =>
          by_cases blank : Text.allBlank sql = true
          · simp [ofComponent?, Component.code?, blank]
          · cases replaced : context.replace sql <;>
              simp [ofComponent?, Component.code?, blank, replaced, reads, Except.toOption]

/-- What a component is found to write is the table of an output, or comes from the code of a
query. -/
theorem exists_mem_writes_iff
    (context : Context)
    (component : Component)
    (name : String) :
    (∃ finding, ofComponent? grammar policy context component = some finding ∧
        name ∈ finding.writes) ↔
      component.Writes context name ∨
        ∃ code, component.code? context = some code ∧
          name ∈ (Reading.ofSql grammar policy code).writes := by
  cases component with
  | output id table schema =>
      have noCode : Component.code? context (.output id table schema) = none := rfl
      simp only [noCode, reduceCtorEq, false_and, exists_false, or_false]
      cases table with
      | none =>
          constructor
          · rintro ⟨finding, found, -⟩
            cases found
          · intro writes
            cases writes
      | some table =>
          constructor
          · rintro ⟨finding, found, member⟩
            rw [ofComponent?] at found
            split at found
            next written resolved =>
              obtain rfl := Option.some.inj found
              obtain rfl := List.mem_singleton.1 member
              exact Component.writes_of_resolveTable resolved id
            next =>
              obtain rfl := Option.some.inj found
              cases member
          · intro writes
            refine ⟨written name, ?_, List.mem_singleton_self name⟩
            rw [ofComponent?, Component.resolveTable_of_writes writes]
  | query id sql =>
      have writesNothing : ¬Component.Writes context (.query id sql) name := by
        intro writes
        cases writes
      rw [or_iff_right writesNothing]
      cases sql with
      | none => simp [ofComponent?, Component.code?]
      | some sql =>
          by_cases blank : Text.allBlank sql = true
          · simp [ofComponent?, Component.code?, blank]
          · cases replaced : context.replace sql <;>
              simp [ofComponent?, Component.code?, blank, replaced, writes, Except.toOption]

/-- A document reads what its code reads. -/
theorem mem_inputs_ofDocument_iff (document : JobDocument) (name : String) :
    name ∈ (lineage (ofDocument grammar policy document)).inputs.toList ↔
      ∃ code ∈ document.codes, name ∈ (Reading.ofSql grammar policy code).reads := by
  rw [lineage_ofDocument_visited, (mem_lineage_iff _ name).1]
  simp only [List.mem_filterMap, JobDocument.codes]
  constructor
  · rintro ⟨finding, ⟨component, member, found⟩, isRead⟩
    obtain ⟨code, gives, inCode⟩ :=
      (exists_mem_reads_iff grammar policy _ component name).1 ⟨finding, found, isRead⟩
    exact ⟨code, ⟨component, member, gives⟩, inCode⟩
  · rintro ⟨code, ⟨component, member, gives⟩, inCode⟩
    obtain ⟨finding, found, isRead⟩ :=
      (exists_mem_reads_iff grammar policy _ component name).2 ⟨code, gives, inCode⟩
    exact ⟨finding, ⟨component, member, found⟩, isRead⟩

/-- A document writes what its outputs and its code write. -/
theorem mem_outputs_ofDocument_iff (document : JobDocument) (name : String) :
    name ∈ (lineage (ofDocument grammar policy document)).outputs.toList ↔
      (∃ component ∈ document.visited, component.Writes (.ofParameters document.context) name) ∨
        ∃ code ∈ document.codes, name ∈ (Reading.ofSql grammar policy code).writes := by
  rw [lineage_ofDocument_visited, (mem_lineage_iff _ name).2]
  simp only [List.mem_filterMap, JobDocument.codes]
  constructor
  · rintro ⟨finding, ⟨component, member, found⟩, isWritten⟩
    rcases (exists_mem_writes_iff grammar policy _ component name).1 ⟨finding, found, isWritten⟩
      with writes | ⟨code, gives, inCode⟩
    · exact .inl ⟨component, member, writes⟩
    · exact .inr ⟨code, ⟨component, member, gives⟩, inCode⟩
  · intro sources
    obtain ⟨component, member, writes⟩ : ∃ component ∈ document.visited,
        component.Writes (.ofParameters document.context) name ∨
          ∃ code, component.code? (.ofParameters document.context) = some code ∧
            name ∈ (Reading.ofSql grammar policy code).writes := by
      rcases sources with ⟨component, member, writes⟩ | ⟨code, ⟨component, member, gives⟩, inCode⟩
      · exact ⟨component, member, .inl writes⟩
      · exact ⟨component, member, .inr ⟨code, gives, inCode⟩⟩
    obtain ⟨finding, found, isWritten⟩ :=
      (exists_mem_writes_iff grammar policy _ component name).2 writes
    exact ⟨finding, ⟨component, member, found⟩, isWritten⟩

end Finding
end SqlLineage
