import Mathlib.Data.List.Forall2
import SqlLineage.Proofs.Collector.Failure
import SqlLineage.Proofs.Collector.Repetition
import SqlLineage.Proofs.Lineage.Merge

/-!
# Where the members of a lineage come from

As long as a grammar has a say in how SQL is read, SQL gives tables that are read and functions that
are called, and nothing else. What a job writes then comes from its output components alone, and
what it reads and calls from its queries alone, so that a change of the ones does not show in the
other.
-/

namespace SqlLineage

/-! ## Facts of SQL -/

/-- The lineage with other tables that are written. -/
def JobLineage.withOutputs (lineage : JobLineage) (outputs : UniqueList String) : JobLineage :=
  { lineage with outputs := outputs }

namespace Reading

/-- The facts that were read, if statements were not scanned one by one. -/
def facts? : Reading → Option Facts
  | scanned _ => none
  | parsed facts => some facts
  | fallback _ facts => some facts
  | refused _ => some .none

/-- Facts are all that a reading adds if it has any. -/
theorem addTo_of_facts?
    {reading : Reading}
    {facts : Facts}
    (gives : reading.facts? = some facts)
    (component : String)
    (lineage : JobLineage) :
    reading.addTo component lineage = addFacts component lineage facts := by
  cases reading with
  | scanned statements => cases gives
  | parsed _ | fallback _ _ | refused _ =>
      obtain rfl := Option.some.inj gives
      rfl

/-- Adding facts neither looks at what is written nor changes it. -/
theorem addFacts_withOutputs
    (component : String)
    (lineage : JobLineage)
    (outputs : UniqueList String)
    (facts : Facts) :
    addFacts component (lineage.withOutputs outputs) facts =
      (addFacts component lineage facts).withOutputs outputs := by
  have inputs :
      facts.tables.toList.foldl (·.addInput component ·) (lineage.withOutputs outputs) =
        (facts.tables.toList.foldl (·.addInput component ·) lineage).withOutputs outputs :=
    List.foldl_hom (JobLineage.withOutputs · outputs) fun _ _ => rfl
  rw [addFacts, inputs, addFacts]
  exact List.foldl_hom (JobLineage.withOutputs · outputs) fun _ _ => rfl

/-- Facts leave what is written alone. -/
theorem outputs_addFacts
    (component : String)
    (lineage : JobLineage)
    (facts : Facts) :
    (addFacts component lineage facts).outputs = lineage.outputs := by
  have same := addFacts_withOutputs component lineage lineage.outputs facts
  exact congrArg (·.outputs) same

/-- The functions of facts come behind those that are there. -/
theorem functions_addFacts
    (component : String)
    (lineage : JobLineage)
    (facts : Facts) :
    (addFacts component lineage facts).functions =
      lineage.functions.extend facts.functions.toList := by
  have inputs :
      (facts.tables.toList.foldl (·.addInput component ·) lineage).functions =
        lineage.functions :=
    List.foldlRecOn (motive := fun later : JobLineage => later.functions = lineage.functions) _ _ rfl
      fun _ same _ _ => same
  rw [addFacts, ← inputs]
  exact (List.foldl_hom JobLineage.functions fun _ _ => rfl).symm

variable {grammar : SqlGrammar}
variable {sql : String}

/-- SQL that the grammar accepts is read by it, whether there is a fallback or not. -/
theorem ofSql_of_facts
    {policy : ExtractionPolicy}
    (usesGrammar : policy ≠ .patternOnly)
    {facts : Facts}
    (accepted : grammar.facts (Normalize.normalize sql) = .ok facts) :
    ofSql grammar policy sql = parsed facts := by
  unfold ofSql
  cases policy with
  | patternOnly => exact absurd rfl usesGrammar
  | grammarWithPatternFallback | grammarOnly => simp only [accepted]

/-- SQL that the grammar does not accept is refused if there is no fallback. -/
theorem ofSql_grammarOnly_of_error
    {error : SqlError}
    (refuses : grammar.facts (Normalize.normalize sql) = .error error) :
    ofSql grammar .grammarOnly sql = refused error := by
  unfold ofSql
  simp only [refuses]

/-- SQL that the grammar does not accept is scanned if there is a fallback. -/
theorem ofSql_grammarWithPatternFallback_of_error
    {error : SqlError}
    (refuses : grammar.facts (Normalize.normalize sql) = .error error) :
    ofSql grammar .grammarWithPatternFallback sql =
      fallback error (Scan.facts (Normalize.normalize sql)) := by
  unfold ofSql
  simp only [refuses]

theorem exists_facts?_ofSql
    {policy : ExtractionPolicy}
    (usesGrammar : policy ≠ .patternOnly)
    (grammar : SqlGrammar)
    (sql : String) :
    ∃ facts, (ofSql grammar policy sql).facts? = some facts := by
  cases answer : grammar.facts (Normalize.normalize sql) with
  | ok facts => exact ⟨facts, by rw [ofSql_of_facts usesGrammar answer, facts?]⟩
  | error error =>
      cases policy with
      | patternOnly => exact absurd rfl usesGrammar
      | grammarWithPatternFallback =>
          exact ⟨_, by rw [ofSql_grammarWithPatternFallback_of_error answer, facts?]⟩
      | grammarOnly => exact ⟨_, by rw [ofSql_grammarOnly_of_error answer, facts?]⟩

/-- Without a fallback SQL is read as with one if the grammar accepts it; otherwise nothing is read,
and the fallback finds no function. -/
theorem addTo_ofSql_grammarOnly
    (grammar : SqlGrammar)
    (component : String)
    (lineage : JobLineage)
    (sql : String) :
    (∀ statements, grammar.parse (Normalize.normalize sql) = .ok statements →
      (ofSql grammar .grammarOnly sql).addTo component lineage =
        (ofSql grammar .grammarWithPatternFallback sql).addTo component lineage) ∧
    ∀ error, grammar.parse (Normalize.normalize sql) = .error error →
      (ofSql grammar .grammarOnly sql).addTo component lineage = lineage ∧
        ((ofSql grammar .grammarWithPatternFallback sql).addTo component lineage).functions =
          lineage.functions := by
  constructor
  · intro statements parsed
    have accepted : grammar.facts (Normalize.normalize sql) = .ok (Grammar.factsOf statements) := by
      rw [SqlGrammar.facts, parsed, Except.map]
    rw [ofSql_of_facts (by decide) accepted, ofSql_of_facts (by decide) accepted]
  · intro error failed
    have refuses : grammar.facts (Normalize.normalize sql) = .error error := by
      rw [SqlGrammar.facts, failed, Except.map]
    rw [ofSql_grammarOnly_of_error refuses, ofSql_grammarWithPatternFallback_of_error refuses]
    exact ⟨rfl, functions_addFacts component lineage _⟩

end Reading

/-! ## Outputs and queries -/

namespace Component

/-- A component writes a table by its name, in a schema if one is given that is not empty. -/
inductive Writes (context : Context) : Component → String → Prop
  | withoutSchema {id table name : String} :
      context.resolve table = .ok name →
      Writes context (.output id (some table) none) name
  | emptySchema {id table schema name : String} :
      context.resolve table = .ok name →
      context.resolve schema = .ok "" →
      Writes context (.output id (some table) (some schema)) name
  | inSchema {id table schema name schemaName : String} :
      context.resolve table = .ok name →
      context.resolve schema = .ok schemaName →
      schemaName ≠ "" →
      Writes context (.output id (some table) (some schema)) (schemaName ++ "." ++ name)

/-- Whether a component is an output with a table. -/
def hasTable : Component → Bool
  | output _ table _ => table.isSome
  | query _ _ => false

/-- Whether a component is a query. -/
def isQuery : Component → Bool
  | output _ _ _ => false
  | query _ _ => true

/-- A component writes one table at most. -/
theorem rightUnique_writes (context : Context) : Relator.RightUnique (Writes context) := by
  intro component name other first second
  cases first with
  | withoutSchema resolved =>
      cases second with
      | withoutSchema resolvedAgain => exact Except.ok.inj (resolved.symm.trans resolvedAgain)
  | emptySchema resolved schemaResolved =>
      cases second with
      | emptySchema resolvedAgain => exact Except.ok.inj (resolved.symm.trans resolvedAgain)
      | inSchema resolvedAgain schemaResolvedAgain nonempty =>
          exact absurd (Except.ok.inj (schemaResolvedAgain.symm.trans schemaResolved)) nonempty
  | inSchema resolved schemaResolved nonempty =>
      cases second with
      | emptySchema resolvedAgain schemaResolvedAgain =>
          exact absurd (Except.ok.inj (schemaResolved.symm.trans schemaResolvedAgain)) nonempty
      | inSchema resolvedAgain schemaResolvedAgain =>
          obtain rfl := Except.ok.inj (resolved.symm.trans resolvedAgain)
          obtain rfl := Except.ok.inj (schemaResolved.symm.trans schemaResolvedAgain)
          rfl

/-- The table that an output resolves to is the one that it writes. -/
theorem writes_of_resolveTable
    {context : Context}
    {table name : String}
    {schema : Option String}
    (resolved : Finding.resolveTable context table schema = .ok name)
    (id : String) :
    Writes context (.output id (some table) schema) name := by
  rw [Finding.resolveTable] at resolved
  cases tableResolved : context.resolve table with
  | error error =>
      rw [tableResolved] at resolved
      cases resolved
  | ok tableName =>
      rw [tableResolved] at resolved
      cases schema with
      | none =>
          obtain rfl := Except.ok.inj resolved
          exact .withoutSchema tableResolved
      | some schema =>
          cases schemaResolved : context.resolve schema with
          | error error =>
              simp only [schemaResolved] at resolved
              cases resolved
          | ok schemaName =>
              simp only [schemaResolved] at resolved
              obtain rfl := Except.ok.inj resolved
              rw [Finding.qualified]
              by_cases empty : schemaName = ""
              · subst empty
                exact .emptySchema tableResolved schemaResolved
              · rw [if_neg (mt String.isEmpty_iff.1 empty)]
                exact .inSchema tableResolved schemaResolved empty

end Component

namespace Finding

variable {grammar : SqlGrammar}
variable {policy : ExtractionPolicy}
variable {context : Context}

/-- What is found in a query adds nothing to what is written. -/
theorem addTo_withOutputs_of_query
    (usesGrammar : policy ≠ .patternOnly)
    {id : String}
    {sql : Option String}
    {finding : Finding}
    (found : ofComponent? grammar policy context (.query id sql) = some finding)
    (lineage : JobLineage)
    (outputs : UniqueList String) :
    finding.addTo (lineage.withOutputs outputs) = (finding.addTo lineage).withOutputs outputs := by
  cases sql with
  | none => cases found
  | some sql =>
      rw [ofComponent?] at found
      split at found
      next => cases found
      next =>
        split at found
        next code replaced =>
          obtain rfl := Option.some.inj found
          obtain ⟨facts, gives⟩ := Reading.exists_facts?_ofSql usesGrammar grammar code
          rw [addTo, addTo, Reading.addTo_of_facts? gives, Reading.addTo_of_facts? gives,
            Reading.addFacts_withOutputs]
        next =>
          obtain rfl := Option.some.inj found
          rfl

/-- If no component fails, the outputs are found to write their tables, and all else comes from the
queries. -/
theorem exists_written_of_components
    (usesGrammar : policy ≠ .patternOnly)
    {components : List Component}
    (succeed : ∀ component ∈ components,
      (ofComponent? grammar policy context component).bind error? = none) :
    ∃ tables, List.Forall₂ (Component.Writes context) (components.filter Component.hasTable) tables ∧
      ∀ lineage outputs,
        (components.filterMap (ofComponent? grammar policy context)).foldl addTo
            (lineage.withOutputs outputs) =
          (((components.filter Component.isQuery).filterMap
              (ofComponent? grammar policy context)).foldl addTo lineage).withOutputs
            (outputs.extend tables) := by
  induction components with
  | nil => exact ⟨[], .nil, fun _ _ => rfl⟩
  | cons component components inductionHypothesis =>
      obtain ⟨head, tail⟩ := List.forall_mem_cons.1 succeed
      obtain ⟨tables, written, separate⟩ := inductionHypothesis tail
      cases component with
      | query id sql =>
          refine ⟨tables, written, fun lineage outputs => ?_⟩
          rw [List.filter_cons_of_pos rfl]
          cases found : ofComponent? grammar policy context (.query id sql) with
          | none => rw [List.filterMap_cons_none found, List.filterMap_cons_none found, separate]
          | some finding =>
              rw [List.filterMap_cons_some found, List.filterMap_cons_some found, List.foldl_cons,
                List.foldl_cons, addTo_withOutputs_of_query usesGrammar found, separate]
      | output id table schema =>
          cases table with
          | none => exact ⟨tables, written, separate⟩
          | some table =>
              cases resolved : resolveTable context table schema with
              | error error =>
                  rw [ofComponent?, resolved] at head
                  cases head
              | ok name =>
                  refine ⟨name :: tables, ?_, fun lineage outputs => ?_⟩
                  · exact .cons (Component.writes_of_resolveTable resolved id) written
                  · have found : ofComponent? grammar policy context
                        (.output id (some table) schema) = some (.written name) := by
                      rw [ofComponent?, resolved]
                    rw [List.filterMap_cons_some found, List.foldl_cons]
                    exact separate lineage (outputs.insert name)

end Finding

/-! ## Documents -/

namespace JobDocument

/-- The components that bear SQL and have an identifier. -/
def namedComponents (document : JobDocument) : List Component :=
  document.components.filterMap ComponentNode.component?

/-- The outputs that have a table. -/
def outputs (document : JobDocument) : List Component :=
  document.namedComponents.filter Component.hasTable

/-- The queries. -/
def queries (document : JobDocument) : List Component :=
  document.namedComponents.filter Component.isQuery

end JobDocument

namespace Finding

variable {grammar : SqlGrammar}
variable {policy : ExtractionPolicy}
variable {document : JobDocument}

theorem namedComponents_eq (document : JobDocument) :
    document.namedComponents = (document.componentsOfKind [.input, .row, .output]).filterMap
      fun node => (Component.ofNode node).toOption := by
  rw [JobDocument.componentsOfKind_all, List.filterMap_filter]
  rfl

/-- A document that is gone through to its end has no component that fails. -/
theorem succeed_of_ofDocument
    (complete : failure? (ofDocument grammar policy document) = none) :
    ∀ component ∈ document.namedComponents,
      (ofComponent? grammar policy (.ofParameters document.context) component).bind error? =
        none := by
  intro component member
  rw [namedComponents_eq] at member
  obtain ⟨node, listed, named⟩ := List.mem_filterMap.1 member
  have found : ofNode? grammar policy (.ofParameters document.context) node =
      ofComponent? grammar policy (.ofParameters document.context) component := by
    rw [ofNode?]
    cases read : Component.ofNode node with
    | error missing => simp [read, Except.toOption] at named
    | ok other =>
        obtain rfl : other = component := by simpa [read, Except.toOption] using named
        rfl
  cases result : ofComponent? grammar policy (.ofParameters document.context) component with
  | none => rfl
  | some finding =>
      rw [ofDocument] at complete
      rw [ofNodes_eq_filterMap complete, failure?, List.findSome?_eq_none_iff] at complete
      exact complete finding (List.mem_filterMap.2 ⟨node, listed, found.trans result⟩)

/-- Components without an identifier say nothing. -/
theorem lineage_ofDocument
    (complete : failure? (ofDocument grammar policy document) = none) :
    lineage (ofDocument grammar policy document) =
      lineage (document.namedComponents.filterMap
        (ofComponent? grammar policy (.ofParameters document.context))) := by
  rw [ofDocument] at complete ⊢
  rw [ofNodes_eq_filterMap complete, namedComponents_eq, lineage, lineage, List.filterMap_filterMap,
    List.foldl_filterMap, List.foldl_filterMap]
  refine congrArg (fun step => List.foldl step JobLineage.empty _) ?_
  funext lineage node
  rw [ofNode?]
  cases Component.ofNode node <;> rfl

/-- The outputs of a document give what is written, and its queries all else. -/
theorem exists_written_of_document
    (usesGrammar : policy ≠ .patternOnly)
    (complete : failure? (ofDocument grammar policy document) = none) :
    ∃ tables,
      List.Forall₂ (Component.Writes (.ofParameters document.context)) document.outputs tables ∧
        lineage (ofDocument grammar policy document) =
          (lineage (document.queries.filterMap
            (ofComponent? grammar policy (.ofParameters document.context)))).withOutputs
              (.ofList tables) := by
  obtain ⟨tables, written, separate⟩ :=
    exists_written_of_components usesGrammar (succeed_of_ofDocument complete)
  refine ⟨tables, written, ?_⟩
  rw [lineage_ofDocument complete]
  exact separate .empty .empty

end Finding

/-! ## Collecting a document -/

/-- A job that was merged into nothing has the members of its list. -/
theorem LineageResult.members_mergeList_empty (job : Job) (values : List String) :
    members (mergeList .empty job (.ofList values)) job = values.eraseDups := by
  rw [← UniqueList.toList_ofList, members, get?_mergeList, if_pos Std.ReflOrd.compare_self,
    OrderedMap.get?_empty, JobEntries.extended]
  by_cases empty : (UniqueList.ofList values).isEmpty = true
  · rw [if_pos empty]
    exact (List.isEmpty_iff.1 empty).symm
  · rw [if_neg empty]
    exact congrArg UniqueList.toList (UniqueList.ofList_toList_ofList values)

namespace Collector

/-- A collector has the document of a job and goes through it to its end. -/
structure Completes (collector : Collector) (job : Job) (document : JobDocument) : Prop where
  /-- The document is there. -/
  loaded : collector.repository.document job = .ok document
  /-- No component fails. -/
  succeeds : (collector.collect job).1 = none

/-- A document that is gone through to its end gives its outputs and, apart from them, what its
queries give. -/
theorem Completes.exists_written
    {collector : Collector}
    {job : Job}
    {document : JobDocument}
    (completes : collector.Completes job document)
    (usesGrammar : collector.policy ≠ .patternOnly) :
    ∃ tables,
      List.Forall₂ (Component.Writes (.ofParameters document.context)) document.outputs tables ∧
        (collector.collect job).2.result =
          collector.result.merge job
            ((Finding.lineage (document.queries.filterMap
              (Finding.ofComponent? collector.grammar collector.policy
                (.ofParameters document.context)))).withOutputs (.ofList tables)) := by
  obtain ⟨error, result⟩ := collect_of_document collector completes.loaded
  rw [completes.succeeds] at error
  obtain ⟨tables, written, lineage⟩ := Finding.exists_written_of_document usesGrammar error.symm
  exact ⟨tables, written, by rw [result, lineage]⟩

/-- **As long as SQL is read by a grammar, it does not make a job write tables.** What a job that is
collected to its end writes are the tables of its outputs, in their order and each once. It is the
same for any document with the same context and the same outputs, whatever its queries are and by
whatever grammar they are read, and what is read and called is the same for any document with the
same context and the same queries. SQL adds nothing to what is written; without a fallback it adds
what it adds with one if the grammar accepts it, and nothing at all otherwise, and then the fallback
adds no function. -/
theorem collect_separates_outputs_from_queries
    (repository : Repository)
    (grammar : SqlGrammar)
    (policy : ExtractionPolicy)
    (job : Job)
    (document : JobDocument)
    (usesGrammar : policy ≠ .patternOnly)
    (completes : (new repository grammar policy).Completes job document) :
    let result := ((new repository grammar policy).collect job).2.result
    (∃ tables,
      List.Forall₂ (Component.Writes (.ofParameters document.context)) document.outputs tables ∧
        LineageResult.members result.outputTables job = tables.eraseDups) ∧
    (∀ otherRepository otherGrammar otherPolicy changed,
      otherPolicy ≠ .patternOnly →
      (new otherRepository otherGrammar otherPolicy).Completes job changed →
      changed.context = document.context →
      changed.outputs = document.outputs →
      ((new otherRepository otherGrammar otherPolicy).collect job).2.result.outputTables =
        result.outputTables) ∧
    (∀ otherRepository changed,
      (new otherRepository grammar policy).Completes job changed →
      changed.context = document.context →
      changed.queries = document.queries →
      let other := ((new otherRepository grammar policy).collect job).2.result
      other.inputTables = result.inputTables ∧ other.functions = result.functions ∧
        other.inputTablesPerComponent = result.inputTablesPerComponent) ∧
    ∀ component lineage sql,
      ((Reading.ofSql grammar policy sql).addTo component lineage).outputs = lineage.outputs ∧
      (∀ statements, grammar.parse (Normalize.normalize sql) = .ok statements →
        (Reading.ofSql grammar .grammarOnly sql).addTo component lineage =
          (Reading.ofSql grammar .grammarWithPatternFallback sql).addTo component lineage) ∧
      ∀ error, grammar.parse (Normalize.normalize sql) = .error error →
        (Reading.ofSql grammar .grammarOnly sql).addTo component lineage = lineage ∧
          ((Reading.ofSql grammar .grammarWithPatternFallback sql).addTo
            component lineage).functions = lineage.functions := by
  intro result
  obtain ⟨tables, written, collected⟩ := completes.exists_written usesGrammar
  have outputTables : result.outputTables = LineageResult.mergeList .empty job (.ofList tables) :=
    congrArg LineageResult.outputTables collected
  refine ⟨⟨tables, written, ?_⟩, ?_, ?_, ?_⟩
  · rw [outputTables, LineageResult.members_mergeList_empty]
  · intro otherRepository otherGrammar otherPolicy changed alsoUsesGrammar completesChanged
      sameContext sameOutputs
    obtain ⟨others, writtenInChanged, collectedChanged⟩ :=
      completesChanged.exists_written alsoUsesGrammar
    rw [sameContext, sameOutputs] at writtenInChanged
    obtain rfl : others = tables :=
      List.right_unique_forall₂' (Component.rightUnique_writes _) writtenInChanged written
    rw [outputTables]
    exact congrArg LineageResult.outputTables collectedChanged
  · intro otherRepository changed completesChanged sameContext sameQueries other
    obtain ⟨others, _, collectedChanged⟩ := completesChanged.exists_written usesGrammar
    rw [sameContext, sameQueries] at collectedChanged
    -- The results differ in the tables that are written, which the other fields do not show.
    refine ⟨?_, ?_, ?_⟩
    · exact (congrArg LineageResult.inputTables collectedChanged).trans
        (congrArg LineageResult.inputTables collected).symm
    · exact (congrArg LineageResult.functions collectedChanged).trans
        (congrArg LineageResult.functions collected).symm
    · exact (congrArg LineageResult.inputTablesPerComponent collectedChanged).trans
        (congrArg LineageResult.inputTablesPerComponent collected).symm
  · intro component lineage sql
    obtain ⟨facts, gives⟩ := Reading.exists_facts?_ofSql usesGrammar grammar sql
    refine ⟨?_, Reading.addTo_ofSql_grammarOnly grammar component lineage sql⟩
    rw [Reading.addTo_of_facts? gives, Reading.outputs_addFacts]

/-- A document with these queries, and with outputs of which two write one table. -/
def ordersDocument (queries : List String) : JobDocument :=
  ⟨[⟨"area", "sales"⟩], queries.map running ++
    [ordersOutput "first" [⟨"SCHEMA_DB", "TEXT", "context.area"⟩],
      ordersOutput "second" [⟨"SCHEMA_DB", "TEXT", "\"\""⟩],
      ordersOutput "third" [⟨"SCHEMA_DB", "TEXT", "\"sales\""⟩]]⟩

/-- That document with its queries alone. -/
def queriesDocument (queries : List String) : JobDocument :=
  { ordersDocument queries with components := queries.map running }

/-- The repository of one job. -/
def holding (document : JobDocument) : Repository :=
  .ofDocuments (OrderedMap.empty.insert (Repository.givenJob "load" "1.0") (some document))

theorem completes_holding
    {document : JobDocument}
    {policy : ExtractionPolicy}
    (succeeds : ((new (holding document) .generic policy).collect
      (Repository.givenJob "load" "1.0")).1 = none) :
    (new (holding document) .generic policy).Completes
      (Repository.givenJob "load" "1.0") document := by
  refine ⟨?_, succeeds⟩
  simp only [new, holding, Repository.ofDocuments, OrderedMap.insert, OrderedMap.get?_update,
    if_pos Std.ReflOrd.compare_self]

theorem collect_separates_orders_from_queries :
    let load := Repository.givenJob "load" "1.0"
    let selection := "SELECT f() FROM a"
    let insertion := "INSERT INTO hidden JOIN b"
    let result := ((new (holding (ordersDocument [selection])) .generic .grammarOnly).collect
      load).2.result
    let changed := ((new (holding (ordersDocument [insertion])) .generic
      .grammarWithPatternFallback).collect load).2.result
    let cut := ((new (holding (queriesDocument [selection])) .generic .grammarOnly).collect
      load).2.result
    LineageResult.members result.outputTables load = ["sales.orders", "orders"] ∧
      changed.outputTables = result.outputTables ∧
      LineageResult.members changed.inputTables load = ["b"] ∧
      cut.inputTables = result.inputTables ∧
      LineageResult.members result.inputTables load = ["a"] ∧
      JobLineage.ofSnippet .generic .grammarOnly selection =
        JobLineage.ofSnippet .generic .grammarWithPatternFallback selection ∧
      JobLineage.ofSnippet .generic .grammarOnly insertion = .empty := by
  intro load selection insertion result changed cut
  have completes : (new (holding (ordersDocument [selection])) .generic .grammarOnly).Completes
      load (ordersDocument [selection]) := completes_holding (by decide +kernel)
  have completesChanged : (new (holding (ordersDocument [insertion])) .generic
      .grammarWithPatternFallback).Completes load (ordersDocument [insertion]) :=
    completes_holding (by decide +kernel)
  have completesCut : (new (holding (queriesDocument [selection])) .generic .grammarOnly).Completes
      load (queriesDocument [selection]) := completes_holding (by decide +kernel)
  obtain ⟨⟨tables, written, members⟩, sameOutputs, sameReads, texts⟩ :=
    collect_separates_outputs_from_queries _ _ _ load (ordersDocument [selection]) (by decide)
      completes
  obtain ⟨_, accepted, _⟩ := texts snippetName .empty selection
  obtain ⟨_, _, refused⟩ := texts snippetName .empty insertion
  refine ⟨?_, ?_, by decide +kernel, ?_, by decide +kernel, ?_, ?_⟩
  · let context := Context.ofParameters [⟨"area", "sales"⟩]
    have table : context.resolve "\"orders\"" = .ok "orders" := by decide +kernel
    have area : context.resolve "context.area" = .ok "sales" := by decide +kernel
    have noSchema : context.resolve "\"\"" = .ok "" := by decide +kernel
    have schema : context.resolve "\"sales\"" = .ok "sales" := by decide +kernel
    have outputs : (ordersDocument [selection]).outputs =
        [.output "first" (some "\"orders\"") (some "context.area"),
          .output "second" (some "\"orders\"") (some "\"\""),
          .output "third" (some "\"orders\"") (some "\"sales\"")] := by decide +kernel
    have resolved : List.Forall₂ (Component.Writes context) (ordersDocument [selection]).outputs
        ["sales.orders", "orders", "sales.orders"] := by
      rw [outputs]
      exact .cons (.inSchema table area (by decide))
        (.cons (.emptySchema table noSchema) (.cons (.inSchema table schema (by decide)) .nil))
    obtain rfl := List.right_unique_forall₂' (Component.rightUnique_writes _) written resolved
    rw [members]
    decide
  · exact sameOutputs _ _ _ _ (by decide) completesChanged rfl (by decide +kernel)
  · exact (sameReads _ _ completesCut rfl (by decide +kernel)).1
  · cases parsed : SqlGrammar.generic.parse (Normalize.normalize selection) with
    | ok statements => exact accepted statements parsed
    | error error =>
        have isOk : (SqlGrammar.generic.parse (Normalize.normalize selection)).isOk = true := by
          decide +kernel
        rw [parsed] at isOk
        cases isOk
  · cases parsed : SqlGrammar.generic.parse (Normalize.normalize insertion) with
    | error error => exact (refused error parsed).1
    | ok statements =>
        have isOk : (SqlGrammar.generic.parse (Normalize.normalize insertion)).isOk = false := by
          decide +kernel
        rw [parsed] at isOk
        cases isOk

end Collector
end SqlLineage
