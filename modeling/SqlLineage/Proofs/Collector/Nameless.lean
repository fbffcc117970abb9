import SqlLineage.Proofs.Collector.Run
import SqlLineage.Proofs.Collector.Visited
import SqlLineage.Proofs.Grammar.TableReference
import SqlLineage.Proofs.Scan.NamelessTables

/-!
# Tables without a name

A table is registered whatever its name shows. A name that shows nothing comes from an output whose
table resolves to nothing, from a quoted name in scanned SQL that holds nothing but blanks, or from
such a name in a statement that the grammar reads, and there is no other way to it. Queries that are
blank are left out, but there is nothing like it for tables.
-/

namespace SqlLineage

/-! ## SQL -/

/-- A reference that counts is one to a table whose name shows nothing. -/
def Grammar.ReadsNameless (statements : List Grammar.Statement) : Prop :=
  ∃ root ∈ statements, ∃ owner table, root.Refers owner table ∧ ¬owner.Defines table ∧
    table ∉ Grammar.Walk.writtenNames owner ∧ Nameless table

/-- Statements read a table whose name shows nothing just if a reference to one counts. -/
theorem Grammar.readsNameless_iff (statements : List Grammar.Statement) :
    Grammar.ReadsNameless statements ↔
      ∃ table ∈ (Grammar.factsOf statements).tables.toList, Nameless table := by
  constructor
  · rintro ⟨root, member, owner, table, refers, undefined, unwritten, nameless⟩
    obtain ⟨s, isRoot, read⟩ :=
      Grammar.mem_tables_factsOf_iff.1 (refers.mem_tables undefined unwritten)
    obtain rfl := List.mem_singleton.1 isRoot
    exact ⟨table, Grammar.mem_tables_factsOf_iff.2 ⟨s, member, read⟩, nameless⟩
  · rintro ⟨table, isRead, nameless⟩
    obtain ⟨root, member, read⟩ := Grammar.mem_tables_factsOf_iff.1 isRead
    obtain ⟨owner, refers, undefined, unwritten⟩ :=
      Grammar.Within.root.exists_owner_of_mem_read read
    exact ⟨root, member, owner, table, refers, undefined, unwritten, nameless⟩

/-- SQL reads a table whose name shows nothing: a statement of it is scanned that does, the grammar
gives statements that do, or the grammar fails and a scan of the whole does. -/
inductive SqlGrammar.ReadsNameless (grammar : SqlGrammar) (sql : String) :
    ExtractionPolicy → Prop
  | scanned {statement : Scan.Statement} :
      statement ∈ Scan.codeStatements (Normalize.normalize sql) →
      Scan.ReadsNameless statement.sql →
      ReadsNameless grammar sql .patternOnly
  | parsed {policy : ExtractionPolicy} {statements : List Grammar.Statement} :
      policy ≠ .patternOnly →
      grammar.parse (Normalize.normalize sql) = .ok statements →
      Grammar.ReadsNameless statements →
      ReadsNameless grammar sql policy
  | fallback {error : SqlError} :
      grammar.parse (Normalize.normalize sql) = .error error →
      Scan.ReadsNameless (Normalize.normalize sql) →
      ReadsNameless grammar sql .grammarWithPatternFallback

/-- SQL that is not parsed has no facts. -/
theorem SqlGrammar.facts_of_parse_error
    {grammar : SqlGrammar}
    {text : String}
    {error : SqlError}
    (answer : grammar.parse text = .error error) :
    grammar.facts text = .error error := by
  rw [facts, answer, Except.map]

/-- SQL writes a table whose name shows nothing, which only a scan of its statements says. -/
def ExtractionPolicy.WritesNameless (policy : ExtractionPolicy) (sql : String) : Prop :=
  policy = .patternOnly ∧
    ∃ statement ∈ Scan.codeStatements (Normalize.normalize sql), Scan.WritesNameless statement.sql

namespace Reading

theorem reads_ofSql_of_parsed
    {grammar : SqlGrammar}
    {policy : ExtractionPolicy}
    (usesGrammar : policy ≠ .patternOnly)
    {sql : String}
    {statements : List Grammar.Statement}
    (parsed : grammar.parse (Normalize.normalize sql) = .ok statements) :
    (ofSql grammar policy sql).reads = (Grammar.factsOf statements).tables.toList := by
  have accepted : grammar.facts (Normalize.normalize sql) = .ok (Grammar.factsOf statements) := by
    rw [SqlGrammar.facts, parsed, Except.map]
  rw [ofSql_of_facts usesGrammar accepted, reads]

theorem exists_nameless_reads_iff
    (grammar : SqlGrammar)
    (policy : ExtractionPolicy)
    (sql : String) :
    (∃ name ∈ (ofSql grammar policy sql).reads, Nameless name) ↔
      grammar.ReadsNameless sql policy := by
  constructor
  · rintro ⟨name, isRead, nameless⟩
    by_cases scans : policy = .patternOnly
    · subst scans
      rw [reads_ofSql_patternOnly, List.mem_flatMap] at isRead
      obtain ⟨statement, member, inStatement⟩ := isRead
      exact .scanned member ⟨name, inStatement, nameless⟩
    · cases answer : grammar.parse (Normalize.normalize sql) with
      | ok statements =>
          rw [reads_ofSql_of_parsed scans answer] at isRead
          exact .parsed scans answer
            ((Grammar.readsNameless_iff statements).2 ⟨name, isRead, nameless⟩)
      | error error =>
          have refuses := SqlGrammar.facts_of_parse_error answer
          cases policy with
          | patternOnly => exact absurd rfl scans
          | grammarWithPatternFallback =>
              rw [ofSql_grammarWithPatternFallback_of_error refuses, reads] at isRead
              exact .fallback answer ⟨name, isRead, nameless⟩
          | grammarOnly =>
              rw [ofSql_grammarOnly_of_error refuses] at isRead
              cases isRead
  · intro nameless
    cases nameless with
    | scanned member inStatement =>
        obtain ⟨name, isRead, nameless⟩ := inStatement
        refine ⟨name, ?_, nameless⟩
        rw [reads_ofSql_patternOnly]
        exact List.mem_flatMap.2 ⟨_, member, isRead⟩
    | @parsed policy statements usesGrammar answer inStatements =>
        rw [reads_ofSql_of_parsed usesGrammar answer]
        exact (Grammar.readsNameless_iff statements).1 inStatements
    | @fallback error answer inText =>
        rw [ofSql_grammarWithPatternFallback_of_error (SqlGrammar.facts_of_parse_error answer)]
        exact inText

theorem exists_nameless_writes_iff
    (grammar : SqlGrammar)
    (policy : ExtractionPolicy)
    (sql : String) :
    (∃ name ∈ (ofSql grammar policy sql).writes, Nameless name) ↔ policy.WritesNameless sql := by
  unfold ExtractionPolicy.WritesNameless
  by_cases scans : policy = .patternOnly
  · subst scans
    rw [and_iff_right rfl]
    simp only [writes_ofSql_patternOnly, List.mem_filterMap, Scan.WritesNameless]
    constructor
    · rintro ⟨name, ⟨statement, member, isWritten⟩, nameless⟩
      exact ⟨statement, member, name, isWritten, nameless⟩
    · rintro ⟨statement, member, name, isWritten, nameless⟩
      exact ⟨name, ⟨statement, member, isWritten⟩, nameless⟩
  · obtain ⟨facts, gives⟩ := exists_facts?_ofSql scans grammar sql
    have nothing : (ofSql grammar policy sql).writes = [] := by
      cases read : ofSql grammar policy sql with
      | scanned statements =>
          rw [read] at gives
          cases gives
      | _ => rfl
    simp [nothing, scans]

end Reading

/-! ## Documents -/

/-- A name that an output writes shows nothing only if it is empty, as it is trimmed and a schema
shows a dot. -/
theorem Component.Writes.nameless_iff
    {context : Context}
    {component : Component}
    {name : String}
    (writes : component.Writes context name) :
    Nameless name ↔ name = "" := by
  have trimmed {value resolved : String} (resolves : context.resolve value = .ok resolved) :
      Nameless resolved ↔ resolved = "" := by
    rw [Context.resolve_eq] at resolves
    split at resolves
    next => cases resolves
    next =>
      obtain rfl := Except.ok.inj resolves
      exact nameless_trim_iff
  cases writes with
  | withoutSchema resolved => exact trimmed resolved
  | emptySchema resolved => exact trimmed resolved
  | @inSchema id table schema name schemaName resolved schemaResolved nonempty =>
      have composed : schemaName ++ "." ++ name = ".".intercalate [schemaName, name] := by
        simp [String.intercalate_cons_cons, String.append_assoc]
      constructor
      · intro nameless
        rw [composed, nameless_intercalate_iff] at nameless
        cases nameless.1
      · intro empty
        simp at empty

namespace JobDocument

/-- Code of a document reads a table whose name shows nothing. -/
def ReadsNameless
    (document : JobDocument)
    (grammar : SqlGrammar)
    (policy : ExtractionPolicy) : Prop :=
  ∃ code ∈ document.codes, grammar.ReadsNameless code policy

/-- An output of a document writes a table that resolves to nothing, in no schema or an empty one,
or code of it writes a table whose name shows nothing. -/
def WritesNameless (document : JobDocument) (policy : ExtractionPolicy) : Prop :=
  (∃ component ∈ document.visited, component.Writes (.ofParameters document.context) "") ∨
    ∃ code ∈ document.codes, policy.WritesNameless code

end JobDocument

namespace Finding

variable (grammar : SqlGrammar)
variable (policy : ExtractionPolicy)
variable (document : JobDocument)

theorem exists_nameless_inputs_iff :
    (∃ name ∈ (lineage (ofDocument grammar policy document)).inputs.toList, Nameless name) ↔
      document.ReadsNameless grammar policy := by
  simp only [mem_inputs_ofDocument_iff, JobDocument.ReadsNameless,
    ← Reading.exists_nameless_reads_iff]
  constructor
  · rintro ⟨name, ⟨code, member, isRead⟩, nameless⟩
    exact ⟨code, member, name, isRead, nameless⟩
  · rintro ⟨code, member, name, isRead, nameless⟩
    exact ⟨name, ⟨code, member, isRead⟩, nameless⟩

theorem exists_nameless_outputs_iff :
    (∃ name ∈ (lineage (ofDocument grammar policy document)).outputs.toList, Nameless name) ↔
      document.WritesNameless policy := by
  simp only [mem_outputs_ofDocument_iff, JobDocument.WritesNameless,
    ← Reading.exists_nameless_writes_iff grammar]
  constructor
  · rintro ⟨name, ⟨component, member, writes⟩ | ⟨code, member, isWritten⟩, nameless⟩
    · obtain rfl := writes.nameless_iff.1 nameless
      exact .inl ⟨component, member, writes⟩
    · exact .inr ⟨code, member, name, isWritten, nameless⟩
  · rintro (⟨component, member, writes⟩ | ⟨code, member, name, isWritten, nameless⟩)
    · exact ⟨"", .inl ⟨component, member, writes⟩, writes.nameless_iff.2 rfl⟩
    · exact ⟨name, .inr ⟨code, member, isWritten⟩, nameless⟩

end Finding

/-! ## Collecting -/

/-- Some job has a table whose name shows nothing. -/
def LineageResult.HasNameless (tables : OrderedMap Job (UniqueList String)) : Prop :=
  ∃ job, ∃ name ∈ members tables job, Nameless name

namespace Collector

/-- Jobs that are collected give the members of a list of their lineages to the map of the list. -/
theorem mem_members_foldl_adopt_iff
    {map : LineageResult → OrderedMap Job (UniqueList String)}
    {list : JobLineage → UniqueList String}
    (merges : ∀ result job lineage,
      map (result.merge job lineage) = LineageResult.mergeList (map result) job (list lineage))
    (found : List JobFindings)
    (collector : Collector)
    (job : Job)
    (name : String) :
    name ∈ LineageResult.members (map (found.foldl adopt collector).result) job ↔
      name ∈ LineageResult.members (map collector.result) job ∨
        ∃ findings ∈ found, compare findings.job job = .eq ∧
          name ∈ (list findings.lineage).toList := by
  induction found generalizing collector with
  | nil => simp
  | cons findings found inductionHypothesis =>
      rw [List.foldl_cons, inductionHypothesis, adopt, LineageResult.adopt, merges,
        LineageResult.mem_members_mergeList_iff, or_assoc]
      simp only [List.mem_cons, exists_eq_or_imp]

/-- After jobs are collected, some job has a table whose name shows nothing if one had it before or
one of the lineages has it. -/
theorem hasNameless_performAll_collect_iff
    {map : LineageResult → OrderedMap Job (UniqueList String)}
    {list : JobLineage → UniqueList String}
    (merges : ∀ result job lineage,
      map (result.merge job lineage) = LineageResult.mergeList (map result) job (list lineage))
    (collector : Collector)
    (jobs : List Job) :
    LineageResult.HasNameless (map (collector.performAll (jobs.map .collect)).result) ↔
      LineageResult.HasNameless (map collector.result) ∨
        ∃ job ∈ jobs, ∃ name ∈ (list (collector.inspect job).lineage).toList, Nameless name := by
  unfold LineageResult.HasNameless
  rw [performAll_collect]
  simp only [mem_members_foldl_adopt_iff merges]
  constructor
  · rintro ⟨other, name, before | ⟨findings, found, -, inLineage⟩, nameless⟩
    · exact .inl ⟨other, name, before, nameless⟩
    · obtain ⟨job, member, rfl⟩ := List.mem_map.1 found
      exact .inr ⟨job, member, name, inLineage, nameless⟩
  · rintro (⟨other, name, before, nameless⟩ | ⟨job, member, name, inLineage, nameless⟩)
    · exact ⟨other, name, .inl before, nameless⟩
    · refine ⟨job, name, .inr ⟨_, List.mem_map_of_mem member, ?_, inLineage⟩, nameless⟩
      exact Std.ReflOrd.compare_self

/-- What is found in a job is found in its document. -/
theorem exists_inspect_iff
    {list : JobLineage → UniqueList String}
    (nothing : list .empty = .empty)
    (collector : Collector)
    (job : Job) :
    (∃ name ∈ (list (collector.inspect job).lineage).toList, Nameless name) ↔
      ∃ document, collector.repository.document job = .ok document ∧
        ∃ name ∈ (list (Finding.lineage
          (Finding.ofDocument collector.grammar collector.policy document))).toList,
          Nameless name := by
  unfold inspect JobFindings.ofDocument JobFindings.lineage JobFindings.findings
  cases collector.repository.document job with
  | ok document => simp [Except.map]
  | error error =>
      have none_ : (list (Finding.lineage [])).toList = [] := congrArg UniqueList.toList nothing
      simp [Except.map, none_]

/-- What an output writes is registered. -/
theorem mem_outputTables_of_writes
    (collector : Collector)
    {jobs : List Job}
    {job : Job}
    {document : JobDocument}
    {component : Component}
    {name : String}
    (collected : job ∈ jobs)
    (loaded : collector.repository.document job = .ok document)
    (visited : component ∈ document.visited)
    (writes : component.Writes (.ofParameters document.context) name) :
    name ∈ LineageResult.members
      (collector.performAll (jobs.map .collect)).result.outputTables job := by
  have written : name ∈ (collector.inspect job).lineage.outputs.toList := by
    rw [inspect, loaded]
    exact (Finding.mem_outputs_ofDocument_iff _ _ document name).2
      (.inl ⟨component, visited, writes⟩)
  rw [performAll_collect]
  apply (mem_members_foldl_adopt_iff (fun _ _ _ => rfl) _ _ _ _).2
  exact .inr ⟨_, List.mem_map_of_mem collected, Std.ReflOrd.compare_self, written⟩

/-- **A table is registered even if its name shows nothing.** After jobs are collected, a table that
is written has such a name exactly if there was one before, or a job has an output whose table
resolves to nothing, in no schema or an empty one, or a scan of its code gives such a name. In a
schema that is not empty the name of such an output is the schema and a dot, and is registered as
well, as all that outputs write. A table that is read has such a name exactly if there was one
before or the code of a job gives one, and both hold of a single text, too. A scan gives such a name
only for a quoted name that holds nothing but blanks and stands where a table is listed, and it does
so right behind `FROM` and `JOIN` and where a statement names the table that it writes. -/
theorem nameless_tables_registered (collector : Collector) (jobs : List Job) :
    let after := (collector.performAll (jobs.map .collect)).result
    (LineageResult.HasNameless after.outputTables ↔
      LineageResult.HasNameless collector.result.outputTables ∨
        ∃ job ∈ jobs, ∃ document, collector.repository.document job = .ok document ∧
          document.WritesNameless collector.policy) ∧
    (LineageResult.HasNameless after.inputTables ↔
      LineageResult.HasNameless collector.result.inputTables ∨
        ∃ job ∈ jobs, ∃ document, collector.repository.document job = .ok document ∧
          document.ReadsNameless collector.grammar collector.policy) ∧
    (∀ job ∈ jobs, ∀ document, collector.repository.document job = .ok document →
      ∀ component ∈ document.visited, ∀ name,
        component.Writes (.ofParameters document.context) name →
          name ∈ LineageResult.members after.outputTables job) ∧
    (∀ sql,
      let lineage := JobLineage.ofSnippet collector.grammar collector.policy sql
      ((∃ name ∈ lineage.outputs.toList, Nameless name) ↔ collector.policy.WritesNameless sql) ∧
      ((∃ name ∈ lineage.inputs.toList, Nameless name) ↔
        collector.grammar.ReadsNameless sql collector.policy)) ∧
    ∀ text,
      (Scan.ReadsNameless text → ∃ before behind name,
        Scan.codeTokens text = before ++ behind ∧ (∃ isFrom, Scan.Listed isFrom before) ∧
          Scan.ShowsNothing behind name) ∧
      (∀ before head behind name,
        Scan.codeTokens text = before ++ head :: behind →
        head.isHead = true →
        ¬Scan.EndsInDot before →
        ¬Scan.InsideFunction before →
        Scan.ShowsNothing behind name →
        (∀ token ∈ behind.tail.head?, token.kind ≠ .lparen) →
        Scan.ReadsNameless text) ∧
      (Scan.WritesNameless text ↔ ∃ first tokens words name,
        Scan.codeTokens text = first :: tokens ∧
        Scan.wordsBeforeTarget first = some words ∧
        Scan.ShowsNothing (tokens.dropWhile fun token => words.any token.isKeyword) name) := by
  intro after
  refine ⟨?_, ?_, ?_, ?_, ?_⟩
  · rw [hasNameless_performAll_collect_iff fun _ _ _ => rfl]
    have inDocument (job : Job) :=
      exists_inspect_iff (rfl : JobLineage.empty.outputs = _) collector job
    simp only [inDocument, Finding.exists_nameless_outputs_iff]
  · rw [hasNameless_performAll_collect_iff fun _ _ _ => rfl]
    have inDocument (job : Job) :=
      exists_inspect_iff (rfl : JobLineage.empty.inputs = _) collector job
    simp only [inDocument, Finding.exists_nameless_inputs_iff]
  · intro job collected document loaded component visited name writes
    exact collector.mem_outputTables_of_writes collected loaded visited writes
  · intro sql lineage
    rw [← Reading.exists_nameless_writes_iff collector.grammar, ← Reading.exists_nameless_reads_iff]
    simp only [lineage, JobLineage.ofSnippet, Reading.outputs_addTo, Reading.inputs_addTo,
      UniqueList.mem_extend]
    simp [JobLineage.empty]
  · intro text
    refine ⟨Scan.ReadsNameless.exists_showsNothing, ?_, Scan.writesNameless_iff text⟩
    intro before head behind name split isHead undotted outside shows noArguments
    exact Scan.readsNameless_of_showsNothing split isHead undotted outside shows noArguments

/-- An output whose table resolves to nothing, with more parameters. -/
def namelessOutput (more : List ElementParameter) : ComponentNode :=
  ⟨"tDBOutput", [⟨"UNIQUE_NAME", "TEXT", "out"⟩, ⟨"TABLE", "DBTABLE", "\"\""⟩] ++ more⟩

/-- A table whose name shows nothing is registered, also as the part behind a schema, while a blank
query is left out. -/
theorem empty_table_name_registered :
    let load := Repository.givenJob "load" "1.0"
    let tables (components : List ComponentNode) :=
      LineageResult.members ((ofComponents components).collect load).2.result.outputTables load
    let blankQuery := ComponentNode.mk "tDBInput"
      [⟨"UNIQUE_NAME", "TEXT", "in"⟩, ⟨"QUERY", "MEMO_SQL", " "⟩]
    tables [namelessOutput []] = [""] ∧ Nameless "" ∧
      tables [namelessOutput [⟨"SCHEMA_DB", "TEXT", "\"sales\""⟩]] = ["sales."] ∧
      ((ofComponents [blankQuery]).collect load).2.result = .empty ∧
      (JobLineage.ofSnippet .generic .patternOnly "SELECT * FROM \"").inputs.toList = [""] := by
  decide +kernel

end Collector
end SqlLineage
