import SqlLineage.Extraction
import SqlLineage.LineageError
import SqlLineage.Log
import SqlLineage.Text.Quoted
import SqlLineage.Text.Trim

/-!
# Findings in a job

The components of a job are gone through in the order of its document, up to the first that refers
to a variable without a value. What is found is a list; the lineage of the job, the error that ended
the list, if any, and the records of the log are views of it.
-/

namespace SqlLineage

/-- What is found in a component. -/
inductive Finding
  /-- The component has no identifier and is left out. -/
  | skipped (componentName : String) (error : MissingParameter)
  /-- The component writes a table. -/
  | written (table : String)
  /-- The query of the component was read. -/
  | queried (component query : String) (reading : Reading)
  /-- A table, or the query if there is one, refers to a variable without a value. -/
  | unresolved (component : String) (query : Option String) (name : String)

namespace Finding

/-- The name of a table in a schema, which may be empty. -/
def qualified (schema table : String) : String :=
  if schema.isEmpty then table else schema ++ "." ++ table

/-- The table that an output component writes. -/
def resolveTable (context : Context) (table : String) (schema : Option String) :
    Except UnresolvedVariable String := do
  let table ← context.resolve table
  match schema with
  | none => return table
  | some schema => return qualified (← context.resolve schema) table

/-- What is found in a component with an identifier. -/
def ofComponent? (grammar : SqlGrammar) (policy : ExtractionPolicy) (context : Context) :
    Component → Option Finding
  | .output _ none _ => none
  | .output id (some table) schema =>
    match resolveTable context table schema with
    | .ok table => some (written table)
    | .error error => some (unresolved id none error.name)
  | .query _ none => none
  | .query id (some query) =>
    if Text.allBlank query then none
    else
      match context.replace query with
      | .ok code => some (queried id query (Reading.ofSql grammar policy code))
      | .error error => some (unresolved id (some query) error.name)

/-- What is found in a component as its document gives it. -/
def ofNode? (grammar : SqlGrammar) (policy : ExtractionPolicy) (context : Context)
    (node : ComponentNode) : Option Finding :=
  match Component.ofNode node with
  | .ok component => ofComponent? grammar policy context component
  | .error error => some (skipped node.componentName error)

/-- The error that a finding stands for. -/
def error? : Finding → Option LineageError
  | unresolved component _ name => some (.unresolved component name)
  | _ => none

/-- The lineage with what was found. -/
def addTo (lineage : JobLineage) : Finding → JobLineage
  | skipped _ _ => lineage
  | written table => lineage.addOutput table
  | queried component _ reading => reading.addTo component lineage
  | unresolved _ _ _ => lineage

/-- What is found in components, up to the first error. -/
def ofNodes (grammar : SqlGrammar) (policy : ExtractionPolicy) (context : Context) :
    List ComponentNode → List Finding
  | [] => []
  | node :: nodes =>
    match ofNode? grammar policy context node with
    | none => ofNodes grammar policy context nodes
    | some finding =>
      if finding.error?.isSome then [finding]
      else finding :: ofNodes grammar policy context nodes

/-- What is found in a document. -/
def ofDocument (grammar : SqlGrammar) (policy : ExtractionPolicy) (document : JobDocument) :
    List Finding :=
  ofNodes grammar policy (Context.ofParameters document.context)
    (document.componentsOfKind [.input, .row, .output])

/-- The lineage that findings give. -/
def lineage (findings : List Finding) : JobLineage :=
  findings.foldl addTo .empty

/-- The error that ended findings. -/
def failure? (findings : List Finding) : Option LineageError :=
  findings.findSome? error?

end Finding

namespace Reading

/-- A record of the part of the program that collects lineage. -/
def record (level : LogLevel) (message : String) (fields : List (String × String)) : LogRecord :=
  ⟨level, "collector", message, fields⟩

/-- The records of reading the SQL of a component by a grammar. -/
def records (grammar : SqlGrammar) (component : String) (reading : Reading) : List LogRecord :=
  let start := record .debug "Parse SQL"
    [("component", component), ("dialect", Text.quoted grammar.dialectName)]
  match reading with
  | scanned _ => [record .debug "Pattern matching SQL" [("component", component)]]
  | parsed _ => [start]
  | fallback error _ =>
    [start, record .debug "Falling back to pattern matching"
      [("component", component), ("error", error.message)]]
  | refused error =>
    [start, record .warning "SQL not parsed"
      [("component", component), ("error", error.message)]]

end Reading

namespace Finding

/-- The record of starting with a query. -/
def queryRecord (component query : String) : LogRecord :=
  Reading.record .debug "Process query"
    [("component", component), ("query", Text.quoted query)]

/-- The records of a finding in a job. -/
def records (grammar : SqlGrammar) (job : Job) : Finding → List LogRecord
  | skipped componentName error =>
    [Reading.record .warning "Skipping component"
      [("job", job.display), ("component", componentName), ("error", error.message)]]
  | written _ => []
  | queried component query reading =>
    queryRecord component query :: reading.records grammar component
  | unresolved _ none _ => []
  | unresolved component (some query) _ => [queryRecord component query]

end Finding

end SqlLineage
