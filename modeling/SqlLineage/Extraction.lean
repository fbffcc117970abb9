import SqlLineage.Context
import SqlLineage.Grammar
import SqlLineage.Lineage
import SqlLineage.Scan.Script
import SqlLineage.Scan.Tables

/-!
# Extraction of lineage from SQL

SQL is put into normal form and then read by the grammar, by scanning for the clauses that name
tables, or by scanning only where the grammar fails. What was read is a value of its own, of which
the lineage and the report of the reading are two views.
-/

namespace SqlLineage

/-- How SQL is read. -/
inductive ExtractionPolicy
  /-- By the grammar, and by scanning what the grammar does not accept. -/
  | grammarWithPatternFallback
  /-- By the grammar only. -/
  | grammarOnly
  /-- By scanning only. -/
  | patternOnly
deriving DecidableEq, Repr, Inhabited

namespace ExtractionPolicy

/-- The policy of two preferences. Scanning remains if nothing is preferred. -/
def ofPreferences (grammar pattern : Bool) : ExtractionPolicy :=
  match grammar, pattern with
  | true, true => grammarWithPatternFallback
  | true, false => grammarOnly
  | false, _ => patternOnly

/-- Whether the grammar is used. -/
def prefersGrammar (policy : ExtractionPolicy) : Bool :=
  policy != patternOnly

/-- Whether scanning is used. -/
def prefersPattern (policy : ExtractionPolicy) : Bool :=
  policy != grammarOnly

/-- The policy with another preference for the grammar. -/
def preferGrammar (policy : ExtractionPolicy) (prefer : Bool) : ExtractionPolicy :=
  ofPreferences prefer policy.prefersPattern

/-- The policy with another preference for scanning. -/
def preferPattern (policy : ExtractionPolicy) (prefer : Bool) : ExtractionPolicy :=
  ofPreferences policy.prefersGrammar prefer

end ExtractionPolicy

/-- What was read from SQL. -/
inductive Reading
  /-- Each statement was scanned for the tables it reads and the table it writes. -/
  | scanned (statements : List (List String × Option String))
  /-- The grammar gave facts. -/
  | parsed (facts : Facts)
  /-- The grammar failed, and scanning gave facts. -/
  | fallback (error : SqlError) (facts : Facts)
  /-- The grammar failed, and nothing was read. -/
  | refused (error : SqlError)

namespace Reading

/-- Reads SQL. -/
def ofSql (grammar : SqlGrammar) (policy : ExtractionPolicy) (sql : String) : Reading :=
  let sql := Normalize.normalize sql
  match policy with
  | .patternOnly =>
    scanned ((Scan.codeStatements sql).map fun statement =>
      ((Scan.readTables statement.sql).toList, Scan.writtenTable? statement.sql))
  | .grammarWithPatternFallback =>
    match grammar.facts sql with
    | .ok facts => parsed facts
    | .error error => fallback error (Scan.facts sql)
  | .grammarOnly =>
    match grammar.facts sql with
    | .ok facts => parsed facts
    | .error error => refused error

/-- The lineage with what the statement of a component reads and writes. -/
def addStatement (component : String) (lineage : JobLineage)
    (statement : List String × Option String) : JobLineage :=
  let lineage := statement.1.foldl (·.addInput component ·) lineage
  match statement.2 with
  | some table => lineage.addOutput table
  | none => lineage

/-- The lineage with the facts of a component. -/
def addFacts (component : String) (lineage : JobLineage) (facts : Facts) : JobLineage :=
  facts.functions.toList.foldl (·.addFunction ·)
    (facts.tables.toList.foldl (·.addInput component ·) lineage)

/-- The lineage with what was read from the SQL of a component. -/
def addTo (component : String) (lineage : JobLineage) : Reading → JobLineage
  | scanned statements => statements.foldl (addStatement component) lineage
  | parsed facts => addFacts component lineage facts
  | fallback _ facts => addFacts component lineage facts
  | refused _ => lineage

end Reading

/-- The name under which SQL is read that belongs to no component. -/
def snippetName : String :=
  "snippet"

/-- The lineage of SQL that belongs to no component. -/
def JobLineage.ofSnippet (grammar : SqlGrammar) (policy : ExtractionPolicy) (sql : String) :
    JobLineage :=
  (Reading.ofSql grammar policy sql).addTo snippetName .empty

end SqlLineage
