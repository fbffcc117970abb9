import SqlLineage.Grammar.Parser.Select

/-!
# Statements that change rows

Insertions, updates, deletions and merges. Each keeps its target apart from its parts, which stand
in the order in which they are met: the rows that come in, the values assigned, the conditions, and
what is returned.
-/

namespace SqlLineage

namespace Grammar

namespace Parser

variable [Rules]

/-- The value assigned to a column, or to several columns at once. -/
def assignment : Parser Expr := do
  if ← sees .lparen then
    let _ ← parens (commaSeparated objectName)
  else
    let _ ← objectName
  expectSymbol .eq
  expr

/-- Values assigned to columns. -/
def assignments : Parser (List Expr) :=
  commaSeparated assignment

/-- What a statement returns, or nothing. -/
def optionalReturning : Parser (List Expr) :=
  whenList (keyword "RETURNING") (return (← commaSeparated selectItem).flatten)

/-- What happens to a row that is there already, in front of the target. -/
def optionalConflictWord : Parser Unit := do
  for action in ["REPLACE", "ROLLBACK", "ABORT", "FAIL", "IGNORE"] do
    if ← keywords ["OR", action] then return ()
  let _ ← keyword "REPLACE"

/-! ## Insertions -/

/-- What happens to a row that is there already, or nothing. -/
def optionalOnConflict : Parser (List Expr) := do
  if !(← keyword "ON") then return []
  if ← keyword "CONFLICT" then
    if ← keywords ["ON", "CONSTRAINT"] then
      let _ ← objectName
    else if ← sees .lparen then
      let _ ← columnNames
    expectKeyword "DO"
    if ← keyword "NOTHING" then return []
    expectKeyword "UPDATE"
    expectKeyword "SET"
    let values ← assignments
    return values ++ (← exprAfter "WHERE")
  expectKeywords ["DUPLICATE", "KEY", "UPDATE"]
  assignments

/-- A file format. -/
def fileFormat : Parser Unit := do
  let lexeme ← next
  let known := ["AVRO", "JSONFILE", "ORC", "PARQUET", "RCFILE", "SEQUENCEFILE", "TEXTFILE"]
  if !known.contains lexeme.token.keyword then expected "fileformat" lexeme

/-- Rows written to a directory, behind `DIRECTORY`. -/
def directory : Parser Statement := do
  let _ ← literalText
  if ← keywords ["STORED", "AS"] then fileFormat
  return .other [.query (← query)]

/-- Whether a query between parentheses is next. -/
def seesParenQuery : Parser Bool :=
  return (← peek).token == .symbol .lparen && (← peekAt 1).token.keyword == "SELECT"

/-- What an insertion writes: the partition, the query, and the values assigned. -/
structure InsertSource where
  /-- The values that choose the partition. -/
  partition : List Expr
  /-- The query that gives the rows. -/
  rows : Option Query
  /-- The values assigned in place of rows. -/
  values : List Expr

/-- The rows that are inserted. -/
def insertSource : Parser InsertSource := do
  if ← keywords ["DEFAULT", "VALUES"] then return ⟨[], none, []⟩
  let partition ←
    if ← seesParenQuery then pure []
    else
      if (← dialect) == .mysql then
        let _ ← optionalColumnNamesOrNone
      else
        let _ ← optionalColumnNames
      let partition ← whenList (keyword "PARTITION") (parens exprs)
      if (← dialect) == .hive then
        let _ ← optionalColumnNames
      pure partition
  if (← seesAnyKeyword ["FORMAT", "SETTINGS"]).isSome then return ⟨partition, none, []⟩
  if ← supports Dialect.insertsBySet <&&> keyword "SET" then
    return ⟨partition, none, ← assignments⟩
  return ⟨partition, some (← query), []⟩

/-- The format of inserted rows, or nothing. -/
def optionalInsertFormat : Parser (List Expr) := do
  if !(← supports Dialect.insertsFormats) then return []
  let _ ← optionalSettings
  if ← keyword "FORMAT" then
    let _ ← identifier
    return (← maybe exprs).getD []
  return []

/-- The target of an insertion; for a table function, its arguments. -/
def insertTarget : Parser (Option ObjectName × List Expr) := do
  if ← supports Dialect.insertsIntoFunctions <&&> keyword "FUNCTION" then
    match ← callOf (← objectName) with
    | .call _ parameters args clauses =>
      return (none, argumentExprs parameters ++ argumentExprs args ++ clauses)
    | _ => return (none, [])
  return (some (← objectName), [])

/-- An insertion, behind its keyword. -/
def insert : Parser Statement := do
  optionalConflictWord
  if ← inDialect [.mysql, .generic] then
    let _ ← anyKeyword ["LOW_PRIORITY", "DELAYED", "HIGH_PRIORITY"]
    let _ ← keyword "IGNORE"
  let _ ← keyword "OVERWRITE"
  let _ ← keyword "INTO"
  let _ ← keyword "LOCAL"
  if ← keyword "DIRECTORY" then return ← directory
  let _ ← keyword "TABLE"
  let (target, arguments) ← insertTarget
  if ← inDialect [.postgresql] <&&> keyword "AS" then
    let _ ← identifier
  let source ← insertSource
  let format ← optionalInsertFormat
  if ← inDialect [.mysql, .generic] <&&> keyword "AS" then
    let _ ← objectName
    let _ ← optionalColumnNames
  let conflict ← optionalOnConflict
  let returned ← optionalReturning
  return .insert target (Part.exprs arguments ++ source.rows.toList.map Part.query ++
    Part.exprs (source.values ++ source.partition ++ conflict ++ returned ++ format))

/-- An insertion that replaces rows, behind its keyword. -/
def replaceStatement : Parser Statement := do
  if !(← inDialect [.mysql, .generic]) then
    failed "Unsupported statement REPLACE" (← peek).position
  insert

/-! ## Updates and deletions -/

/-- An update, behind its keyword. -/
def update : Parser Statement := do
  optionalConflictWord
  let target ← tablesRule
  let before ← when? (keyword "FROM") tablesRule
  expectKeyword "SET"
  let values ← assignments
  let source ← match before with
    | some tables => pure [tables]
    | none => whenList (keyword "FROM") (return [← tablesRule])
  let condition ← exprAfter "WHERE"
  let returned ← optionalReturning
  return .update target (Part.exprs values ++ source.map Part.tables ++
    Part.exprs (condition ++ returned))

/-- The limit of a deletion, or nothing. -/
def optionalLimit : Parser (List Expr) := do
  if !(← keyword "LIMIT") then return []
  if ← keyword "ALL" then return []
  return [← expr]

/-- A deletion, behind its keyword. -/
def delete : Parser Statement := do
  let names ←
    if ← keyword "FROM" <||> inDialect [.bigquery, .generic] then pure []
    else
      let names ← commaSeparated objectName
      expectKeyword "FROM"
      pure names
  let tables ← commaSeparated tablesRule
  let source ← whenList (keyword "USING") (commaSeparated tablesRule)
  let condition ← exprAfter "WHERE"
  let returned ← optionalReturning
  let order ← whenList (keywords ["ORDER", "BY"]) orderItems
  let limit ← optionalLimit
  return .delete names tables (source.map Part.tables ++
    Part.exprs (condition ++ returned ++ order ++ limit))

/-! ## Merges -/

/-- Which rows a clause of a merge is about. -/
inductive MergeRows
  | matched
  | notMatched
  | notMatchedByTarget
  | notMatchedBySource
deriving DecidableEq

namespace MergeRows

/-- The words for the rows. -/
def spelling : MergeRows → String
  | matched => "MATCHED"
  | notMatched => "NOT MATCHED"
  | notMatchedByTarget => "NOT MATCHED BY TARGET"
  | notMatchedBySource => "NOT MATCHED BY SOURCE"

/-- Whether there is no row of the target to change. -/
def lacksTarget : MergeRows → Bool
  | notMatched => true
  | notMatchedByTarget => true
  | _ => false

end MergeRows

/-- The rows that a clause of a merge is about. -/
def mergeRows : Parser MergeRows := do
  let negated ← keyword "NOT"
  expectKeyword "MATCHED"
  if !negated then return .matched
  if ← keywords ["BY", "SOURCE"] then return .notMatchedBySource
  if ← keywords ["BY", "TARGET"] then return .notMatchedByTarget
  return .notMatched

/-- What a clause of a merge does. -/
def mergeAction (rows : MergeRows) : Parser (List Expr) := do
  let forbidden (word : String) : Parser (List Expr) :=
    failed (word ++ " is not allowed in a " ++ rows.spelling ++ " merge clause") .none
  match ← anyKeyword ["UPDATE", "INSERT", "DELETE"] with
  | some "UPDATE" =>
    if rows.lacksTarget then forbidden "UPDATE"
    else
      expectKeyword "SET"
      assignments
  | some "DELETE" =>
    if rows.lacksTarget then forbidden "DELETE"
    else return []
  | some _ =>
    if !rows.lacksTarget then forbidden "INSERT"
    else
      let allowEmpty := (← dialect) == .mysql
      if allowEmpty then
        let _ ← optionalColumnNamesOrNone
      else
        let _ ← optionalColumnNames
      if ← inDialect [.bigquery, .generic] <&&> keyword "ROW" then return []
      expectKeyword "VALUES"
      rowsOf allowEmpty
  | none => failed "expected UPDATE, DELETE or INSERT in merge clause" .none

/-- A clause of a merge, unless the statement ends. -/
def mergeClause : Parser (Option (List Expr)) := do
  let token := (← peek).token
  if token == .eof || token == .symbol .semicolon then return none
  expectKeyword "WHEN"
  let rows ← mergeRows
  let condition ← exprAfter "AND"
  expectKeyword "THEN"
  return some (condition ++ (← mergeAction rows))

/-- A merge, behind its keyword. -/
def merge : Parser Statement := do
  let _ ← keyword "INTO"
  let target ← factor
  expectKeyword "USING"
  let source ← factor
  expectKeyword "ON"
  let condition ← expr
  let clauses ← many mergeClause
  return .merge target source (Part.exprs (condition :: clauses.flatten))

end Parser

end Grammar

end SqlLineage
