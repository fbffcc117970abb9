import SqlLineage.Grammar.Parser.Column

/-!
# Statements that create objects

Tables and views keep their names, since they are written to; an index and a policy name the table
they are for. Of every other object only the expressions and the queries in its definition are kept.
-/

namespace SqlLineage

namespace Grammar

namespace Parser

/-! ## Formats of tables -/

/-- A word that ends a part of a line of a file, behind the keywords that say which. -/
def rowDelimiter : Parser (Option Unit) := do
  let ends ← match ← anyKeyword ["FIELDS", "COLLECTION", "MAP", "LINES", "NULL"] with
    | some "FIELDS" =>
      if ← keywords ["TERMINATED", "BY"] then
        let _ ← identifier
        if ← keywords ["ESCAPED", "BY"] then
          let _ ← identifier
        return some ()
      pure false
    | some "COLLECTION" => keywords ["ITEMS", "TERMINATED", "BY"]
    | some "MAP" => keywords ["KEYS", "TERMINATED", "BY"]
    | some "LINES" => keywords ["TERMINATED", "BY"]
    | some _ => keywords ["DEFINED", "AS"]
    | none => pure false
  if !ends then return none
  let _ ← identifier
  return some ()

/-- The format of the rows of a file, behind `ROW`. -/
def rowFormat : Parser Unit := do
  expectKeyword "FORMAT"
  match ← anyKeyword ["SERDE", "DELIMITED"] with
  | some "SERDE" =>
    let _ ← literalText
  | _ =>
    let _ ← many rowDelimiter

/-- What happens to the rows of a temporary table at the end of a transaction. -/
def onCommit : Parser Unit := do
  if ← keywords ["DELETE", "ROWS"] <||> keywords ["PRESERVE", "ROWS"] <||> keyword "DROP" then
    return ()
  failed ("Expecting DELETE ROWS, PRESERVE ROWS or DROP" ++ (← peek).token.spelling) .none

/-- A name, or the user or role that is current. -/
def owner : Parser Unit := do
  if (← anyKeyword ["CURRENT_USER", "CURRENT_ROLE", "SESSION_USER"]).isSome then return ()
  match ← attempt identifier with
  | .ok _ => return ()
  | .error error =>
    failed ("Expected: CURRENT_USER, CURRENT_ROLE, SESSION_USER or identifier after OWNER TO. " ++
      error.message) .none

/-- A name of one part, and its host where the dialect knows hosts. -/
def granteeName : Parser Unit := do
  let name ← objectName
  if ← pure (name.length == 1) <&&> supports Dialect.grantsToHosts <&&> symbol .atSign then
    let _ ← identifier

/-- Members between parentheses, or none. -/
def parensOrNone {α : Type} (p : Parser α) : Parser (List α) := parens do
  if ← sees .rparen then return []
  commaSeparated p

variable [Rules]

/-- The columns that the files of a table are distributed by, or nothing. -/
def optionalPartitionedBy : Parser (List Expr) :=
  whenList (keywords ["PARTITIONED", "BY"]) do
    return (← parens (commaSeparated columnRule)).flatMap ColumnDefinition.items

/-- The buckets that the rows of a table are put into, or nothing. -/
def optionalClusteredBy : Parser (List Expr) := do
  if !(← inDialect [.hive, .generic] <&&> keywords ["CLUSTERED", "BY"]) then return []
  let _ ← mandatoryColumnNames
  let order ← whenList (keywords ["SORTED", "BY"]) (parens orderItems)
  expectKeyword "INTO"
  let _ ← numberValue
  expectKeyword "BUCKETS"
  return order

/-- The format of the files of a table. -/
structure Storage where
  /-- The properties of the reader of rows. -/
  properties : List Expr
  /-- The classes that read and write files. -/
  classes : List Expr

/-- Takes one part of the format of the files of a table; a later part replaces an earlier one. -/
def storageClause (storage : Storage) : Parser (Option Storage) := do
  if ← keyword "ROW" then
    rowFormat
    return some storage
  if ← keyword "STORED" then
    expectKeyword "AS"
    if ← keyword "INPUTFORMAT" then
      let input ← expr
      expectKeyword "OUTPUTFORMAT"
      return some { storage with classes := [input, ← expr] }
    fileFormat
    return some { storage with classes := [] }
  if ← keyword "LOCATION" then
    let _ ← literalText
    return some storage
  if ← keywords ["WITH", "SERDEPROPERTIES"] then
    return some { storage with properties := ← someOptions }
  return none

/-- The expressions in the format of the files of a table. -/
def storage : Parser (List Expr) := do
  let storage ← iterate storageClause ⟨[], []⟩
  return storage.properties ++ storage.classes

/-! ## Tables -/

/-- The engine of a table, or nothing. -/
def optionalEngine : Parser Unit := do
  if ← keyword "ENGINE" then
    expectSymbol .eq
    let lexeme ← next
    match lexeme.token with
    | .word _ =>
      let _ ← optionalColumnNames
    | _ => expected "identifier" lexeme

/-- A word behind an equals sign. -/
def assignedWord : Parser Unit := do
  expectSymbol .eq
  let lexeme ← next
  match lexeme.token with
  | .word _ => return ()
  | _ => expected "identifier" lexeme

/-- The first number of an automatic key, or nothing. -/
def optionalFirstKey : Parser Unit := do
  if ← keyword "AUTO_INCREMENT" then
    let _ ← symbol .eq
    let lexeme ← next
    match lexeme.token with
    | .number digits _ =>
      let _ ← numberOf 32 lexeme digits
    | _ => expected "literal int" lexeme

/-- The key that the rows of a table are sorted by, or nothing. -/
def optionalSortKey : Parser (List Expr) := do
  if !(← keywords ["ORDER", "BY"]) then return []
  if ← symbols [.lparen, .rparen] then return []
  if ← sees .lparen then return ← parens exprs
  return [← expr]

/-- The creation of a table, behind `TABLE`. -/
def createTable : Parser Statement := do
  let hyphens ← inDialect [.bigquery]
  optionalIfNotExists
  let name ← objectNameIn hyphens
  optionalOnCluster
  if ← keyword "LIKE" <||> keyword "ILIKE" then
    let _ ← attempt? (objectNameIn hyphens)
  if ← keyword "CLONE" then
    let _ ← attempt? (objectNameIn hyphens)
  let elements ← tableElements
  if ← inDialect [.hive] <&&> keyword "COMMENT" then singleQuoted "comment"
  let _ ← keywords ["WITHOUT", "ROWID"]
  let distribution ← optionalPartitionedBy
  let buckets ← optionalClusteredBy
  let formats ← storage
  let options ← optionsAfter "WITH"
  let properties ← optionsAfter "TBLPROPERTIES"
  optionalEngine
  optionalFirstKey
  let key ← whenList (inDialect [.clickhouse, .generic] <&&> keywords ["PRIMARY", "KEY"]) do
    return [← expr]
  let order ← optionalSortKey
  let partition ← whenList (inDialect [.bigquery, .postgresql, .generic] <&&>
      keywords ["PARTITION", "BY"]) do
    return [← expr]
  let warehouse ← inDialect [.bigquery, .generic]
  if ← pure warehouse <&&> keywords ["CLUSTER", "BY"] then
    let _ ← commaSeparated identifier
  let more ← if warehouse then optionsAfter "OPTIONS" else pure []
  if ← keywords ["DEFAULT", "CHARSET"] then assignedWord
  if ← keyword "COLLATE" then assignedWord
  if ← keywords ["ON", "COMMIT"] then onCommit
  let _ ← keyword "STRICT"
  if ← notM (inDialect [.hive]) <&&> keyword "COMMENT" then inlineComment
  let rows ← if ← keyword "AS" then pure [← query]
    else if ← supports Dialect.createsFromSelect <&&> seesKeyword "SELECT" then pure [← query]
    else pure []
  return .createTable name (Part.exprs (elements.exprs ++ distribution ++ formats ++ properties ++
    options) ++ rows.map Part.query ++ Part.exprs (key ++ order ++ partition ++ buckets ++ more))

/-- The creation of a table over files, behind `EXTERNAL`. -/
def createExternalTable : Parser Statement := do
  expectKeyword "TABLE"
  optionalIfNotExists
  let name ← objectName
  let elements ← tableElements
  let distribution ← optionalPartitionedBy
  let formats ← storage
  let properties ← optionsAfter "TBLPROPERTIES"
  return .createTable name (Part.exprs (elements.exprs ++ distribution ++ formats ++ properties))

/-- A table while its definition is read clause by clause. -/
structure TableClauses where
  /-- The expressions in the columns and constraints. -/
  items : List Expr
  /-- The query that gives the rows. -/
  rows : List Query
  /-- How many columns there are. -/
  width : Nat
  /-- Whether the statement ends. -/
  closed : Bool

/-- Takes a clause of a table whose clauses stand in any order. -/
def tableClause (clauses : TableClauses) : Parser (Option TableClauses) := do
  if clauses.closed then return none
  let done : Option TableClauses := some { clauses with closed := true }
  let assigned (p : Parser Unit) : Parser (Option TableClauses) := do
    expectSymbol .eq
    p
    return some clauses
  let lexeme ← next
  match lexeme.token with
  | .symbol .lparen =>
    back
    let elements ← tableElements
    return some { clauses with items := elements.exprs, width := elements.width }
  | .eof =>
    if clauses.width = 0 then failed "unexpected end of input" .none
    return done
  | .symbol .semicolon =>
    if clauses.width = 0 then failed "unexpected end of input" .none
    back
    return done
  | .word w =>
    match w.keyword with
    | "COPY" => do
      expectKeyword "GRANTS"
      return some clauses
    | "COMMENT" => do
      inlineComment
      return some clauses
    | "AS" => return some { clauses with rows := [← query], closed := true }
    | "CLONE" | "LIKE" => do
      let _ ← attempt? objectName
      return done
    | "CLUSTER" => do
      expectKeyword "BY"
      let _ ← columnNames
      return some clauses
    | "ENABLE_SCHEMA_EVOLUTION" | "CHANGE_TRACKING" => assigned do
      if (← anyKeyword ["TRUE", "FALSE"]).isNone then expected "TRUE or FALSE" lexeme
    | "DATA_RETENTION_TIME_IN_DAYS" | "MAX_DATA_EXTENSION_TIME_IN_DAYS" => assigned do
      let _ ← literalWord
    | "DEFAULT_DDL_COLLATION" => assigned do
      let _ ← literalText
    | "WITH" => do
      let _ ← expectAnyKeyword ["AGGREGATION", "TAG", "ROW"]
      back
      return some clauses
    | "AGGREGATION" => do
      expectKeyword "POLICY"
      let _ ← objectName
      return some clauses
    | "ROW" => do
      expectKeywords ["ACCESS", "POLICY"]
      let _ ← objectName
      expectKeyword "ON"
      let _ ← columnNames
      return some clauses
    | "TAG" => do
      let _ ← parens (commaSeparated tag)
      return some clauses
    | "ON" => do
      if ← keyword "COMMIT" then
        onCommit
        return some clauses
      expected "end of statement" lexeme
    | _ => expected "end of statement" lexeme
  | _ => expected "end of statement" lexeme

/-- The creation of a table whose clauses stand in any order, behind `TABLE`. -/
def createTableByClauses : Parser Statement := do
  optionalIfNotExists
  let name ← objectName
  let clauses ← iterate tableClause ⟨[], [], 0, false⟩
  return .createTable name (Part.exprs clauses.items ++ clauses.rows.map Part.query)

/-! ## Views -/

/-- A column of a view. -/
def viewColumn : Parser (List Expr) := do
  let _ ← identifier
  let described ← (inDialect [.bigquery, .generic] <&&> seesKeyword "OPTIONS") <||>
    (inDialect [.snowflake, .generic] <&&> seesKeyword "COMMENT")
  let items ← if described then pure ((← columnOption).getD []) else pure []
  if ← inDialect [.clickhouse] then
    let _ ← typeName
  return items

/-- The columns of a view, or nothing. -/
def viewColumns : Parser (List Expr) := do
  if !(← symbol .lparen) then return []
  if ← symbol .rparen then return []
  let items ← commaSeparated viewColumn
  expectSymbol .rparen
  return items.flatten

/-- What is said about a view in front of its keyword. -/
def viewProperties : Parser Unit := do
  if ← keyword "ALGORITHM" then
    expectSymbol .eq
    let _ ← expectAnyKeyword ["UNDEFINED", "MERGE", "TEMPTABLE"]
  if ← keyword "DEFINER" then
    expectSymbol .eq
    granteeName
  if ← keywords ["SQL", "SECURITY"] then
    let _ ← expectAnyKeyword ["DEFINER", "INVOKER"]

/-- The creation of a view. Options of either kind that are not empty replace those in front. -/
def createView : Parser Statement := do
  let _ ← keyword "MATERIALIZED"
  expectKeyword "VIEW"
  if ← inDialect [.bigquery, .sqlite, .generic] then optionalIfNotExists
  let name ← objectNameIn (← inDialect [.bigquery])
  let columns ← viewColumns
  let before ← optionsAfter "WITH"
  if ← keyword "CLUSTER" then
    expectKeyword "BY"
    let _ ← optionalColumnNames
  let behind ← whenList (inDialect [.bigquery, .generic] <&&> keyword "OPTIONS") optionsBody
  let options := if behind.isEmpty then before else behind.flatten
  if ← inDialect [.clickhouse, .generic] <&&> keyword "TO" then
    let _ ← objectName
  if ← inDialect [.snowflake, .generic] <&&> keyword "COMMENT" then
    expectSymbol .eq
    singleQuoted "string literal"
  expectKeyword "AS"
  let rows ← query
  if ← inDialect [.redshift, .generic] then
    let _ ← keywords ["WITH", "NO", "SCHEMA", "BINDING"]
  return .createView name (Part.exprs columns ++ Part.query rows :: Part.exprs options)

/-! ## Objects for a table -/

/-- The creation of an index, behind `INDEX`. -/
def createIndex : Parser Statement := do
  let _ ← keyword "CONCURRENTLY"
  let checked ← keywords ["IF", "NOT", "EXISTS"]
  if checked || !(← seesKeyword "ON") then
    let _ ← objectName
  expectKeyword "ON"
  let table ← objectName
  if ← keyword "USING" then
    let _ ← identifier
  let columns ← parens orderItems
  if ← keyword "INCLUDE" then
    let _ ← columnNames
  if ← keyword "NULLS" then
    let _ ← keyword "NOT"
    expectKeyword "DISTINCT"
  let options ← whenList (supports Dialect.indexesWithOptions <&&> keyword "WITH") (parens exprs)
  let condition ← exprAfter "WHERE"
  return .other (.relation table :: Part.exprs (columns ++ options ++ condition))

/-- The creation of a policy, behind `POLICY`. -/
def createPolicy : Parser Statement := do
  let _ ← identifier
  expectKeyword "ON"
  let table ← objectName
  if ← keyword "AS" then
    let _ ← expectAnyKeyword ["PERMISSIVE", "RESTRICTIVE"]
  if ← keyword "FOR" then
    let _ ← expectAnyKeyword ["ALL", "SELECT", "INSERT", "UPDATE", "DELETE"]
  if ← keyword "TO" then
    let _ ← commaSeparated owner
  let visible ← whenList (keyword "USING") (return [← parenExpr])
  let checked ← whenList (keywords ["WITH", "CHECK"]) (return [← parenExpr])
  return .other (.relation table :: Part.exprs (visible ++ checked))

/-- The creation of a virtual table, behind `VIRTUAL`. -/
def createVirtualTable : Parser Statement := do
  expectKeyword "TABLE"
  optionalIfNotExists
  let name ← objectName
  expectKeyword "USING"
  let _ ← identifier
  let _ ← optionalColumnNames
  return .other [.relation name]

/-! ## Functions and procedures -/

/-- An argument of a function that is defined. -/
def functionParameter : Parser (List Expr) := do
  let _ ← anyKeyword ["IN", "OUT", "INOUT"]
  if (← typeName).kind == .custom then
    let _ ← typeName
  whenList (keyword "DEFAULT" <||> symbol .eq) (return [← expr])

/-- The name of a function, with or without its arguments. -/
def functionDescription : Parser (List Expr) := do
  let _ ← objectName
  whenList (sees .lparen) (return (← parensOrNone functionParameter).flatten)

/-- The text of a function. -/
def functionText : Parser Unit := do
  match (← peek).token with
  | .dollarText _ _ => skip
  | _ =>
    let _ ← literalText

/-- A property of a function that can be given once. -/
inductive FunctionProperty
  | body
  | language
  | behavior
  | nulls
  | parallel
deriving DecidableEq

/-- What a function is made of, as far as it is read. -/
structure FunctionClauses where
  /-- The properties that are given already. -/
  given : List FunctionProperty
  /-- The value that the function returns. -/
  returned : List Expr

/-- Takes a clause of a function. -/
def functionClause (clauses : FunctionClauses) : Parser (Option FunctionClauses) := do
  let giving (property : FunctionProperty) (name : String) (p : Parser (List Expr)) :
      Parser (Option FunctionClauses) := do
    if clauses.given.contains property then failed (name ++ " specified more than once") .none
    return some ⟨property :: clauses.given, clauses.returned ++ (← p)⟩
  let nothing : Parser (List Expr) := return []
  if ← keyword "AS" then
    return ← giving .body "AS" do
      functionText
      nothing
  if ← keyword "LANGUAGE" then
    return ← giving .language "LANGUAGE" do
      let _ ← identifier
      nothing
  if ← keyword "IMMUTABLE" <||> keyword "STABLE" <||> keyword "VOLATILE" then
    return ← giving .behavior "IMMUTABLE | STABLE | VOLATILE" nothing
  if ← keywords ["CALLED", "ON", "NULL", "INPUT"] <||>
      keywords ["RETURNS", "NULL", "ON", "NULL", "INPUT"] <||> keyword "STRICT" then
    return ← giving .nulls "CALLED ON NULL INPUT | RETURNS NULL ON NULL INPUT | STRICT" nothing
  if ← keyword "PARALLEL" then
    return ← giving .parallel "PARALLEL \x7b UNSAFE | RESTRICTED | SAFE \x7d" do
      if (← anyKeyword ["UNSAFE", "RESTRICTED", "SAFE"]).isNone then
        expectedNext "one of UNSAFE | RESTRICTED | SAFE"
      nothing
  if ← keyword "RETURN" then return ← giving .body "RETURN" (return [← expr])
  return none

/-- An argument of a macro. -/
def macroParameter : Parser (List Expr) := do
  let _ ← identifier
  whenList (symbol .assign <||> symbol .rightArrow) (return [← expr])

/-- The creation of a macro, behind its keyword. -/
def createMacro : Parser Statement := do
  let _ ← objectName
  let parameters ← parensOrNone macroParameter
  expectKeyword "AS"
  if ← keyword "TABLE" then return .other (Part.exprs parameters.flatten ++ [.query (← query)])
  return .other (Part.exprs (parameters.flatten ++ [← expr]))

/-- The creation of a function whose clauses stand in any order, behind its keyword. -/
def createFunctionByClauses : Parser Statement := do
  let _ ← objectName
  let parameters ← parensOrNone functionParameter
  if ← keyword "RETURNS" then
    let _ ← typeName
  let clauses ← iterate functionClause ⟨[], []⟩
  return .other (Part.exprs (parameters.flatten ++ clauses.returned))

/-- The creation of a function whose clauses stand in a fixed order, behind its keyword. Options may
stand in front of the body or behind it, but not both. -/
def createFunctionInOrder : Parser Statement := do
  optionalIfNotExists
  let _ ← objectName
  let _ ← parens (commaSeparatedBefore .rparen do
    let _ ← identifier
    typeName)
  if ← keyword "RETURNS" then
    let _ ← typeName
  if !(← keyword "DETERMINISTIC") then
    let _ ← keywords ["NOT", "DETERMINISTIC"]
  if ← keyword "LANGUAGE" then
    let _ ← identifier
  let remote ← when? (keywords ["REMOTE", "WITH", "CONNECTION"]) objectName
  let before ← when? (keyword "OPTIONS") optionsBody
  let body ← if remote.isSome then pure [] else do
    expectKeyword "AS"
    pure [← expr]
  let behind ← if remote.isNone && before.isNone then optionsAfter "OPTIONS" else pure []
  return .other (Part.exprs (body ++ (before.getD []).flatten ++ behind))

/-- The creation of a function, behind its keyword. -/
def createFunction : Parser Statement := do
  match ← dialect with
  | .hive =>
    let _ ← objectName
    expectKeyword "AS"
    let _ ← literalText
    if ← keyword "USING" then
      let _ ← expectAnyKeyword ["JAR", "FILE", "ARCHIVE"]
      let _ ← literalText
    return .other []
  | .postgresql | .generic => createFunctionByClauses
  | .duckdb => createMacro
  | .bigquery => createFunctionInOrder
  | _ =>
    back
    expectedNext "an object type after CREATE"

/-- Statements separated by semicolons, up to the end of the text or the word `END`. -/
def statements : Parser (List Statement) := do
  let (taken, _, _) ← iterate
    (fun (taken, needsDelimiter, closed) => do
      if closed then return none
      let delimiters ← many (when? (symbol .semicolon) (pure ()))
      let needsDelimiter := needsDelimiter && delimiters.isEmpty
      let lexeme ← peek
      if lexeme.token == .eof || (needsDelimiter && lexeme.token.keyword == "END") then
        return some (taken, needsDelimiter, true)
      if needsDelimiter then expected "end of statement" lexeme
      return some ((← Rules.statement) :: taken, true, false))
    (([] : List Statement), false, false)
  return taken.reverse

/-- A parameter of a procedure. -/
def procedureParameter : Parser Unit := do
  let _ ← identifier
  let _ ← typeName

/-- The parameters of a procedure, or nothing. -/
def procedureParameters : Parser Unit := do
  if !(← symbol .lparen) then return ()
  if ← symbol .rparen then return ()
  let _ ← iterate (fun (closed : Bool) => do
      if closed then return none
      if let .word _ := (← peek).token then procedureParameter
      let comma ← symbol .comma
      if ← symbol .rparen then return some true
      if !comma then expectedNext "',' or ')' after parameter definition"
      return some false)
    false

/-- The creation of a procedure, behind its keyword. -/
def createProcedure : Parser Statement := do
  let _ ← objectName
  procedureParameters
  expectKeyword "AS"
  expectKeyword "BEGIN"
  let body ← statements
  expectKeyword "END"
  return .other (body.map Part.statement)

/-- An event that a trigger waits for. -/
def triggerEvent : Parser Unit := do
  if (← expectAnyKeyword ["INSERT", "UPDATE", "DELETE", "TRUNCATE"]) == "UPDATE" then
    if ← keyword "OF" then
      let _ ← commaSeparated identifier

/-- A table of changed rows that a trigger sees. -/
def triggerTable : Parser (Option Unit) := do
  if ← pure (← anyKeyword ["OLD", "NEW"]).isSome <&&> keyword "TABLE" then
    let _ ← keyword "AS"
    let _ ← objectName
    return some ()
  return none

/-- The creation of a trigger, behind its keyword. -/
def createTrigger : Parser Statement := do
  if !(← inDialect [.postgresql, .generic]) then
    back
    expectedNext "an object type after CREATE"
  let _ ← objectName
  if (← expectAnyKeyword ["BEFORE", "AFTER", "INSTEAD"]) == "INSTEAD" then expectKeyword "OF"
  let _ ← manyWhile triggerEvent (keyword "OR")
  expectKeyword "ON"
  let _ ← objectName
  if ← keyword "FROM" then
    let _ ← attempt? (objectNameIn true)
  constraintTimings
  if ← keyword "REFERENCING" then
    let _ ← many triggerTable
  expectKeyword "FOR"
  let _ ← keyword "EACH"
  let _ ← expectAnyKeyword ["ROW", "STATEMENT"]
  let condition ← exprAfter "WHEN"
  expectKeyword "EXECUTE"
  let _ ← expectAnyKeyword ["FUNCTION", "PROCEDURE"]
  return .other (Part.exprs (condition ++ (← functionDescription)))

/-! ## Other objects -/

/-- The creation of a schema, behind its keyword. -/
def createSchema : Parser Statement := do
  optionalIfNotExists
  if !(← seesKeyword "AUTHORIZATION") then
    let _ ← objectName
  if ← keyword "AUTHORIZATION" then
    let _ ← identifier
  return .other []

/-- The creation of a database, behind its keyword. -/
def createDatabase : Parser Statement := do
  optionalIfNotExists
  let _ ← objectName
  let _ ← many (when? (keyword "LOCATION" <||> keyword "MANAGEDLOCATION") literalText)
  return .other []

/-- A property of a role that can be given once. -/
structure RoleProperty where
  /-- Its name in messages. -/
  name : String
  /-- The keywords that give it. -/
  words : List String

/-- The properties of a role that are one of two words. -/
def roleFlags : List RoleProperty :=
  ["LOGIN", "INHERIT", "BYPASSRLS", "CREATEDB", "CREATEROLE", "SUPERUSER", "REPLICATION"].map
    fun word => ⟨word ++ " or NO" ++ word, [word, "NO" ++ word]⟩

/-- The words that begin a property of a role with a value. -/
def roleWords : List String :=
  ["PASSWORD", "CONNECTION", "VALID", "IN", "ROLE", "ADMIN", "USER"]

/-- Takes a property of a role; `given` are the names of those that are given already. -/
def roleProperty (given : List String) : Parser (Option (List String)) := do
  let start := (← peek).position
  let giving (name : String) (p : Parser Unit) : Parser (Option (List String)) := do
    if given.contains name then failed ("Found multiple " ++ name) start
    p
    return some (name :: given)
  let names : Parser Unit := do
    let _ ← commaSeparated identifier
  for flag in roleFlags do
    if (← anyKeyword flag.words).isSome then return ← giving flag.name (pure ())
  match ← anyKeyword roleWords with
  | some "PASSWORD" => giving "PASSWORD" do
    if !(← keyword "NULL") then
      let _ ← value
  | some "CONNECTION" =>
    expectKeyword "LIMIT"
    giving "CONNECTION LIMIT" do
      let _ ← numberValue
  | some "VALID" =>
    expectKeyword "UNTIL"
    giving "VALID UNTIL" do
      let _ ← value
  | some "IN" =>
    match ← anyKeyword ["ROLE", "GROUP"] with
    | some word => giving ("IN " ++ word) names
    | none => expectedNext "ROLE or GROUP after IN"
  | some word => giving word names
  | none => return none

/-- The creation of roles, behind the keyword. -/
def createRole : Parser Statement := do
  optionalIfNotExists
  let _ ← commaSeparated objectName
  let _ ← keyword "WITH"
  match ← dialect with
  | .mssql =>
    let _ ← iterate (fun (given : Bool) => do
        let start := (← peek).position
        if !(← keyword "AUTHORIZATION") then return none
        if given then failed "Found multiple AUTHORIZATION" start
        let _ ← objectName
        return some true)
      false
  | .postgresql =>
    let _ ← iterate roleProperty []
  | _ => pure ()
  return .other []

/-- The creation of a sequence, behind its keyword. -/
def createSequence : Parser Statement := do
  optionalIfNotExists
  let _ ← objectName
  if ← keyword "AS" then
    let _ ← typeName
  sequenceOptions
  if ← keywords ["OWNED", "BY"] then
    if !(← keyword "NONE") then
      let _ ← objectName
  return .other []

/-- The labels of a type that is an enumeration, behind its keyword. -/
def createEnumeration : Parser Statement := do
  if !(← symbol .lparen) then expectedNext "'(' after CREATE TYPE AS ENUM"
  let _ ← commaSeparatedBefore .rparen identifier
  if !(← symbol .rparen) then expectedNext "')' after CREATE TYPE AS ENUM"
  return .other []

/-- The creation of a type, behind its keyword. -/
def createType : Parser Statement := do
  let _ ← objectName
  expectKeyword "AS"
  if !(← symbol .lparen) then return .other []
  if ← symbol .rparen then return .other []
  let _ ← iterate (fun (closed : Bool) => do
      if closed then return none
      procedureParameter
      if ← keyword "COLLATE" then
        let _ ← objectName
      let comma ← symbol .comma
      if ← symbol .rparen then return some true
      if !comma then expectedNext "',' or ')' after attribute definition"
      return some false)
    false
  return .other []

/-- The creation of an extension, behind its keyword. -/
def createExtension : Parser Statement := do
  optionalIfNotExists
  let _ ← identifier
  if ← keyword "WITH" then
    if ← keyword "SCHEMA" then
      let _ ← identifier
    if ← keyword "VERSION" then
      let _ ← identifier
    let _ ← keyword "CASCADE"
  return .other []

/-- The creation of a secret, behind its keyword; `contradictory` says that it would have to be both
temporary and persistent. -/
def createSecret (contradictory : Bool) : Parser Statement := do
  optionalIfNotExists
  if !(← sees .lparen) then
    let stored ← if ← keyword "IN" then pure (← attempt? identifier).isSome else do
      let _ ← attempt? identifier
      pure false
    if ← pure !stored <&&> keyword "IN" then
      let _ ← attempt? identifier
  parens do
    expectKeyword "TYPE"
    let _ ← identifier
    if ← symbol .comma then
      let _ ← commaSeparated do
        let _ ← identifier
        identifier
  if contradictory then expectedNext "TEMPORARY or PERSISTENT"
  return .other []

/-- A statement that creates something, behind `CREATE`. -/
def create : Parser Statement := do
  let replaces ← keywords ["OR", "REPLACE"]
  let _ ← keywords ["OR", "ALTER"]
  let _ ← keyword "LOCAL"
  let _ ← keyword "GLOBAL"
  let _ ← keyword "TRANSIENT"
  let temporary ← anyKeyword ["TEMP", "TEMPORARY"]
  let persistent ← inDialect [.duckdb] <&&> keyword "PERSISTENT"
  viewProperties
  if ← keyword "TABLE" then return ← createTable
  if (← seesAnyKeyword ["MATERIALIZED", "VIEW"]).isSome then return ← createView
  if ← keyword "POLICY" then return ← createPolicy
  if ← keyword "EXTERNAL" then return ← createExternalTable
  if ← keyword "FUNCTION" then return ← createFunction
  if ← keyword "TRIGGER" <||> keywords ["CONSTRAINT", "TRIGGER"] then return ← createTrigger
  if ← keyword "MACRO" then
    if ← inDialect [.duckdb, .generic] then return ← createMacro
    back
    expectedNext "an object type after CREATE"
  if ← keyword "SECRET" then return ← createSecret (temporary.isSome && persistent)
  if replaces then
    expectedNext
      "[EXTERNAL] TABLE or [MATERIALIZED] VIEW or FUNCTION after CREATE OR REPLACE"
  if ← keyword "EXTENSION" then return ← createExtension
  if ← keyword "INDEX" <||> keywords ["UNIQUE", "INDEX"] then return ← createIndex
  if ← keyword "VIRTUAL" then return ← createVirtualTable
  if ← keyword "SCHEMA" then return ← createSchema
  if ← keyword "DATABASE" then return ← createDatabase
  if ← keyword "ROLE" then return ← createRole
  if ← keyword "SEQUENCE" then return ← createSequence
  if ← keyword "TYPE" then return ← createType
  if ← keyword "PROCEDURE" then return ← createProcedure
  expectedNext "an object type after CREATE"

end Parser

end Grammar

end SqlLineage
