import SqlLineage.Grammar.Parser.Transfer

/-!
# Commands

Statements that are neither queries nor changes of rows or definitions: calls and prepared
statements, transactions, variables, descriptions, privileges and maintenance.
-/

namespace SqlLineage

namespace Grammar

namespace Parser

/-- A statement without parts. -/
def inert : Statement :=
  .other []

/-! ## Transactions -/

/-- The level at which a transaction is isolated. -/
def isolationLevel : Parser Unit := do
  if ← keywords ["READ", "UNCOMMITTED"] <||> keywords ["READ", "COMMITTED"] <||>
      keywords ["REPEATABLE", "READ"] <||> keyword "SERIALIZABLE" <||> keyword "SNAPSHOT" then
    return ()
  expectedNext "isolation level"

/-- One mode of a transaction; `required` says that one has to follow. Gives whether another one
has to follow. -/
def transactionMode (required : Bool) : Parser (Option Bool) := do
  if ← keywords ["ISOLATION", "LEVEL"] then isolationLevel
  else if !(← keywords ["READ", "ONLY"] <||> keywords ["READ", "WRITE"]) then
    if required then expectedNext "transaction mode"
    return none
  return some (← symbol .comma)

/-- The modes of a transaction. -/
def transactionModes : Parser Unit := do
  let _ ← iterate transactionMode false

/-- Whether another transaction follows at once. -/
def optionalChain : Parser Unit := do
  let _ ← anyKeyword ["TRANSACTION", "WORK"]
  if ← keyword "AND" then
    let _ ← keyword "NO"
    expectKeyword "CHAIN"

/-- The beginning of a transaction, behind `BEGIN`. -/
def beginTransaction : Parser Statement := do
  if ← supports Dialect.modifiesTransactions then
    let _ ← anyKeyword ["DEFERRED", "IMMEDIATE", "EXCLUSIVE", "TRY", "CATCH"]
  let _ ← anyKeyword ["TRANSACTION", "WORK"]
  transactionModes
  return inert

/-- The end of a transaction or a block, behind `END`. -/
def endTransaction : Parser Statement := do
  if ← supports Dialect.endsBlocks then
    let _ ← anyKeyword ["TRY", "CATCH"]
  optionalChain
  return inert

/-- The end of a transaction whose changes are undone, behind `ROLLBACK`. -/
def rollback : Parser Statement := do
  optionalChain
  if ← keyword "TO" then
    let _ ← keyword "SAVEPOINT"
    let _ ← identifier
  return inert

/-! ## Names and words -/

/-- A statement that only names something. -/
def naming (p : Parser Unit) : Parser Statement := do
  p
  return inert

/-- A privilege that can be granted. -/
def privilege : Parser Unit := do
  match ← anyKeyword ["CONNECT", "CREATE", "DELETE", "EXECUTE", "INSERT", "REFERENCES", "SELECT",
      "TEMPORARY", "TRIGGER", "TRUNCATE", "UPDATE", "USAGE"] with
  | some word =>
    if ["INSERT", "REFERENCES", "SELECT", "UPDATE"].contains word then
      let _ ← optionalColumnNames
  | none => expectedNext "a privilege keyword"

/-- The privileges that are granted or revoked, and what they are for. -/
def privileges : Parser Unit := do
  if ← keyword "ALL" then
    let _ ← keyword "PRIVILEGES"
  else
    let trailing ← supports Dialect.allowsTrailingCommas
    let _ ← manyWhile privilege (separator trailing ["ON"])
  expectKeyword "ON"
  if ← keywords ["ALL", "TABLES", "IN", "SCHEMA"] <||>
      keywords ["ALL", "SEQUENCES", "IN", "SCHEMA"] then
    let _ ← commaSeparated objectName
  else
    let _ ← anyKeyword ["SEQUENCE", "SCHEMA", "TABLE"]
    let _ ← commaSeparated wildcardName

/-- Takes the words that say what kind of grantee is named next, and gives whether it is everybody;
without such words it is what it was `before`. -/
def granteeKind (before : Bool) : Parser Bool := do
  if (← anyKeyword ["ROLE", "USER", "SHARE", "GROUP"]).isSome then return false
  if ← keyword "PUBLIC" then return true
  if ← keywords ["DATABASE", "ROLE"] <||> keywords ["APPLICATION", "ROLE"] <||>
      keyword "APPLICATION" then return false
  return before

/-- Who privileges are granted to; everybody has no name. -/
def grantees : Parser Unit := do
  let _ ← iterate (fun (everybody, closed) => do
      if closed then return none
      let everybody ← granteeKind everybody
      if !everybody then
        granteeName
        if ← symbol .colon then
          let _ ← identifier
      return some (everybody, !(← symbol .comma)))
    (false, false)

/-- The granting of privileges, behind its keyword. -/
def grant : Parser Statement := do
  privileges
  expectKeyword "TO"
  grantees
  let _ ← keywords ["WITH", "GRANT", "OPTION"]
  if ← keywords ["GRANTED", "BY"] then
    let _ ← identifier
  return inert

/-- The revocation of privileges, behind its keyword. -/
def revoke : Parser Statement := do
  privileges
  expectKeyword "FROM"
  grantees
  if ← keywords ["GRANTED", "BY"] then
    let _ ← identifier
  optionalDropBehavior
  return inert

/-- The comment on an object, behind `COMMENT`. -/
def comment : Parser Statement := do
  optionalIfExists
  expectKeyword "ON"
  let lexeme ← next
  let commented := ["COLUMN", "TABLE", "EXTENSION", "SCHEMA", "DATABASE", "USER", "ROLE"]
  if !commented.contains lexeme.token.keyword then expected "comment object_type" lexeme
  let _ ← objectName
  expectKeyword "IS"
  if !(← keyword "NULL") then
    let _ ← literalText
  return inert

/-- The tables that are locked, behind `LOCK TABLES`. -/
def lockTables : Parser Statement := do
  let _ ← commaSeparated do
    let _ ← identifier
    let _ ← aliasExcept ["READ", "WRITE", "LOW_PRIORITY"]
    if ← keyword "READ" then
      let _ ← keyword "LOCAL"
    else if ← keyword "WRITE" then pure ()
    else if ← keywords ["LOW_PRIORITY", "WRITE"] then pure ()
    else expectedNext "an lock type in LOCK TABLES"
  return inert

/-- A value of a setting of the engine. -/
def pragmaValue : Parser Unit := do
  match ← value with
  | .text | .number | .placeholder => return ()
  | _ =>
    back
    expectedNext "number or string or ? placeholder"

/-- A setting of the engine, behind `PRAGMA`. -/
def pragma : Parser Statement := do
  let _ ← objectName
  if ← sees .lparen then parens pragmaValue
  else if ← symbol .eq then pragmaValue
  return inert

/-- The choice of a database, behind `USE`. -/
def useStatement : Parser Statement := do
  match ← dialect with
  | .hive => if ← keyword "DEFAULT" then return inert
  | .databricks =>
    let _ ← anyKeyword ["CATALOG", "DATABASE", "SCHEMA"]
  | .snowflake =>
    match ← anyKeyword ["DATABASE", "SCHEMA", "WAREHOUSE", "ROLE", "SECONDARY"] with
    | some "SECONDARY" =>
      let _ ← expectAnyKeyword ["ROLES", "ROLE"]
      if !(← keyword "ALL" <||> keyword "NONE") then
        let _ ← commaSeparated identifier
      return inert
    | _ => pure ()
  | _ => pure ()
  let _ ← objectName
  return inert

/-- Which rows are fetched from a cursor. -/
def fetchDirection : Parser Unit := do
  match ← anyKeyword ["NEXT", "PRIOR", "FIRST", "LAST", "ALL", "ABSOLUTE", "RELATIVE", "FORWARD",
      "BACKWARD"] with
  | some "FORWARD" | some "BACKWARD" =>
    if !(← keyword "ALL") then
      let _ ← numberValue
  | some "ABSOLUTE" | some "RELATIVE" | none =>
    let _ ← numberValue
  | some _ => return ()

/-- How rows are fetched from a cursor, behind `FETCH`. -/
def fetchCursor : Parser Statement := do
  fetchDirection
  let _ ← expectAnyKeyword ["FROM", "IN"]
  let _ ← identifier
  if ← keyword "INTO" then
    let _ ← objectName
  return inert

/-- A statement that discards what a session holds, behind `DISCARD`. -/
def discard : Parser Statement := do
  if ← keyword "ALL" <||> keyword "PLANS" <||> keyword "SEQUENCES" <||> keyword "TEMP" <||>
      keyword "TEMPORARY" then return inert
  expectedNext "ALL, PLANS, SEQUENCES, TEMP or TEMPORARY after DISCARD"

/-- A statement that stops a connection or a query, behind `KILL`. -/
def kill : Parser Statement := do
  let stopped ← anyKeyword ["CONNECTION", "QUERY", "MUTATION"]
  let _ ← literalWord
  if ← pure (stopped == some "MUTATION") <&&> notM (inDialect [.clickhouse, .generic]) then
    expectedNext "Unsupported type for KILL, allowed: CONNECTION | QUERY"
  return inert

/-- Takes a word about the tables that are flushed, with what belongs to it; any other token ends the
list and is taken as well. -/
def flushedTables (closed : Bool) : Parser (Option Bool) := do
  if closed then return none
  match (← next).token with
  | .word w =>
    match w.keyword with
    | "WITH" =>
      let _ ← keywords ["READ", "LOCK"]
    | "FOR" =>
      let _ ← keyword "EXPORT"
    | word =>
      if !isKeyword word then
        back
        let _ ← commaSeparated objectName
    return some false
  | _ => return some true

/-- A statement that flushes logs or tables, behind `FLUSH`. -/
def flush : Parser Statement := do
  if !(← inDialect [.mysql, .generic]) then
    failed "Unsupported statement FLUSH" (← peek).position
  let _ ← anyKeyword ["NO_WRITE_TO_BINLOG", "LOCAL"]
  for kind in ["BINARY", "ENGINE", "ERROR", "GENERAL", "SLOW"] do
    if ← keywords [kind, "LOGS"] then return inert
  if (← anyKeyword ["HOSTS", "PRIVILEGES", "OPTIMIZER_COSTS", "STATUS", "USER_RESOURCES",
      "LOGS"]).isSome then return inert
  if ← keywords ["RELAY", "LOGS"] then
    if ← keywords ["FOR", "CHANNEL"] then
      let _ ← objectName
    return inert
  if ← keyword "TABLES" then
    let _ ← iterate flushedTables false
    return inert
  expectedNext
    ("BINARY LOGS, ENGINE LOGS, ERROR LOGS, GENERAL LOGS, HOSTS, LOGS, PRIVILEGES, " ++
      "OPTIMIZER_COSTS,RELAY LOGS [FOR CHANNEL channel], SLOW LOGS, STATUS, USER_RESOURCES")

/-- A repair of the catalogue of a table, behind `MSCK`. -/
def repair : Parser Statement := do
  let _ ← keyword "REPAIR"
  expectKeyword "TABLE"
  let table ← objectName
  let _ ← maybe do
    let _ ← anyKeyword ["ADD", "DROP", "SYNC"]
    expectKeyword "PARTITIONS"
  return .other [.relation table]

/-- Tables that are renamed, behind `RENAME`. -/
def renameTables : Parser Statement := do
  if !(← keyword "TABLE") then expectedNext "KEYWORD \x60TABLE\x60 after RENAME"
  let names ← commaSeparated do
    let old ← objectName
    expectKeyword "TO"
    return [Part.relation old, Part.relation (← objectName)]
  return .other names.flatten

/-- Whether an attached database can only be read, or its kind. -/
def attachOption : Parser Unit := do
  if ← keyword "READ_ONLY" then
    let _ ← anyKeyword ["TRUE", "FALSE"]
  else if ← keyword "TYPE" then
    let _ ← identifier
  else expectedNext "expected one of: ), READ_ONLY, TYPE"

/-- A database that is attached from a file that is named without an expression, behind `ATTACH`. -/
def attachFile : Parser Statement := do
  let _ ← keyword "DATABASE"
  optionalIfNotExists
  let _ ← identifier
  if ← keyword "AS" then
    let _ ← identifier
  if ← symbol .lparen then
    let _ ← manyWhile attachOption (symbol .comma)
    if !(← symbol .rparen) then expectedNext "expected one of: ')', ','"
  return inert

/-- A database that is detached, behind `DETACH`. -/
def detach : Parser Statement := do
  let _ ← keyword "DATABASE"
  optionalIfExists
  let _ ← identifier
  return inert

/-- A channel that is no longer listened to, behind `UNLISTEN`. -/
def unlisten : Parser Statement := do
  if !(← symbol .star) then
    let lexeme ← next
    if (ident? lexeme.token).isNone then expected "wildcard or identifier" lexeme
  return inert

variable [Rules]

/-! ## Calls and prepared statements -/

/-- The call of a procedure, behind `CALL`. -/
def call : Parser Statement := do
  let name ← objectName
  if !(← sees .lparen) then return .call name .none .none []
  match ← callOf name with
  | .call name parameters args clauses => return .call name parameters args clauses
  | _ => return inert

/-- The execution of a procedure or a prepared statement, behind its keyword. -/
def execute : Parser Statement := do
  let name ← objectName
  let enclosed ← symbol .lparen
  let following := (← peek).token
  let ends := following == .eof || following.keyword == "USING"
  let args ← if enclosed then commaSeparatedBefore .rparen expr
    else if ends then pure []
    else commaSeparatedBefore .semicolon expr
  if enclosed then expectSymbol .rparen
  let bound ← whenList (keyword "USING") (manyWhile expr (symbol .comma))
  return .execute name args bound

/-- A prepared statement, behind `PREPARE`. -/
def prepare : Parser Statement := do
  let _ ← identifier
  if ← sees .lparen then
    let _ ← parens (commaSeparated typeName)
  expectKeyword "AS"
  return .other [.statement (← Rules.statement)]

/-! ## Variables -/

/-- A value of a variable. -/
def variableValue : Parser Expr := do
  if ← seesQuery then return .query (← query)
  match ← attempt? expr with
  | some item => return item
  | none => expectedNext "variable value"

/-- The role of a session, behind `SET` and the modifier. -/
def setRole : Parser Unit := do
  expectKeyword "ROLE"
  if !(← keyword "NONE") then
    let _ ← identifier

/-- The state of a parameter of a session that is on or off. -/
def expectSwitch : Parser Unit := do
  if (← anyKeyword ["ON", "OFF"]).isNone then expectedNext "ON or OFF"

/-- A word, which is called `what` where it is missing. -/
def anyWord (what : String) : Parser Unit := do
  let lexeme ← next
  match lexeme.token with
  | .word _ => return ()
  | _ => expected what lexeme

/-- A parameter of a session that is set without an operator. Its value is only kept as a text, so
nothing in it counts. -/
def setSessionParameter : Parser Statement := do
  if ← keyword "STATISTICS" then
    if (← anyKeyword ["IO", "PROFILE", "TIME", "XML"]).isNone then
      expectedNext "IO, PROFILE, TIME or XML"
    expectSwitch
    return inert
  if ← keyword "IDENTITY_INSERT" then
    let table ← objectName
    expectSwitch
    return .other [.relation table]
  if ← keyword "OFFSETS" then
    let _ ← commaSeparated (anyWord "SQL keyword")
    expectSwitch
    return inert
  let _ ← commaSeparated (anyWord "Session param name")
  let _ ← expr
  return inert

/-- The character set of a session, behind `SET NAMES`. -/
def setNames : Parser Statement := do
  if ← keyword "DEFAULT" then return inert
  let _ ← literalText
  if ← keyword "COLLATE" then
    let _ ← literalText
  return inert

/-- The properties of a transaction, behind `SET TRANSACTION`. -/
def setTransaction : Parser Statement := do
  if ← keyword "SNAPSHOT" then
    let _ ← value
  else transactionModes
  return inert

/-- A variable that is set without an operator; `name` is its name as it is written. -/
def setPlainly (name : String) (modified : Bool) : Parser Statement := do
  if Text.eqIgnoreAsciiCase name "TIMEZONE" then
    match ← attempt? expr with
    | some item => return .other (Part.exprs [item])
    | none => expectedNext "timezone value"
  if name == "CHARACTERISTICS" then
    expectKeywords ["AS", "TRANSACTION"]
    transactionModes
    return inert
  if name == "TRANSACTION" && !modified then return ← setTransaction
  if ← supports Dialect.setsWithoutOperator then
    back
    return ← setSessionParameter
  expectedNext "equals sign or TO"

/-- A variable that is set, behind `SET`. -/
def setStatement : Parser Statement := do
  let modifier ← anyKeyword ["SESSION", "LOCAL", "HIVEVAR"]
  if modifier == some "HIVEVAR" then expectSymbol .colon
  else if (← maybe setRole).isSome then return inert
  let zone ← keywords ["TIME", "ZONE"]
  let several ← pure !zone <&&> supports Dialect.setsTuples <&&> sees .lparen
  let name ← if zone then pure "TIMEZONE"
    else if several then do
      let _ ← columnNames
      pure ""
    else pure (← objectName).spelling
  if ← pure (Text.eqIgnoreAsciiCase name "NAMES") <&&> inDialect [.mysql, .generic] then
    return ← setNames
  if ← symbol .eq <||> keyword "TO" then
    let values := manyWhile variableValue (symbol .comma)
    return .other (Part.exprs (← if several then parens values else values))
  if several then expectedNext "set variable"
  setPlainly name modifier.isSome

/-- A variable of a procedure that is declared. -/
def declaredVariable : Parser (List Expr) := do
  let name ← identifier
  if !name.value.startsWith "@" then
    failed "Invalid MsSql variable declaration." .none
  if !(← keyword "CURSOR") then
    let _ ← keyword "AS"
    let _ ← typeName
  whenList (symbol .eq) (return [← expr])

/-- A cursor that is declared. -/
def declaredCursor : Parser Statement := do
  let _ ← identifier
  let _ ← keyword "BINARY"
  let _ ← anyKeyword ["INSENSITIVE", "ASENSITIVE"]
  if !(← keyword "SCROLL") then
    let _ ← keywords ["NO", "SCROLL"]
  expectKeyword "CURSOR"
  if (← anyKeyword ["WITH", "WITHOUT"]).isSome then expectKeyword "HOLD"
  expectKeyword "FOR"
  return .other [.query (← query)]

/-- Variables of one type that are declared. -/
def declaredNames : Parser Statement := do
  let _ ← commaSeparated identifier
  if ← keyword "DEFAULT" then return .other (Part.exprs [← expr])
  let _ ← typeName
  return .other (Part.exprs (← exprAfter "DEFAULT"))

/-- The first value of what is declared, or nothing. -/
def declaredValue : Parser (List Expr) :=
  whenList (keyword "DEFAULT" <||> symbol .assign) (return [← expr])

/-- A variable, a cursor, a set of results or an exception that is declared. -/
def declaredItem : Parser (List Part) := do
  let _ ← identifier
  if ← keyword "CURSOR" then
    expectKeyword "FOR"
    if ← seesKeyword "SELECT" then return [.query (← query)]
    return [.expr (← expr)]
  if ← keyword "RESULTSET" then return Part.exprs (← declaredValue)
  if ← keyword "EXCEPTION" then
    return Part.exprs (← whenList (sees .lparen) (return [← expr]))
  let value ← declaredValue
  if !value.isEmpty then return Part.exprs value
  match (← peek).token with
  | .word _ =>
    let _ ← typeName
    return Part.exprs (← declaredValue)
  | _ => return []

/-- Whether another declaration follows behind a semicolon: one begins with a word that is no
keyword. -/
def anotherDeclared : Parser Bool := do
  if !(← sees .semicolon) then return false
  match (← peekAt 1).token with
  | .word w =>
    if isKeyword (Text.upperAscii w.text) then return false
    skip
    return true
  | _ => return false

/-- A declaration, behind `DECLARE`. -/
def declare : Parser Statement := do
  match ← dialect with
  | .mssql => return .other (Part.exprs (← commaSeparated declaredVariable).flatten)
  | .bigquery => declaredNames
  | .snowflake => return .other (← manyWhile declaredItem anotherDeclared).flatten
  | _ => declaredCursor

/-! ## Descriptions -/

/-- An option of a description. -/
def utilityOption : Parser (List Expr) := do
  let _ ← identifier
  if ← sees .comma <||> sees .rparen then return []
  return [← expr]

/-- Whether a statement describes another one. -/
def isExplain : Statement → Bool
  | .explain _ => true
  | _ => false

/-- The description of a statement or a table, behind its keyword. -/
def explain (described : Bool) : Parser Statement := do
  let options ←
    if ← pure !described <&&> supports Dialect.explainsWithOptions <&&> sees .lparen then
      pure (← parens (commaSeparated utilityOption)).flatten
    else
      if ← keywords ["QUERY", "PLAN"] then pure []
      else if ← keyword "ESTIMATE" then pure []
      else
        let _ ← keyword "ANALYZE"
        let _ ← keyword "VERBOSE"
        if ← keyword "FORMAT" then
          let lexeme ← next
          if !(["TEXT", "GRAPHVIZ", "JSON"].contains lexeme.token.keyword) then
            expected "fileformat" lexeme
        pure []
  match ← maybe Rules.statement with
  | some inner =>
    if isExplain inner then failed "Explain must be root of the plan" .none
    return .explain (.statement inner :: Part.exprs options)
  | none =>
    let _ ← anyKeyword ["EXTENDED", "FORMATTED"]
    if ← supports Dialect.describesWithTable then
      let _ ← keyword "TABLE"
    return .explain [.relation (← objectName)]

/-- The filter of what is shown, or nothing. -/
def optionalShowFilter : Parser (List Expr) := do
  if ← keyword "LIKE" <||> keyword "ILIKE" then
    let _ ← literalText
    return []
  if ← keyword "WHERE" then return [← expr]
  let _ ← maybe literalText
  return []

/-- The object whose parts are shown, or nothing. -/
def optionalShowParent : Parser (List Part) := do
  if (← anyKeyword ["FROM", "IN"]).isNone then return []
  match ← anyKeyword ["ACCOUNT", "DATABASE", "SCHEMA", "TABLE", "VIEW"] with
  | some word =>
    let ends ← seesKeywords ["STARTS", "WITH"] <||> seesKeyword "LIMIT"
    if (word == "DATABASE" || word == "SCHEMA") && ends then return []
    return ((← attempt? objectName).map Part.relation).toList
  | none =>
    let name ← objectName
    if (← anyKeyword ["FROM", "IN"]).isSome then
      return [.relation ((← identifier) :: name)]
    return [.relation name]

/-- What is shown of a kind of objects. -/
def showObjects : Parser Statement := do
  let early ← supports Dialect.showsLikeFirst
  let before ← if early then optionalShowFilter else pure []
  let parent ← optionalShowParent
  let behind ← if early then pure [] else optionalShowFilter
  if ← keywords ["STARTS", "WITH"] then
    let _ ← value
  let limit ← optionalLimit
  if ← keyword "FROM" then
    let _ ← value
  return .other (parent ++ Part.exprs (limit ++ before ++ behind))

/-- A filter of what is shown, as a statement. -/
def showFiltered : Parser Statement := do
  return .other (Part.exprs (← optionalShowFilter))

/-- What is shown, behind `SHOW`. -/
def showStatement : Parser Statement := do
  let _ ← keyword "TERSE"
  let extended ← keyword "EXTENDED"
  let full ← keyword "FULL"
  let _ ← keyword "SESSION"
  let _ ← keyword "GLOBAL"
  let _ ← keyword "EXTERNAL"
  if (← anyKeyword ["COLUMNS", "FIELDS", "TABLES"]).isSome then return ← showObjects
  if ← keywords ["MATERIALIZED", "VIEWS"] <||> keyword "VIEWS" then return ← showObjects
  if ← keyword "FUNCTIONS" then return ← showFiltered
  if extended || full then
    failed "EXTENDED/FULL are not supported with this type of SHOW query" .none
  if ← keyword "CREATE" then
    let _ ← expectAnyKeyword ["TABLE", "TRIGGER", "FUNCTION", "PROCEDURE", "EVENT", "VIEW"]
    let _ ← objectName
    return inert
  if ← keyword "COLLATION" then return ← showFiltered
  let filtered := inDialect [.mysql, .generic]
  if ← keyword "VARIABLES" <&&> filtered then return ← showFiltered
  if ← keyword "STATUS" <&&> filtered then return ← showFiltered
  if ← keyword "DATABASES" <||> keyword "SCHEMAS" then return ← showObjects
  let _ ← many do
    let token := (← peek).token
    if token == .eof || token == .symbol .eq then return none
    skip
    return some ()
  return inert

/-! ## Maintenance -/

/-- The removal of all rows of tables, behind `TRUNCATE`. -/
def truncate : Parser Statement := do
  let _ ← keyword "TABLE"
  let _ ← keyword "ONLY"
  let names ← commaSeparated objectName
  let partitions ← whenList (keyword "PARTITION") (parens exprs)
  if ← inDialect [.postgresql, .generic] then
    if !(← keywords ["RESTART", "IDENTITY"]) then
      let _ ← keywords ["CONTINUE", "IDENTITY"]
    optionalDropBehavior
  optionalOnCluster
  return .other (names.map Part.relation ++ Part.exprs partitions)

/-- Takes a clause of an analysis. Of several partitions the last one counts. -/
def analyzeClause (partition : List Expr) : Parser (Option (List Expr)) := do
  match ← anyKeyword ["PARTITION", "FOR", "CACHE", "NOSCAN", "COMPUTE"] with
  | some "PARTITION" => return some (← parens exprs)
  | some "FOR" =>
    expectKeyword "COLUMNS"
    let _ ← maybe (commaSeparated identifier)
    return some partition
  | some "CACHE" =>
    expectKeyword "METADATA"
    return some partition
  | some "COMPUTE" =>
    expectKeyword "STATISTICS"
    return some partition
  | some _ => return some partition
  | none => return none

/-- The analysis of a table, behind `ANALYZE`. -/
def analyze : Parser Statement := do
  let _ ← keyword "TABLE"
  let table ← objectName
  return .other (.relation table :: Part.exprs (← iterate analyzeClause []))

/-- The rows of a table that is kept in memory, up to the end of the text. -/
def cachedRows : Parser (List Part) := do
  match (← peek).token with
  | .eof => return []
  | .word _ =>
    let _ ← keyword "AS"
    return [.query (← query)]
  | _ => expectedNext "a QUERY statement"

/-- A table that is kept in memory, behind `CACHE`. -/
def cacheTable : Parser Statement := do
  if !(← keyword "TABLE") then
    let _ ← objectName
    if !(← keyword "TABLE") then
      if (← peek).token == .eof then back
      expectedNext "a \x60TABLE\x60 keyword"
  let table ← objectName
  let options ← optionsAfter "OPTIONS"
  let rows ← cachedRows
  return .other (.relation table :: Part.exprs options ++ rows)

/-- A table that is no longer kept in memory, behind `UNCACHE`. -/
def uncacheTable : Parser Statement := do
  if !(← keyword "TABLE") then expectedNext "a \x60TABLE\x60 keyword"
  optionalIfExists
  return .other [.relation (← objectName)]

/-- A condition that has to hold, behind `ASSERT`. -/
def assert : Parser Statement := do
  let condition ← expr
  let message ← exprAfter "AS"
  return .other (Part.exprs (condition :: message))

/-- An error that is raised, behind `RAISERROR`. -/
def raiseError : Parser Statement := do
  let (first, others) ← parens do
    let first ← expr
    expectSymbol .comma
    let severity ← expr
    expectSymbol .comma
    let state ← expr
    return (first, severity :: state :: (← whenList (symbol .comma) exprs))
  if ← keyword "WITH" then
    let _ ← commaSeparated (expectAnyKeyword ["LOG", "NOWAIT", "SETERROR"])
  return .other (Part.exprs (first :: others))

/-- A table whose parts are merged, behind `OPTIMIZE`. -/
def optimize : Parser Statement := do
  expectKeyword "TABLE"
  let _ ← objectName
  optionalOnCluster
  let items ← whenList (keyword "PARTITION") do
    if ← keyword "ID" then
      let _ ← identifier
      return []
    return [← expr]
  let _ ← keyword "FINAL"
  let more ← whenList (keyword "DEDUPLICATE") (exprAfter "BY")
  return .other (Part.exprs (items ++ more))

/-- A database that is attached, behind `ATTACH`. -/
def attach : Parser Statement := do
  if (← dialect) == .duckdb then return ← attachFile
  let _ ← keyword "DATABASE"
  let file ← expr
  expectKeyword "AS"
  let _ ← identifier
  return .other (Part.exprs [file])

/-- A channel that is notified, behind `NOTIFY`. -/
def notify : Parser Statement := do
  let _ ← identifier
  if ← symbol .comma then
    let _ ← literalText
  return inert

end Parser

end Grammar

end SqlLineage
