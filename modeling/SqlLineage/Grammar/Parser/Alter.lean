import SqlLineage.Grammar.Parser.Create

/-!
# Statements that alter and drop objects

The names of altered and dropped objects are kept, and the expressions that new columns, constraints
and partitions are defined by.
-/

namespace SqlLineage

namespace Grammar

namespace Parser

/-- Takes what happens to dependent objects if it is said. -/
def optionalDropBehavior : Parser Unit := do
  let _ ← anyKeyword ["CASCADE", "RESTRICT"]

/-- Where a new column is put, or nothing. -/
def optionalColumnPosition : Parser Unit := do
  if ← inDialect [.mysql, .generic] then
    if ← keyword "FIRST" then return ()
    if ← keyword "AFTER" then
      let _ ← identifier

/-- What becomes of the rules and triggers of a table. -/
def switchRules (words : String) (lists : List (List String)) : Parser Unit := do
  for list in lists do
    if ← keywords list then
      if list.getLast? != some "SECURITY" then
        let _ ← identifier
      return ()
  expectedNext words

variable [Rules]

/-! ## Altering tables -/

/-- A projection that is added to a table, behind its keyword. -/
def addedProjection : Parser (List Expr) := do
  optionalIfNotExists
  let _ ← identifier
  parens do
    expectKeyword "SELECT"
    let items ← selectItems
    let groups ← optionalGroupBy
    let order ← optionalOrderBy
    return items ++ order ++ groups

/-- What is added to a table, behind `ADD`. -/
def addition : Parser (List Expr) := do
  if let some items ← tableConstraint then return items
  if ← inDialect [.clickhouse, .generic] <&&> keyword "PROJECTION" then return ← addedProjection
  optionalIfNotExists
  let partitions ← many (when? (keyword "PARTITION") (parens exprs))
  if !partitions.isEmpty then return partitions.flatten
  let _ ← keyword "COLUMN"
  if ← inDialect [.postgresql, .bigquery, .duckdb, .generic] then optionalIfNotExists
  let column ← columnRule
  optionalColumnPosition
  return column.items

/-- What is renamed, behind `RENAME`. -/
def columnRenamed : Parser (List Expr) := do
  if ← inDialect [.postgresql] <&&> keyword "CONSTRAINT" then pure ()
  else if ← keyword "TO" then
    let _ ← objectName
    return []
  else
    let _ ← keyword "COLUMN"
  let _ ← identifier
  expectKeyword "TO"
  let _ ← identifier
  return []

/-- What is taken from a table, behind `DROP`. -/
def removal : Parser (List Expr) := do
  if ← keywords ["IF", "EXISTS", "PARTITION"] <||> keyword "PARTITION" then return ← parens exprs
  if ← keyword "CONSTRAINT" then
    optionalIfExists
    let _ ← identifier
    optionalDropBehavior
    return []
  if ← keywords ["PRIMARY", "KEY"] <&&> inDialect [.mysql, .generic] then return []
  if ← keyword "PROJECTION" <&&> inDialect [.clickhouse, .generic] then
    optionalIfExists
    let _ ← identifier
    return []
  if ← keywords ["CLUSTERING", "KEY"] then return []
  let _ ← keyword "COLUMN"
  optionalIfExists
  let _ ← identifier
  optionalDropBehavior
  return []

/-- The new type and options of a column. -/
def columnChange : Parser (List Expr) := do
  let _ ← typeName
  let items ← many columnOption
  optionalColumnPosition
  return items.flatten

/-- What is altered in a column, behind `ALTER`. -/
def columnAlteration : Parser (List Expr) := do
  let _ ← keyword "COLUMN"
  let _ ← identifier
  let postgres ← inDialect [.postgresql]
  if ← keywords ["SET", "NOT", "NULL"] <||> keywords ["DROP", "NOT", "NULL"] then return []
  if ← keywords ["SET", "DEFAULT"] then return [← expr]
  if ← keywords ["DROP", "DEFAULT"] then return []
  if ← keywords ["SET", "DATA", "TYPE"] <||> (pure postgres <&&> keyword "TYPE") then
    let _ ← typeName
    return ← whenList (pure postgres <&&> keyword "USING") (return [← expr])
  if ← keywords ["ADD", "GENERATED"] then
    if !(← keyword "ALWAYS") then
      let _ ← keywords ["BY", "DEFAULT"]
    expectKeywords ["AS", "IDENTITY"]
    optionalSequence
    return []
  expectedNext (if postgres then
    "SET/DROP NOT NULL, SET DEFAULT, SET DATA TYPE, or ADD GENERATED after ALTER COLUMN"
    else "SET/DROP NOT NULL, SET DEFAULT, or SET DATA TYPE after ALTER COLUMN")

/-- A part or a partition of a table. -/
def partOrPartition : Parser (List Expr) := do
  let _ ← expectAnyKeyword ["PART", "PARTITION"]
  return [← expr]

/-- A projection, and the partition of the table that is meant. -/
def projectionPart : Parser Unit := do
  optionalIfExists
  let _ ← identifier
  if ← keywords ["IN", "PARTITION"] then
    let _ ← identifier

/-- One change of the definition of a table. -/
def tableChange : Parser (List Expr) := do
  if ← keyword "ADD" then return ← addition
  if ← keyword "RENAME" then return ← columnRenamed
  if ← keyword "DISABLE" then
    switchRules "ROW LEVEL SECURITY, RULE, or TRIGGER after DISABLE"
      [["ROW", "LEVEL", "SECURITY"], ["RULE"], ["TRIGGER"]]
    return []
  if ← keyword "ENABLE" then
    switchRules "ALWAYS, REPLICA, ROW LEVEL SECURITY, RULE, or TRIGGER after ENABLE"
      [["ALWAYS", "RULE"], ["ALWAYS", "TRIGGER"], ["ROW", "LEVEL", "SECURITY"],
        ["REPLICA", "RULE"], ["REPLICA", "TRIGGER"], ["RULE"], ["TRIGGER"]]
    return []
  let clickhouse := inDialect [.clickhouse, .generic]
  if ← keywords ["CLEAR", "PROJECTION"] <&&> clickhouse then
    projectionPart
    return []
  if ← keywords ["MATERIALIZE", "PROJECTION"] <&&> clickhouse then
    projectionPart
    return []
  if ← keyword "DROP" then return ← removal
  if ← keyword "PARTITION" then
    let before ← parens exprs
    expectKeyword "RENAME"
    expectKeywords ["TO", "PARTITION"]
    return before ++ (← parens exprs)
  if ← keyword "CHANGE" then
    let _ ← keyword "COLUMN"
    let _ ← identifier
    let _ ← identifier
    return ← columnChange
  if ← keyword "MODIFY" then
    let _ ← keyword "COLUMN"
    let _ ← identifier
    return ← columnChange
  if ← keyword "ALTER" then return ← columnAlteration
  if ← keyword "SWAP" then
    expectKeyword "WITH"
    let _ ← objectName
    return []
  if ← inDialect [.postgresql, .generic] <&&> keywords ["OWNER", "TO"] then
    owner
    return []
  if ← clickhouse <&&> (keyword "ATTACH" <||> keyword "DETACH") then return ← partOrPartition
  if ← clickhouse <&&> (keyword "FREEZE" <||> keyword "UNFREEZE") then
    let items ← partOrPartition
    if ← keyword "WITH" then
      expectKeyword "NAME"
      let _ ← identifier
    return items
  if ← keywords ["CLUSTER", "BY"] then return ← parens exprs
  if ← keywords ["SUSPEND", "RECLUSTER"] <||> keywords ["RESUME", "RECLUSTER"] then return []
  if ← keywords ["SET", "TBLPROPERTIES"] then return ← someOptions
  expectedNext "ADD, RENAME, PARTITION, SWAP, DROP, or SET TBLPROPERTIES after ALTER TABLE"

/-- A change of the definition of a table, behind `TABLE`. -/
def alterTable : Parser Statement := do
  optionalIfExists
  let _ ← keyword "ONLY"
  let name ← objectName
  optionalOnCluster
  let changes ← commaSeparated tableChange
  if ← keyword "LOCATION" <||> keywords ["SET", "LOCATION"] then
    let _ ← identifier
  return .alterTable name (Part.exprs changes.flatten)

/-! ## Altering other objects -/

/-- A change of the definition of a view, behind `VIEW`. -/
def alterView : Parser Statement := do
  let name ← objectName
  let _ ← optionalColumnNames
  let options ← optionsAfter "WITH"
  expectKeyword "AS"
  return .other (.relation name :: .query (← query) :: Part.exprs options)

/-- A change of a policy, behind its keyword. -/
def alterPolicy : Parser Statement := do
  let _ ← identifier
  expectKeyword "ON"
  let table ← objectName
  if ← keyword "RENAME" then
    expectKeyword "TO"
    let _ ← identifier
    return .other [.relation table]
  if ← keyword "TO" then
    let _ ← commaSeparated owner
  let visible ← whenList (keyword "USING") (return [← parenExpr])
  let checked ← whenList (keywords ["WITH", "CHECK"]) (return [← parenExpr])
  return .other (.relation table :: Part.exprs (visible ++ checked))

/-- A property of a role that is altered. -/
def alteredProperty : Parser Unit := do
  if (← anyKeyword (roleFlags.flatMap RoleProperty.words)).isSome then return ()
  match ← anyKeyword ["CONNECTION", "PASSWORD", "VALID"] with
  | some "CONNECTION" =>
    expectKeyword "LIMIT"
    let _ ← numberValue
  | some "PASSWORD" =>
    if !(← keyword "NULL") then
      let _ ← value
  | some _ =>
    expectKeyword "UNTIL"
    let _ ← value
  | none => expectedNext "option"

/-- The value of a setting of a role, behind the name of the setting. -/
def roleSetting : Parser (List Expr) := do
  if ← keywords ["FROM", "CURRENT"] then return []
  if ← symbol .eq <||> keyword "TO" then
    if ← keyword "DEFAULT" then return []
    match ← attempt? expr with
    | some item => return [item]
    | none => expectedNext "config value"
  expectedNext "'TO' or '=' or 'FROM CURRENT'"

/-- A change of the members or the name of a role. -/
def alterMembers : Parser Statement := do
  let _ ← identifier
  if ← keywords ["ADD", "MEMBER"] <||> keywords ["DROP", "MEMBER"] then
    let _ ← identifier
  else if ← keywords ["WITH", "NAME"] then
    if !(← symbol .eq) then expectedNext "= after WITH NAME "
    let _ ← identifier
  else expectedNext "'ADD' or 'DROP' or 'WITH NAME'"
  return .other []

/-- A change of the name, the settings or the properties of a role. -/
def alterProperties : Parser Statement := do
  let _ ← identifier
  if ← keywords ["IN", "DATABASE"] then
    let _ ← attempt? objectName
  if ← keyword "RENAME" then
    if !(← keyword "TO") then expectedNext "TO after RENAME"
    let _ ← identifier
    return .other []
  if ← keyword "SET" then
    let _ ← objectName
    return .other (Part.exprs (← roleSetting))
  if ← keyword "RESET" then
    if !(← keyword "ALL") then
      let _ ← objectName
    return .other []
  let _ ← keyword "WITH"
  if (← many (maybe alteredProperty)).isEmpty then expectedNext "option"
  return .other []

/-- A change of a role, behind its keyword. -/
def alterRole : Parser Statement := do
  match ← dialect with
  | .postgresql => alterProperties
  | .mssql => alterMembers
  | _ => failed "ALTER ROLE is only support for PostgreSqlDialect, MsSqlDialect" .none

/-- A statement that alters something, behind `ALTER`. -/
def alter : Parser Statement := do
  match ← expectAnyKeyword ["VIEW", "TABLE", "INDEX", "ROLE", "POLICY"] with
  | "VIEW" => alterView
  | "TABLE" => alterTable
  | "INDEX" =>
    let _ ← objectName
    if !(← keyword "RENAME") then expectedNext "RENAME after ALTER INDEX"
    if !(← keyword "TO") then expectedNext "TO after RENAME"
    let _ ← objectName
    return .other []
  | "ROLE" => alterRole
  | _ => alterPolicy

/-! ## Dropping objects -/

/-- The removal of objects by their names. -/
def dropNames (isRole : Bool) : Parser Statement := do
  optionalIfExists
  let names ← commaSeparated objectName
  let position := (← peek).position
  let cascade ← keyword "CASCADE"
  let restrict ← keyword "RESTRICT"
  let purge ← keyword "PURGE"
  if cascade && restrict then failed "Cannot specify both CASCADE and RESTRICT in DROP" position
  if isRole && (cascade || restrict || purge) then
    failed "Cannot specify CASCADE, RESTRICT, or PURGE in DROP ROLE" position
  return .drop names

/-- A statement that drops something, behind `DROP`. -/
def drop : Parser Statement := do
  let temporary ← inDialect [.mysql, .generic, .duckdb] <&&> keyword "TEMPORARY"
  let persistent ← inDialect [.duckdb] <&&> keyword "PERSISTENT"
  match ← anyKeyword ["TABLE", "VIEW", "INDEX", "ROLE", "SCHEMA", "DATABASE", "SEQUENCE", "STAGE",
      "TYPE", "FUNCTION", "POLICY", "PROCEDURE", "SECRET", "TRIGGER", "EXTENSION"] with
  | some "FUNCTION" | some "PROCEDURE" =>
    optionalIfExists
    let items ← commaSeparated functionDescription
    optionalDropBehavior
    return .other (Part.exprs items.flatten)
  | some "POLICY" =>
    optionalIfExists
    let _ ← identifier
    expectKeyword "ON"
    let table ← objectName
    optionalDropBehavior
    return .other [.relation table]
  | some "SECRET" =>
    optionalIfExists
    let _ ← identifier
    if ← keyword "FROM" then
      let _ ← attempt? identifier
    if temporary && persistent then expectedNext "TEMPORARY or PERSISTENT"
    return .other []
  | some "TRIGGER" =>
    if !(← inDialect [.postgresql, .generic]) then
      back
      expectedNext "an object type after DROP"
    optionalIfExists
    let _ ← objectName
    expectKeyword "ON"
    let _ ← objectName
    optionalDropBehavior
    return .other []
  | some "EXTENSION" =>
    optionalIfExists
    let _ ← commaSeparated identifier
    optionalDropBehavior
    return .other []
  | some word => dropNames (word == "ROLE")
  | none =>
    expectedNext
      ("DATABASE, EXTENSION, FUNCTION, INDEX, POLICY, PROCEDURE, ROLE, SCHEMA, SECRET, " ++
        "SEQUENCE, STAGE, TABLE, TRIGGER, TYPE, or VIEW after DROP")

end Parser

end Grammar

end SqlLineage
