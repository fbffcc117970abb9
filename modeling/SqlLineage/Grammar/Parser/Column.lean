import SqlLineage.Grammar.Parser.Change

/-!
# Columns, constraints and options

The definitions between the parentheses of `CREATE TABLE`, and lists of options. Only the
expressions in them are kept: default values, checks, computed columns and the values of options.
-/

namespace SqlLineage

namespace Grammar

namespace Parser

/-! ## Shared clauses -/

/-- What happens to rows that refer to a changed one. -/
def referentialAction : Parser Unit := do
  if ← keyword "RESTRICT" <||> keyword "CASCADE" <||> keywords ["SET", "NULL"] <||>
      keywords ["NO", "ACTION"] <||> keywords ["SET", "DEFAULT"] then return ()
  expectedNext "one of RESTRICT, CASCADE, SET NULL, NO ACTION or SET DEFAULT"

/-- Takes what happens to rows that refer to a deleted or an updated one, once for each. -/
def referenceActions : Parser Unit := do
  let _ ← iterate (fun (deletion, update) => do
      if ← pure !deletion <&&> keywords ["ON", "DELETE"] then
        referentialAction
        return some (true, update)
      if ← pure !update <&&> keywords ["ON", "UPDATE"] then
        referentialAction
        return some (deletion, true)
      return none)
    (false, false)

/-- What is said already about when a constraint is checked. -/
structure ConstraintTiming where
  /-- Whether the check can be put off. -/
  deferrable : Bool
  /-- Whether the check is put off at first. -/
  initially : Bool
  /-- Whether there is a check at all. -/
  enforced : Bool

/-- Takes when a constraint is checked, each property once. -/
def constraintTimings : Parser Unit := do
  let _ ← iterate (fun (said : ConstraintTiming) => do
      if ← pure !said.deferrable <&&>
          (keywords ["NOT", "DEFERRABLE"] <||> keyword "DEFERRABLE") then
        return some { said with deferrable := true }
      if ← pure !said.initially <&&> keyword "INITIALLY" then
        if ← keyword "DEFERRED" <||> keyword "IMMEDIATE" then
          return some { said with initially := true }
        expectedNext "one of DEFERRED or IMMEDIATE"
      if ← pure !said.enforced <&&> (keyword "ENFORCED" <||> keywords ["NOT", "ENFORCED"]) then
        return some { said with enforced := true }
      return none)
    ⟨false, false, false⟩

/-- A reference to another table, behind its keyword. -/
def reference : Parser Unit := do
  let _ ← objectName
  let _ ← optionalColumnNames
  referenceActions
  constraintTimings

/-- A text between single quotes, which is called `what` where it is missing. -/
def singleQuoted (what : String) : Parser Unit := do
  let lexeme ← next
  match lexeme.token with
  | .text .plain _ => return ()
  | _ => expected what lexeme

/-- A comment with or without an equals sign, behind its keyword. -/
def inlineComment : Parser Unit := do
  let _ ← symbol .eq
  singleQuoted "comment"

/-- A name that may be missing. -/
def optionalIdentifier : Parser Unit := do
  let _ ← maybe identifier

/-- The kind of an index, or nothing. -/
def optionalIndexKind : Parser Unit := do
  if ← keyword "USING" then
    if ← keyword "BTREE" <||> keyword "HASH" then return ()
    expectedNext "index type \x7bBTREE | HASH\x7d"

/-- An option of an index. -/
def indexOption : Parser (Option Unit) := do
  if ← seesKeyword "USING" then return some (← optionalIndexKind)
  if ← keyword "COMMENT" then
    let _ ← literalText
    return some ()
  return none

/-- The names and the columns of an index or a key. -/
def keyColumns : Parser Unit := do
  optionalIdentifier
  optionalIndexKind
  let _ ← mandatoryColumnNames
  let _ ← many indexOption
  constraintTimings

/-- Takes the name of a cluster of servers if one is given. -/
def optionalOnCluster : Parser Unit := do
  if ← keywords ["ON", "CLUSTER"] then
    let _ ← identifier

/-- Takes `IF NOT EXISTS` if it is next. -/
def optionalIfNotExists : Parser Unit := do
  let _ ← keywords ["IF", "NOT", "EXISTS"]

/-- Takes `IF EXISTS` if it is next. -/
def optionalIfExists : Parser Unit := do
  let _ ← keywords ["IF", "EXISTS"]

/-- A tag and its value. -/
def tag : Parser Unit := do
  let _ ← identifier
  expectSymbol .eq
  let _ ← literalText

variable [Rules]

/-! ## Options -/

/-- How the rows of a table are partitioned, behind `PARTITION`. -/
def partitionOption : Parser (List Expr) := parens do
  let _ ← identifier
  expectKeyword "RANGE"
  let _ ← anyKeyword ["LEFT", "RIGHT"]
  expectKeywords ["FOR", "VALUES"]
  parens exprs

/-- How the rows of a table are clustered, behind `CLUSTERED`. -/
def clusteredOption : Parser Unit := do
  if ← keywords ["COLUMNSTORE", "INDEX"] then
    if ← keyword "ORDER" then
      let _ ← mandatoryColumnNames
  else if ← keyword "INDEX" then
    let _ ← parens (commaSeparated do
      let _ ← identifier
      optionalDirection)
  else failed "invalid CLUSTERED sequence" .none

/-- An option and its value. -/
def sqlOption : Parser (List Expr) := do
  if ← inDialect [.mssql, .generic] then
    if ← keyword "HEAP" then return []
    if ← keyword "PARTITION" then return ← partitionOption
    if ← keyword "CLUSTERED" then
      clusteredOption
      return []
  let _ ← identifier
  expectSymbol .eq
  return [← expr]

/-- Options between parentheses, none or more, behind their keyword; gives the expressions of
each. -/
def optionsBody : Parser (List (List Expr)) :=
  parens (commaSeparatedBefore .rparen sqlOption)

/-- Options between parentheses, one or more, behind their keywords. -/
def someOptions : Parser (List Expr) :=
  return (← parens (commaSeparated sqlOption)).flatten

/-- The expressions in the options behind a keyword, or nothing. -/
def optionsAfter (word : String) : Parser (List Expr) :=
  whenList (keyword word) (return (← optionsBody).flatten)

/-! ## Columns -/

/-- The options of a sequence of numbers, in the order in which they have to stand. -/
def sequenceOptions : Parser Unit := do
  let limit (word : String) : Parser Unit := do
    if ← keyword word then
      let _ ← signedNumber
    else
      let _ ← keywords ["NO", word]
  if ← keyword "INCREMENT" then
    let _ ← keyword "BY"
    let _ ← signedNumber
  limit "MINVALUE"
  limit "MAXVALUE"
  if ← keyword "START" then
    let _ ← keyword "WITH"
    let _ ← signedNumber
  if ← keyword "CACHE" then
    let _ ← signedNumber
  if !(← keywords ["NO", "CYCLE"]) then
    let _ ← keyword "CYCLE"

/-- The options of a sequence of numbers between parentheses, or nothing. -/
def optionalSequence : Parser Unit := do
  if ← sees .lparen then parens sequenceOptions

/-- How the value of a column is generated, behind `GENERATED`. -/
def generated : Parser (Option (List Expr)) := do
  if ← keywords ["ALWAYS", "AS", "IDENTITY"] <||> keywords ["BY", "DEFAULT", "AS", "IDENTITY"] then
    optionalSequence
    return some []
  if ← keywords ["ALWAYS", "AS"] <&&> sees .lparen then
    let item ← parenExpr
    if ← keyword "STORED" then return some [item]
    if (← dialect) == .postgresql then expectedNext "STORED"
    let _ ← keyword "VIRTUAL"
    return some [item]
  return none

/-- The first value and the step of an identity column between parentheses, if they are given. -/
def optionalIdentityRange : Parser Bool := do
  if !(← symbol .lparen) then return false
  let _ ← signedNumber
  expectSymbol .comma
  let _ ← signedNumber
  expectSymbol .rparen
  return true

/-- The first value, the step and the order of an identity column, as far as they are given. -/
def identityProperty : Parser Unit := do
  if ← notM optionalIdentityRange <&&> keyword "START" then
    let _ ← signedNumber
    expectKeyword "INCREMENT"
    let _ ← signedNumber
  let _ ← anyKeyword ["ORDER", "NOORDER"]

/-- A policy for a column. -/
def columnPolicy : Parser Unit := do
  let _ ← identifier
  if ← keyword "USING" then
    let _ ← columnNames

/-- Takes an option of a column that only snowflake schemas know, if one is next. -/
def snowflakeOption : Parser Bool := do
  let start ← get
  let _ ← keyword "WITH"
  if ← keyword "IDENTITY" <||> keyword "AUTOINCREMENT" then
    identityProperty
    return true
  if ← keywords ["MASKING", "POLICY"] <||> keywords ["PROJECTION", "POLICY"] then
    columnPolicy
    return true
  if ← keyword "TAG" then
    let _ ← parens (commaSeparated tag)
    return true
  set start
  return false

/-- An option of a column, as the expressions in it; nothing if none is next. A keyword that is
followed by a test of the dialect is taken even if the dialect does not know its option. -/
def columnOption : Parser (Option (List Expr)) := do
  let one : Parser (Option (List Expr)) := return some [← expr]
  if ← inDialect [.snowflake] <&&> snowflakeOption then return some []
  if ← keywords ["CHARACTER", "SET"] then
    let _ ← objectName
    return some []
  if ← keywords ["NOT", "NULL"] then return some []
  if ← keyword "COMMENT" then
    singleQuoted "string"
    return some []
  if ← keyword "NULL" then return some []
  if ← keyword "DEFAULT" then return ← one
  let clickhouse := inDialect [.clickhouse, .generic]
  if ← clickhouse <&&> (keyword "MATERIALIZED" <||> keyword "ALIAS") then return ← one
  if ← clickhouse <&&> keyword "EPHEMERAL" then
    if ← sees .comma <||> sees .rparen then return some []
    return ← one
  if ← keywords ["PRIMARY", "KEY"] <||> keyword "UNIQUE" then
    constraintTimings
    return some []
  if ← keyword "REFERENCES" then
    reference
    return some []
  if ← keyword "CHECK" then return some [← parenExpr]
  let mysql := inDialect [.mysql, .generic]
  let sqlite := inDialect [.sqlite, .generic]
  if ← keyword "AUTO_INCREMENT" <&&> mysql then return some []
  if ← keyword "AUTOINCREMENT" <&&> sqlite then return some []
  if ← keyword "ASC" <&&> supports Dialect.ordersColumnDefinitions then return some []
  if ← keyword "DESC" <&&> supports Dialect.ordersColumnDefinitions then return some []
  if ← keywords ["ON", "UPDATE"] <&&> mysql then return ← one
  if ← keyword "GENERATED" then return ← generated
  if ← inDialect [.bigquery, .generic] <&&> keyword "OPTIONS" then
    return some (← optionsBody).flatten
  if ← keyword "AS" <&&> inDialect [.mysql, .sqlite, .duckdb, .generic] then
    let item ← parenExpr
    let _ ← anyKeyword ["STORED", "VIRTUAL"]
    return some [item]
  if ← keyword "IDENTITY" <&&> inDialect [.mssql, .generic] then
    let _ ← optionalIdentityRange
    return some []
  if ← sqlite <&&> keywords ["ON", "CONFLICT"] then
    let _ ← expectAnyKeyword ["ROLLBACK", "ABORT", "FAIL", "IGNORE", "REPLACE"]
    return some []
  return none

/-- One of the options and collations behind the type of a column. -/
def columnClause : Parser (Option (List Expr)) := do
  if ← keyword "CONSTRAINT" then
    let _ ← identifier
    match ← columnOption with
    | some items => return some items
    | none => expectedNext "constraint details after CONSTRAINT <name>"
  match ← columnOption with
  | some items => return some items
  | none =>
    if ← inDialect [.mysql, .snowflake, .generic] <&&> keyword "COLLATE" then
      let _ ← objectName
      return some []
    return none

/-- Whether a column has no type. -/
def lacksType : Parser Bool := do
  if (← dialect) != .sqlite then return false
  match (← peek).token with
  | .word w =>
    return ["CONSTRAINT", "PRIMARY", "NOT", "UNIQUE", "CHECK", "DEFAULT", "COLLATE", "REFERENCES",
      "GENERATED", "AS"].contains w.keyword
  | _ => return true

/-- The definition of a column. -/
def columnRule : Parser ColumnDefinition := do
  let name := (← identifier).spelling
  let type ← if ← lacksType then pure "" else pure (" " ++ (← typeName).spelling)
  let collation ← if ← keyword "COLLATE" then
      pure (" COLLATE " ++ (← objectName).spelling)
    else pure ""
  return ⟨name ++ type ++ collation, (← many columnClause).flatten⟩

/-- A constraint of a table, as the expressions in it; nothing if none is next. -/
def tableConstraint : Parser (Option (List Expr)) := do
  let name ← when? (keyword "CONSTRAINT") identifier
  let named := name.isSome
  let indexed ← inDialect [.generic, .mysql]
  let lexeme ← next
  match lexeme.token.keyword with
  | "UNIQUE" =>
    let display ← anyKeyword ["KEY", "INDEX"]
    if display.isSome && !indexed then
      expectedNext "\x60index_name\x60 or \x60(column_name [, ...])\x60"
    if ← keyword "NULLS" then
      let _ ← keyword "NOT"
      expectKeyword "DISTINCT"
    keyColumns
    return some []
  | "PRIMARY" =>
    expectKeyword "KEY"
    keyColumns
    return some []
  | "FOREIGN" =>
    expectKeyword "KEY"
    let _ ← mandatoryColumnNames
    expectKeyword "REFERENCES"
    reference
    return some []
  | "CHECK" => return some [← parenExpr]
  | word =>
    if indexed && !named && (word == "INDEX" || word == "KEY") then
      if !(← seesKeyword "USING") then optionalIdentifier
      optionalIndexKind
      let _ ← mandatoryColumnNames
      return some []
    if indexed && (word == "FULLTEXT" || word == "SPATIAL") then
      if let some name := name then
        failed ("Expected: FULLTEXT or SPATIAL option without constraint name, found: " ++
          name.spelling) lexeme.position
      let _ ← anyKeyword ["KEY", "INDEX"]
      optionalIdentifier
      let _ ← mandatoryColumnNames
      return some []
    if named then expected "PRIMARY, UNIQUE, FOREIGN, or CHECK" lexeme
    back
    return none

/-- The columns and the constraints of a table. -/
structure TableElements where
  /-- The expressions in the definitions of columns, the last one first. -/
  columns : List Expr
  /-- The expressions in the constraints, the last one first. -/
  constraints : List Expr
  /-- How many columns there are. -/
  width : Nat
  /-- Whether the closing parenthesis is taken. -/
  closed : Bool

/-- Takes one column or constraint and what separates it from the next. -/
def tableElement (elements : TableElements) : Parser (Option TableElements) := do
  if elements.closed then return none
  let elements ← match ← tableConstraint with
    | some items => pure { elements with constraints := items.reverse ++ elements.constraints }
    | none =>
      match (← peek).token with
      | .word _ =>
        let column ← columnRule
        pure { elements with columns := column.items.reverse ++ elements.columns,
                             width := elements.width + 1 }
      | _ => expectedNext "column name or constraint definition"
  let comma ← symbol .comma
  let closes ← sees .rparen
  if !comma && !closes then expectedNext "',' or ')' after column definition"
  if closes && (!comma || (← supports Dialect.allowsTrailingCommas)) then
    skip
    return some { elements with closed := true }
  return some elements

/-- The columns and the constraints of a table between parentheses, or nothing. -/
def tableElements : Parser TableElements := do
  if !(← symbol .lparen) then return ⟨[], [], 0, true⟩
  if ← symbol .rparen then return ⟨[], [], 0, true⟩
  iterate tableElement ⟨[], [], 0, false⟩

/-- The expressions in the columns and the constraints of a table. -/
def TableElements.exprs (elements : TableElements) : List Expr :=
  elements.columns.reverse ++ elements.constraints.reverse

end Parser

end Grammar

end SqlLineage
