import SqlLineage.Grammar.Parser.Table

/-!
# Queries

A query is a body between the common table expressions in front of it and the order and the limits
behind it. The body is a selection, rows, a query in parentheses or a statement, and bodies are
combined by set operators, of which `INTERSECT` binds most tightly.
-/

namespace SqlLineage

namespace Grammar

namespace Parser

variable [Rules]

/-! ## Projections -/

/-- A name, and the name that replaces it. -/
def renamedColumn : Parser Unit := do
  let _ ← identifier
  expectKeyword "AS"
  let _ ← identifier

/-- The value of a column that a star would give otherwise. -/
def replacedColumn : Parser Expr := do
  let item ← expr
  let _ ← keyword "AS"
  let _ ← identifier
  return item

/-- What a star leaves out, replaces and renames. -/
def wildcardOptions : Parser (List Expr) := do
  let dialect ← dialect
  let within := fun (dialects : List Dialect) => (pure (dialects.contains dialect) : Parser Bool)
  let liked ← within [.generic, .snowflake] <&&> keyword "ILIKE"
  if liked then
    let lexeme ← next
    match lexeme.token with
    | .text .plain _ => pure ()
    | _ => expected "ilike pattern" lexeme
  if ← pure !liked <&&> within [.generic, .duckdb, .snowflake] <&&> keyword "EXCLUDE" then
    if ← sees .lparen then
      let _ ← columnNames
    else
      let _ ← identifier
  if ← pure dialect.wildcardExcept <&&> keyword "EXCEPT" then
    if ← sees .lparen then
      let _ ← mandatoryColumnNames
    else
      let _ ← identifier
  let replaced ← whenList
    (within [.generic, .bigquery, .clickhouse, .duckdb, .snowflake] <&&> keyword "REPLACE") do
      if ← sees .lparen then parens (commaSeparated replacedColumn)
      else expected "( after REPLACE but" (← next)
  if ← within [.generic, .snowflake] <&&> keyword "RENAME" then
    if ← sees .lparen then
      let _ ← parens (commaSeparated renamedColumn)
    else renamedColumn
  return replaced

/-- One item of a projection. -/
def selectItem : Parser (List Expr) := do
  match ← wildcardOrExpr with
  | .wildcard _ => wildcardOptions
  | item =>
    if let .name [part] := item then
      if part.quote.isNone && Text.lower part.value == "from" then
        failed ("Expected an expression, found: " ++ part.value) (← peek).position
    if let .equality (.name [_]) right := item then
      if ← supports Dialect.aliasesByEq then return [right]
    let _ ← columnAlias
    return [item]

/-- The items of a projection. -/
def selectItems : Parser (List Expr) := do
  let dialect ← dialect
  let trailing := dialect.allowsTrailingCommas || dialect.allowsTrailingProjectionComma
  return (← commaSeparatedWith trailing selectItem).flatten

/-! ## Clauses of a selection -/

/-- The number of rows to keep, behind `TOP`. -/
def topRows : Parser (List Expr) := do
  let count ←
    if ← symbol .lparen then
      let count ← expr
      expectSymbol .rparen
      pure [count]
    else
      let _ ← literalWord
      pure []
  let _ ← keyword "PERCENT"
  let _ ← keywords ["WITH", "TIES"]
  return count

/-- The treatment of duplicates, or nothing. -/
def optionalDistinct : Parser (List Expr) := do
  let position := (← peek).position
  let all ← keyword "ALL"
  if !(← keyword "DISTINCT") then return []
  if all then failed "Cannot specify both ALL and DISTINCT" position
  if !(← keyword "ON") then return []
  if ← symbols [.lparen, .rparen] then return []
  parens exprs

/-- The table that the rows are put into, or nothing. -/
def optionalInto : Parser Unit := do
  if ← keyword "INTO" then
    let _ ← anyKeyword ["TEMP", "TEMPORARY"]
    let _ ← keyword "UNLOGGED"
    let _ ← keyword "TABLE"
    let _ ← objectName

/-- The tables of `FROM`. -/
def fromTables : Parser (List TableJoins) := do
  let trailing ← supports Dialect.allowsTrailingFromComma
  manyWhile tablesRule (separator trailing tableReserved)

/-- Rows made from a value of each row, or nothing. -/
def lateralView : Parser (Option Expr) := do
  if !(← keywords ["LATERAL", "VIEW"]) then return none
  let _ ← keyword "OUTER"
  let item ← expr
  let _ ← objectName
  let _ ← commaSeparated (aliasExcept ["WHERE", "GROUP", "CLUSTER", "HAVING", "LATERAL"])
  return some item

/-- Expressions between parentheses, possibly none. -/
def exprTuple : Parser (List Expr) := do
  if ← symbols [.lparen, .rparen] then return []
  parens exprs

/-- An expression, or expressions between parentheses. -/
def liftedTuple : Parser (List Expr) := do
  if ← sees .lparen then exprTuple
  else return [← expr]

/-- One item to group by. -/
def groupItem : Parser Expr := do
  if !(← supports Dialect.groupsByExpression) then return ← expr
  if ← keywords ["GROUPING", "SETS"] then
    return .operation (← parens (commaSeparated exprTuple)).flatten
  if (← anyKeyword ["CUBE", "ROLLUP"]).isSome then
    return .operation (← parens (commaSeparated liftedTuple)).flatten
  if ← symbols [.lparen, .rparen] then return .tuple []
  expr

/-- What the rows are grouped by, or nothing. -/
def optionalGroupBy : Parser (List Expr) := do
  if !(← keywords ["GROUP", "BY"]) then return []
  let items ← if ← keyword "ALL" then pure [] else commaSeparated groupItem
  if ← supports Dialect.groupsWithModifier then
    let _ ← many (when? (keyword "WITH") (expectAnyKeyword ["ROLLUP", "CUBE", "TOTALS"]))
  return items

/-- A window with a name. -/
def namedWindow : Parser (List Expr) := do
  let _ ← identifier
  expectKeyword "AS"
  if ← symbol .lparen then windowSpec
  else if ← supports Dialect.namesWindowsByName then
    let _ ← identifier
    return []
  else expectedNext "("

/-- Windows with names. -/
def namedWindows : Parser (List Expr) :=
  return (← commaSeparated namedWindow).flatten

/-- The windows and the condition on them, in either order. -/
def optionalWindows : Parser (List Expr) := do
  if ← keyword "WINDOW" then
    let windows ← namedWindows
    return windows ++ (← exprAfter "QUALIFY")
  if ← keyword "QUALIFY" then
    let condition ← expr
    return (← whenList (keyword "WINDOW") namedWindows) ++ [condition]
  return []

/-- The hierarchy of the rows, or nothing. -/
def optionalHierarchy : Parser (List Expr) := do
  if !(← supports Dialect.connectsBy) then return []
  match ← seesAnyKeyword ["START", "CONNECT"] with
  | none => return []
  | some _ =>
    if ← keywords ["CONNECT", "BY"] then
      let relations ← withHierarchy true exprs
      expectKeywords ["START", "WITH"]
      return (← expr) :: relations
    expectKeywords ["START", "WITH"]
    let condition ← expr
    expectKeywords ["CONNECT", "BY"]
    return condition :: (← withHierarchy true exprs)

/-- What a selection of values rather than rows is marked with. -/
def optionalValueMode : Parser Unit := do
  if ← inDialect [.bigquery] <&&> keyword "AS" then
    if (← anyKeyword ["VALUE", "STRUCT"]).isNone then expectedNext "VALUE or STRUCT"

/-- A selection. -/
def select : Parser Body := do
  expectKeyword "SELECT"
  optionalValueMode
  let early ← supports Dialect.topBeforeDistinct
  let earlyTop ← whenList (pure early <&&> keyword "TOP") topRows
  let distinct ← optionalDistinct
  let lateTop ← whenList (pure !early <&&> keyword "TOP") topRows
  let items ←
    if ← supports Dialect.allowsEmptyProjection <&&> seesKeyword "FROM" then pure []
    else selectItems
  optionalInto
  let tables ← whenList (keyword "FROM") fromTables
  let views ← many lateralView
  let before ← whenList (inDialect [.clickhouse, .generic] <&&> keyword "PREWHERE") do
    return [← expr]
  let condition ← exprAfter "WHERE"
  let groups ← optionalGroupBy
  let clusters ← whenList (keywords ["CLUSTER", "BY"]) exprs
  let distribution ← whenList (keywords ["DISTRIBUTE", "BY"]) exprs
  let order ← whenList (keywords ["SORT", "BY"]) exprs
  let having ← exprAfter "HAVING"
  let windows ← optionalWindows
  let hierarchy ← optionalHierarchy
  return .select (distinct ++ earlyTop ++ lateTop ++ items) tables
    (views ++ before ++ condition ++ groups ++ clusters ++ distribution ++ order ++ having ++
      windows ++ hierarchy)

/-! ## Bodies -/

/-- The name behind `TABLE`. The three tokens behind the keyword are taken even if the name has one
part only. -/
def tableBody : Parser Body := do
  let first ← next
  let period ← next
  let second ← next
  let named := fun (lexeme : Lexeme) => match lexeme.token with
    | .word _ => true
    | _ => false
  if period.token == .symbol .period then
    if !named first then expected "Schema name" first
    if !named second then expected "Table name" second
  else if !named first then expected "Table name" first
  return .table

/-- How tightly a set operator binds, `0` if none is next. -/
def setStrength (keyword : String) : Nat :=
  match keyword with
  | "UNION" | "EXCEPT" | "MINUS" => 10
  | "INTERSECT" => 20
  | _ => 0

/-- The treatment of duplicates behind a set operator, and whether columns are matched by name. -/
def optionalSetQuantifier : Parser Unit := do
  if ← keywords ["DISTINCT", "BY", "NAME"] <||> keywords ["BY", "NAME"] then return ()
  if ← keyword "ALL" then
    let _ ← keywords ["BY", "NAME"]
  else
    let _ ← keyword "DISTINCT"

/-- The body that is combined with another one, if a set operator follows it. -/
def combined (strength : Nat) (left : Body) : Parser (Option Body) := do
  let following := setStrength (← peek).token.keyword
  if following ≤ strength then return none
  skip
  optionalSetQuantifier
  return some (.combination left (← Rules.body following))

/-- The body of a query, combined by operators that bind more tightly than `strength`. -/
def bodyRule (strength : Nat) : Parser Body := do
  let first ←
    if ← seesKeyword "SELECT" then select
    else if ← symbol .lparen then
      let inner ← query
      expectSymbol .rparen
      pure (Body.query inner)
    else if ← keyword "VALUES" then
      pure (Body.values (← rowsOf ((← dialect) == .mysql)))
    else if ← keyword "TABLE" then tableBody
    else expectedNext "SELECT, VALUES, or a subquery in the query body"
  iterate (combined strength) first

/-! ## Queries -/

/-- A common table expression. -/
def cte : Parser Cte := do
  let name ← identifier
  if !(← keyword "AS") then
    let _ ← whenList (sees .lparen) (parens (commaSeparated aliasColumn))
    expectKeyword "AS"
  if (← dialect) == .postgresql then
    if !(← keyword "MATERIALIZED") then
      let _ ← keywords ["NOT", "MATERIALIZED"]
  let inner ← parens query
  if ← keyword "FROM" then
    let _ ← identifier
  return .mk name inner

/-- The value that fills a gap. -/
def interpolation : Parser (List Expr) := do
  let _ ← identifier
  exprAfter "AS"

/-- The values that fill gaps, or nothing. -/
def optionalInterpolations : Parser (List Expr) := do
  if ← inDialect [.clickhouse, .generic] <&&> keyword "INTERPOLATE" then
    if ← symbol .lparen then
      let items ← commaSeparatedBefore .rparen interpolation
      expectSymbol .rparen
      return items.flatten
  return []

/-- The order of the rows, or nothing. -/
def optionalOrderBy : Parser (List Expr) := do
  if !(← keywords ["ORDER", "BY"]) then return []
  let items ← orderItems
  return items ++ (← optionalInterpolations)

/-- The limits of a query: how many rows, and behind how many. -/
structure Limits where
  /-- How many rows. -/
  limit : Option Expr
  /-- How many rows are left out. -/
  offset : Option Expr

/-- Takes a limit, an offset, or an offset in front of a limit, as far as they are next. -/
def moreLimits (limits : Limits) : Parser Limits := do
  let limit ←
    if ← pure limits.limit.isNone <&&> keyword "LIMIT" then
      if ← keyword "ALL" then pure none
      else pure (some (← expr))
    else pure limits.limit
  let offset ←
    if ← pure limits.offset.isNone <&&> keyword "OFFSET" then
      let rows ← expr
      let _ ← anyKeyword ["ROW", "ROWS"]
      pure (some rows)
    else pure limits.offset
  if ← pure (limit.isSome && offset.isNone) <&&> supports Dialect.limitsWithComma <&&>
      symbol .comma then
    return ⟨some (← expr), limit⟩
  return ⟨limit, offset⟩

/-- The first rows of a query, behind `FETCH`. -/
def fetch : Parser Unit := do
  let _ ← expectAnyKeyword ["FIRST", "NEXT"]
  if (← anyKeyword ["ROW", "ROWS"]).isNone then
    let _ ← value
    let _ ← keyword "PERCENT"
    let _ ← expectAnyKeyword ["ROW", "ROWS"]
  if ← keyword "ONLY" then return ()
  if ← keywords ["WITH", "TIES"] then return ()
  expectedNext "one of ONLY or WITH TIES"

/-- A text between parentheses, or nothing. -/
def optionalElementName : Parser Unit := do
  if ← sees .lparen then
    let _ ← parens literalText

/-- An option of a document that a query gives. -/
def documentOption (words : List String) : Parser (Option Unit) := do
  if !(← symbol .comma) then return none
  match ← anyKeyword words with
  | some "BINARY" => return some (← expectKeyword "BASE64")
  | some "ROOT" =>
    let _ ← parens literalText
    return some ()
  | _ => return some ()

/-- The document that a query gives, behind `FOR`; nothing if none is asked for. -/
def documentClause : Parser Bool := do
  if ← keyword "XML" then
    match ← anyKeyword ["RAW", "AUTO", "EXPLICIT", "PATH"] with
    | some "RAW" | some "PATH" => optionalElementName
    | some _ => pure ()
    | none => failed "Expected FOR XML [RAW | AUTO | EXPLICIT | PATH ]" .none
    let _ ← many (documentOption ["ELEMENTS", "BINARY", "ROOT", "TYPE"])
    return true
  if ← keyword "JSON" then
    if (← anyKeyword ["AUTO", "PATH"]).isNone then
      failed "Expected FOR JSON [AUTO | PATH ]" .none
    let _ ← many (documentOption ["ROOT", "INCLUDE_NULL_VALUES", "WITHOUT_ARRAY_WRAPPER"])
    return true
  keyword "BROWSE"

/-- The lock that a query takes, behind `FOR`. -/
def lock : Parser Unit := do
  let _ ← expectAnyKeyword ["UPDATE", "SHARE"]
  if ← keyword "OF" then
    let _ ← objectName
  if !(← keyword "NOWAIT") then
    let _ ← keywords ["SKIP", "LOCKED"]

/-- The document or the locks of a query, or nothing. -/
def optionalFor : Parser Unit := do
  let _ ← iterate (fun (closed : Bool) => do
      if ← pure !closed <&&> keyword "FOR" then
        if ← documentClause then return some true
        lock
        return some false
      return none)
    false

/-- What stands behind the body of a query. -/
def queryTail : Parser (List Expr) := do
  let order ← optionalOrderBy
  let limits ← moreLimits (← moreLimits ⟨none, none⟩)
  let groups ← whenList (inDialect [.clickhouse, .generic] <&&> keyword "BY") exprs
  let _ ← optionalSettings
  if ← keyword "FETCH" then fetch
  optionalFor
  if ← inDialect [.clickhouse, .generic] <&&> keyword "FORMAT" then
    if !(← keyword "NULL") then
      let _ ← identifier
  return order ++ limits.limit.toList ++ groups ++ limits.offset.toList

/-- A query whose body begins with a keyword that `change` reads on from. -/
def queryRule (insert update : Parser Statement) : Parser Query := deeper do
  let (recursive, ctes) ← if ← keyword "WITH" then do
      let recursive ← keyword "RECURSIVE"
      pure (recursive, ← commaSeparated cte)
    else pure (false, [])
  if ← keyword "INSERT" then return .mk recursive ctes (.statement (← insert)) []
  if ← keyword "UPDATE" then return .mk recursive ctes (.statement (← update)) []
  let body ← Rules.body 0
  return .mk recursive ctes body (← queryTail)

end Parser

end Grammar

end SqlLineage
