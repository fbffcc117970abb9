import SqlLineage.Grammar.Parser.TypeName

/-!
# Calls

The arguments of a call, the clauses that may stand among and behind them, windows, and intervals,
whose bounds windows may use.
-/

namespace SqlLineage

namespace Grammar

namespace Parser

/-! ## Units of time -/

/-- The units that may follow the value of an interval. -/
def timeUnits : List String :=
  ["YEAR", "YEARS", "MONTH", "MONTHS", "WEEK", "WEEKS", "DAY", "DAYS", "HOUR", "HOURS", "MINUTE",
    "MINUTES", "SECOND", "SECONDS", "CENTURY", "DECADE", "DOW", "DOY", "EPOCH", "ISODOW",
    "ISOYEAR", "JULIAN", "MICROSECOND", "MICROSECONDS", "MILLENIUM", "MILLENNIUM", "MILLISECOND",
    "MILLISECONDS", "NANOSECOND", "NANOSECONDS", "QUARTER", "TIMEZONE", "TIMEZONE_HOUR",
    "TIMEZONE_MINUTE"]

/-- The parts of a date or time that are no units of intervals. -/
def timeParts : List String :=
  ["DAYOFWEEK", "DAYOFYEAR", "DATE", "DATETIME", "ISOWEEK", "TIME", "TIMEZONE_ABBR",
    "TIMEZONE_REGION"]

/-- A part of a date or time; gives its keyword. -/
def timeField : Parser String := do
  let lexeme ← next
  match lexeme.token with
  | .word w =>
    if w.keyword == "WEEK" && (← inDialect [.bigquery, .generic]) && (← sees .lparen) then
      let _ ← parens identifier
      return w.keyword
    if timeUnits.contains w.keyword || timeParts.contains w.keyword then return w.keyword
    if ← supports Dialect.extractsAnyField then return ""
    expected "date/time field" lexeme
  | .text .plain _ =>
    if ← supports Dialect.extractsAnyField then return ""
    expected "date/time field" lexeme
  | _ => expected "date/time field" lexeme

/-! ## Clauses -/

/-- Takes `ASC` or `DESC` if it is next. -/
def optionalDirection : Parser Bool :=
  return (← anyKeyword ["ASC", "DESC"]).isSome

/-- Takes the treatment of nulls in an order if it is next. -/
def optionalNullsOrder : Parser Unit := do
  if !(← keywords ["NULLS", "FIRST"]) then
    let _ ← keywords ["NULLS", "LAST"]

/-- Takes the treatment of nulls by a function if it is next. -/
def optionalNullTreatment : Parser Bool := do
  match ← anyKeyword ["RESPECT", "IGNORE"] with
  | some _ =>
    expectKeyword "NULLS"
    return true
  | none => return false

/-- Takes the treatment of duplicates if it is next. -/
def optionalDuplicateTreatment : Parser Unit := do
  let position := (← peek).position
  let all ← keyword "ALL"
  let distinct ← keyword "DISTINCT"
  if all && distinct then failed "Cannot specify both ALL and DISTINCT" position

/-- Takes the treatment of nulls in a document if it is next. -/
def optionalJsonNulls : Parser Unit := do
  if !(← keywords ["ABSENT", "ON", "NULL"]) then
    let _ ← keywords ["NULL", "ON", "NULL"]

/-- The operator between the name of an argument and its value. -/
def argumentOperator : Parser Unit := do
  if ← keyword "VALUE" then return ()
  let lexeme ← next
  let dialect ← dialect
  let known := match lexeme.token with
    | .symbol .rightArrow => dialect.namesArgumentsByArrow
    | .symbol .eq => dialect.namesArgumentsByEq
    | .symbol .assign => dialect.namesArgumentsByAssign
    | .symbol .colon => dialect.namesArgumentsByColon
    | _ => false
  if !known then expected "argument operator" lexeme

variable [Rules]

/-- The bounds that fill gaps of an order. -/
def fillBounds : Parser (List Expr) := do
  let first ← whenList (keyword "FROM") (do return [← expr])
  let last ← whenList (keyword "TO") (do return [← expr])
  let step ← whenList (keyword "STEP") (do return [← expr])
  return first ++ last ++ step

/-- An expression to order by. -/
def orderItem : Parser Expr := do
  let item ← expr
  let _ ← optionalDirection
  optionalNullsOrder
  let fill ← whenList (inDialect [.clickhouse, .generic] <&&> keywords ["WITH", "FILL"]) fillBounds
  return .operation (item :: fill)

/-- Expressions to order by, separated by commas. -/
def orderItems : Parser (List Expr) :=
  commaSeparated orderItem

/-- The value of an interval and its units. -/
def interval : Parser Expr := do
  let needsUnit ← supports Dialect.intervalsNeedUnits
  let value ← if needsUnit then expr else Rules.operand
  let unit ←
    if timeUnits.contains (← peek).token.keyword then timeField
    else if needsUnit then
      failed "INTERVAL requires a unit after the literal value" (← peek).position
    else pure ""
  if unit == "SECOND" then
    let _ ← optionalScale
  else
    let _ ← optionalSize
    if ← keyword "TO" then
      if (← timeField) == "SECOND" then
        let _ ← optionalSize
  return .operation [value]

/-! ## Windows -/

/-- A bound of the frame of a window. -/
def frameBound : Parser (List Expr) := do
  if ← keywords ["CURRENT", "ROW"] then return []
  let rows ←
    if ← keyword "UNBOUNDED" then pure []
    else
      match (← peek).token with
      | .text .plain _ => pure [← interval]
      | _ => pure [← expr]
  if ← keyword "PRECEDING" <||> keyword "FOLLOWING" then return rows
  expectedNext "PRECEDING or FOLLOWING"

/-- The frame of a window. -/
def windowFrame : Parser (List Expr) := do
  let lexeme ← next
  if !(["ROWS", "RANGE", "GROUPS"].contains lexeme.token.keyword) then
    expected "ROWS, RANGE, GROUPS" lexeme
  if ← keyword "BETWEEN" then
    let start ← frameBound
    expectKeyword "AND"
    return start ++ (← frameBound)
  frameBound

/-- A window up to its closing parenthesis. -/
def windowSpec : Parser (List Expr) := do
  match (← peek).token with
  | .word w => if !isKeyword w.keyword then skip
  | _ => pure ()
  let partition ← whenList (keywords ["PARTITION", "BY"]) exprs
  let order ← whenList (keywords ["ORDER", "BY"]) orderItems
  if ← symbol .rparen then return partition ++ order
  let frame ← windowFrame
  expectSymbol .rparen
  return partition ++ order ++ frame

/-- The window of a call, or nothing. -/
def optionalOver : Parser (List Expr) := do
  if !(← keyword "OVER") then return []
  if ← symbol .lparen then windowSpec
  else
    let _ ← identifier
    return []

/-! ## Arguments -/

/-- The part of a name behind a period, or the star in its place. -/
def wildcardPart (parts : List Ident) : Parser (Option (Bool × List Ident)) := do
  if !(← symbol .period) then return none
  let lexeme ← next
  match lexeme.token with
  | .word w => return some (false, identOf w :: parts)
  | .text .plain s => return some (false, ⟨s, some '\''⟩ :: parts)
  | .symbol .star => return some (true, parts)
  | _ => expected "an identifier or a '*' after '.'" lexeme

/-- A star with a name in front of it, if that is what is next. -/
def qualifiedWildcard (first : Ident) : Parser (Option Expr) := do
  let start ← get
  let (star, parts) ← iterate (fun (star, parts) => do
      if star then return none
      wildcardPart parts)
    (false, [first])
  if star then return some (.wildcard parts.reverse)
  set start
  return none

/-- An expression or a star. -/
def wildcardOrExpr : Parser Expr := do
  let first : Option Ident ← match (← peek).token with
    | .word w => pure (some (identOf w))
    | .text .plain s => pure (some ⟨s, some '\''⟩)
    | _ => pure none
  match first with
  | some ident =>
    let start ← get
    skip
    match ← qualifiedWildcard ident with
    | some star => return star
    | none =>
      set start
      expr
  | none =>
    if ← symbol .star then return .wildcard []
    expr

/-- An argument with a name. -/
def namedArgument : Parser Expr := do
  if ← supports Dialect.namesArgumentsByExpression then
    let name ← expr
    argumentOperator
    return .operation [name, ← wildcardOrExpr]
  else
    let _ ← identifier
    argumentOperator
    return .operation [← wildcardOrExpr]

/-- An argument. -/
def argument : Parser Expr := do
  match ← maybe namedArgument with
  | some item => return item
  | none => wildcardOrExpr

/-- Whether a text may stand where an aggregated list is cut off. -/
def isFiller : TextKind → Bool
  | .plain | .escaped | .unicode | .national | .hexadecimal => true
  | _ => false

/-- What happens when an aggregated list is too long. -/
def optionalOverflow : Parser (List Expr) := do
  if !(← keywords ["ON", "OVERFLOW"]) then return []
  if ← keyword "ERROR" then return []
  expectKeyword "TRUNCATE"
  let lexeme ← peek
  let neither : Parser (List Expr) :=
    expected "either filler, WITH, or WITHOUT in LISTAGG" lexeme
  let filler ← match lexeme.token with
    | .word w => if w.keyword == "WITH" || w.keyword == "WITHOUT" then pure [] else neither
    | .text kind _ => if isFiller kind then pure [← expr] else neither
    | _ => neither
  if !(← keyword "WITH") then
    if !(← keyword "WITHOUT") then expectedNext "either WITH or WITHOUT in LISTAGG"
  expectKeyword "COUNT"
  return filler

/-- The arguments of a call up to the closing parenthesis, and whether a treatment of nulls stands
among them. -/
def argumentList : Parser (Arguments × Bool) := do
  optionalJsonNulls
  if ← symbol .rparen then return (.list [] [], false)
  optionalDuplicateTreatment
  let items ← commaSeparated argument
  let nulls ←
    if ← supports Dialect.treatsNullsInArguments then optionalNullTreatment else pure false
  let order ← whenList (keywords ["ORDER", "BY"]) orderItems
  let limit ← whenList (keyword "LIMIT") (do return [← expr])
  let bound ← whenList (inDialect [.generic, .bigquery] <&&> keyword "HAVING") do
    let _ ← expectAnyKeyword ["MIN", "MAX"]
    return [← expr]
  if ← inDialect [.generic, .mysql] <&&> keyword "SEPARATOR" then
    let _ ← value
  let filler ← optionalOverflow
  optionalJsonNulls
  expectSymbol .rparen
  return (.list items (order ++ limit ++ bound ++ filler), nulls)

/-- Whether a query without parentheses is next. -/
def seesQuery : Parser Bool :=
  return (← seesAnyKeyword ["SELECT", "WITH"]).isSome

/-- A call whose name was just read. -/
def callOf (name : ObjectName) : Parser Expr := do
  expectSymbol .lparen
  if (← dialect) == .snowflake && (← seesQuery) then
    let inner ← query
    expectSymbol .rparen
    return .call name .none (.query inner) []
  let (first, firstNulls) ← argumentList
  let (parameters, args, nulls) ←
    if ← inDialect [.clickhouse, .generic] <&&> symbol .lparen then
      let (second, secondNulls) ← argumentList
      pure (first, second, secondNulls)
    else pure (Arguments.none, first, firstNulls)
  let within ← whenList (keywords ["WITHIN", "GROUP"]) (parens do
    expectKeywords ["ORDER", "BY"]
    orderItems)
  let filter ← whenList (supports Dialect.filtersAggregates <&&> keyword "FILTER" <&&>
      symbol .lparen <&&> keyword "WHERE") do
    let filter ← expr
    expectSymbol .rparen
    return [filter]
  if !nulls then
    let _ ← optionalNullTreatment
  let window ← optionalOver
  return .call name parameters args (filter ++ window ++ within)

end Parser

end Grammar

end SqlLineage
