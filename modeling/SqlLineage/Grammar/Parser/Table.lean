import SqlLineage.Grammar.Parser.Expression

/-!
# Tables and joins

What stands in `FROM`: tables and table functions, queries and joins in parentheses, rows computed
from expressions, and sources whose rows are rearranged. A parenthesis is read as a query first, and
as a join if that fails.
-/

namespace SqlLineage

namespace Grammar

namespace Parser

variable [Rules]

/-! ## Aliases of tables -/

/-- A column of an alias, with or without a type; gives how it is written. -/
def aliasColumn : Parser String := do
  let name ← identifier
  match ← maybe typeName with
  | some type => return name.spelling ++ " " ++ type.spelling
  | none => return name.spelling

/-- The alias of a table as it is written, or nothing. -/
def tableAlias : Parser (Option String) := do
  match ← aliasExcept tableAliasReserved with
  | none => return none
  | some name =>
    let columns ← whenList (sees .lparen) (parens (commaSeparated aliasColumn))
    if columns.isEmpty then return some name.spelling
    return some (name.spelling ++ " " ++ enclosed (listed columns))

/-! ## Rows -/

/-- Rows of values. -/
def rowsOf (allowEmpty : Bool) : Parser (List Expr) := do
  let rows ← commaSeparated do
    let _ ← keyword "ROW"
    expectSymbol .lparen
    if ← pure allowEmpty <&&> symbol .rparen then return []
    let items ← exprs
    expectSymbol .rparen
    return items
  return rows.flatten

/-- Takes the settings among the arguments of a table function. -/
def setting : Parser Unit := do
  let _ ← identifier
  expectSymbol .eq
  let _ ← value

/-- Takes settings if they are next. -/
def optionalSettings : Parser Bool := do
  if ← inDialect [.clickhouse, .generic] <&&> keyword "SETTINGS" then
    let _ ← commaSeparated setting
    return true
  return false

/-- The arguments of a table function up to the closing parenthesis. -/
def tableArguments : Parser (List Expr) := do
  if ← symbol .rparen then return []
  let trailing ← supports Dialect.allowsTrailingCommas
  let (items, _) ← iterate (fun (items, closed) => do
      if closed then return none
      if ← optionalSettings then return some (items, true)
      let item ← argument
      return some (item :: items, !(← separator trailing clauseWords)))
    ([], false)
  expectSymbol .rparen
  return items.reverse

/-- Arguments up to the closing parenthesis. -/
def optionalArguments : Parser (List Expr) := do
  if ← symbol .rparen then return []
  let items ← commaSeparated argument
  expectSymbol .rparen
  return items

/-! ## Versions and samples -/

/-- The version of a table that is read, or nothing. -/
def optionalVersion : Parser (List Expr) := do
  if !(← supports Dialect.readsVersions) then return []
  if ← keywords ["FOR", "SYSTEM_TIME", "AS", "OF"] then return [← expr]
  if (← seesAnyKeyword ["AT", "BEFORE"]).isSome then return [← callOf (← objectNameIn true)]
  return []

/-- The size of a sample. -/
def sampleSize : Parser (List Expr) := do
  let size ← match ← maybe expr with
    | some size => pure [size]
    | none =>
      match (← next).token with
      | .word _ => pure []
      | _ => failed "Expecting number or byte length e.g. 100M" (← peek).position
  if !(← keyword "ROWS") then
    let _ ← keyword "PERCENT"
  return size

/-- The sample of a table that is read, or nothing. -/
def optionalSample : Parser (List Expr) := do
  if (← anyKeyword ["TABLESAMPLE", "SAMPLE"]).isNone then return []
  let _ ← anyKeyword ["BERNOULLI", "ROW", "SYSTEM", "BLOCK"]
  let between ← symbol .lparen
  let items ← if ← pure between <&&> keyword "BUCKET" then do
      let _ ← numberValue
      expectKeywords ["OUT", "OF"]
      let _ ← numberValue
      exprAfter "ON"
    else sampleSize
  if between then expectSymbol .rparen
  if (← anyKeyword ["REPEATABLE", "SEED"]).isSome then
    let _ ← parens numberValue
  return items ++ (← exprAfter "OFFSET")

/-! ## Rearranged rows -/

/-- A call that may have an alias. -/
def aliasedCall : Parser Expr := do
  match (← next).token with
  | .word w =>
    let call ← callOf [⟨w.text, none⟩]
    if ← keyword "AS" then
      let _ ← identifier
    return call
  | _ => expectedNext "a function identifier"

/-- An expression that may have an alias behind `AS`. -/
def aliasedExpr : Parser Expr := do
  let item ← expr
  if ← keyword "AS" then
    let _ ← identifier
  return item

/-- The values that become columns. -/
def pivotValues : Parser (List Expr) := do
  if ← keyword "ANY" then return ← whenList (keywords ["ORDER", "BY"]) orderItems
  if ← seesQuery then return [.query (← query)]
  commaSeparated aliasedExpr

/-- Rows turned into columns, behind `PIVOT`. -/
def pivot : Parser (List Expr) := parens do
  let calls ← commaSeparated aliasedCall
  expectKeyword "FOR"
  let _ ← manyWhile identifier (symbol .period)
  expectKeyword "IN"
  let values ← parens pivotValues
  let missing ← whenList (keywords ["DEFAULT", "ON", "NULL"]) (do return [← parenExpr])
  return calls ++ values ++ missing

/-- Columns turned into rows, behind `UNPIVOT`. -/
def unpivot : Parser (List Expr) := parens do
  let _ ← identifier
  expectKeyword "FOR"
  let _ ← identifier
  expectKeyword "IN"
  let _ ← mandatoryColumnNames
  return []

/-- A source and its alias, rearranged as often as asked for. -/
def rearrangements (table : TableFactor × Option String) : Parser (TableFactor × Option String) :=
  iterate (fun (table, _) => do
      match ← anyKeyword ["PIVOT", "UNPIVOT"] with
      | some word =>
        let items ← if word == "PIVOT" then pivot else unpivot
        return some (TableFactor.rearranged table items, ← tableAlias)
      | none => return none)
    table

/-- What is said about the rows of a match. -/
def optionalRowsPerMatch : Parser Unit := do
  if ← keywords ["ONE", "ROW", "PER", "MATCH"] then return ()
  if ← keywords ["ALL", "ROWS", "PER", "MATCH"] then
    if ← keywords ["SHOW", "EMPTY", "MATCHES"] then return ()
    if ← keywords ["OMIT", "EMPTY", "MATCHES"] then return ()
    let _ ← keywords ["WITH", "UNMATCHED", "ROWS"]

/-- Where the search goes on behind a match. -/
def optionalMatchSkip : Parser Unit := do
  if !(← keywords ["AFTER", "MATCH", "SKIP"]) then return ()
  if ← keywords ["PAST", "LAST", "ROW"] then return ()
  if ← keywords ["TO", "NEXT", "ROW"] then return ()
  if ← keywords ["TO", "FIRST"] <||> keywords ["TO", "LAST"] then
    let _ ← identifier
    return ()
  expected "after match skip option" (← next)

/-- A range of repetitions, behind the opening brace. Its bounds are checked when it is read to the
end, and a bad one is blamed on the first token of the range. -/
def repetitionRange : Parser Unit := do
  let first ← next
  let check (bounds : List String) : Parser Unit := do
    expectSymbol .rbrace
    for digits in bounds do
      let _ ← numberOf 32 first digits
  match first.token with
  | .symbol .comma =>
    let bound ← next
    match bound.token with
    | .number upper _ => check [upper]
    | _ => expected "literal number" bound
  | .number lower _ =>
    if ← symbol .comma then
      let bound ← next
      match bound.token with
      | .number upper _ => check [lower, upper]
      | .symbol .rbrace =>
        back
        check [lower]
      | _ => expected "\x7d or upper bound" bound
    else check [lower]
  | _ => expected "quantifier range" first

/-- Takes how often a part of a pattern repeats if it is next. -/
def repetition : Parser (Option Unit) := do
  let lexeme ← next
  match lexeme.token with
  | .symbol .star | .symbol .plus => return some ()
  | .placeholder "?" => return some ()
  | .symbol .lbrace => return some (← repetitionRange)
  | _ =>
    back
    return none

/-- A pattern of rows, nested at most `levels` deep. -/
def rowPattern : Nat → Parser Unit
  | 0 => throw .tooDeep
  | levels + 1 => do
    let unit : Parser Unit := do
      let lexeme ← next
      match lexeme.token with
      | .symbol .caret => pure ()
      | .placeholder "$" => pure ()
      | .symbol .lbrace =>
        expectSymbol .minus
        let _ ← identifier
        expectSymbol .minus
        expectSymbol .rbrace
      | .symbol .lparen =>
        rowPattern levels
        expectSymbol .rparen
      | token =>
        if token.spelling == "PERMUTE" then
          let _ ← parens (commaSeparated identifier)
        else
          back
          let _ ← identifier
      let _ ← many repetition
    let _ ← manyWhile unit do
      match (← peek).token with
      | .symbol .rparen => return false
      | .symbol .pipe =>
        skip
        return true
      | _ => return true

/-- A measure of a match. -/
def measure : Parser Expr := do
  let item ← expr
  let _ ← keyword "AS"
  let _ ← identifier
  return item

/-- The condition of a symbol of a pattern. -/
def patternSymbol : Parser Expr := do
  let _ ← identifier
  expectKeyword "AS"
  expr

/-- Matches of a pattern of rows, behind `MATCH_RECOGNIZE`. -/
def matchRecognize : Parser (List Expr) := parens do
  let partition ← whenList (keywords ["PARTITION", "BY"]) exprs
  let order ← whenList (keywords ["ORDER", "BY"]) orderItems
  let measures ← whenList (keyword "MEASURES") (commaSeparated measure)
  optionalRowsPerMatch
  optionalMatchSkip
  expectKeyword "PATTERN"
  parens (rowPattern ((← read).tokens.size + 1))
  expectKeyword "DEFINE"
  let conditions ← commaSeparated patternSymbol
  return partition ++ order ++ measures ++ conditions

/-! ## Documents as tables -/

/-- What happens where a document has no value for a column, or nothing. -/
def missingColumn : Parser (Option Unit) := do
  if !(← keyword "NULL" <||> keyword "ERROR") then
    if ← keyword "DEFAULT" then
      let _ ← value
    else return none
  expectKeyword "ON"
  if !(← keyword "EMPTY") then expectKeyword "ERROR"
  return some ()

/-- A column taken from a document, nested at most `levels` deep. -/
def documentColumn : Nat → Parser Unit
  | 0 => throw .tooDeep
  | levels + 1 => do
    if ← keyword "NESTED" then
      let _ ← keyword "PATH"
      let _ ← value
      expectKeyword "COLUMNS"
      let _ ← parens (commaSeparated (documentColumn levels))
    else
      let _ ← identifier
      if ← keyword "FOR" then expectKeyword "ORDINALITY"
      else
        let _ ← typeName
        let _ ← keyword "EXISTS"
        expectKeyword "PATH"
        let _ ← value
        let _ ← many missingColumn

/-- The rows of a document, behind `JSON_TABLE` and its parenthesis. -/
def documentRows : Parser TableFactor := do
  let document ← expr
  expectSymbol .comma
  let _ ← value
  expectKeyword "COLUMNS"
  let _ ← parens (commaSeparated (documentColumn ((← read).tokens.size + 1)))
  expectSymbol .rparen
  return .rows [document]

/-- A typed column of an opened document. -/
def openedColumn : Parser Unit := do
  let _ ← identifier
  let _ ← typeName
  if let .text .plain _ := (← peek).token then skip
  if ← keyword "AS" then expectKeyword "JSON"

/-- The rows of a document, behind `OPENJSON`. -/
def openedRows : Parser TableFactor := do
  let document ← parens do
    let document ← expr
    if ← symbol .comma then
      let _ ← value
    return document
  if ← keyword "WITH" then
    let _ ← parens (commaSeparated openedColumn)
  return .rows [document]

/-! ## Joins -/

/-- The condition of a join. -/
def joinCondition : Parser (List Expr) := do
  if ← keyword "ON" then return [← expr]
  if ← keyword "USING" then
    let _ ← mandatoryQualifiedNames
  return []

/-- What comes before the table of a join: the kind of the join. Nothing is given if no join is
next; otherwise whether a condition may follow. -/
def joinKind : Parser (Option Bool) := do
  let natural ← keyword "NATURAL"
  match (← peek).token.keyword with
  | "INNER" | "JOIN" =>
    let _ ← keyword "INNER"
    expectKeyword "JOIN"
    return some !natural
  | "LEFT" | "RIGHT" =>
    let side ← next
    match ← anyKeyword ["OUTER", "SEMI", "ANTI", "JOIN"] with
    | some "JOIN" => return some !natural
    | some _ =>
      expectKeyword "JOIN"
      return some !natural
    | none =>
      failed ("expected OUTER, SEMI, ANTI or JOIN after " ++ side.token.keyword) .none
  | "ANTI" | "SEMI" =>
    skip
    expectKeyword "JOIN"
    return some !natural
  | "FULL" =>
    skip
    let _ ← keyword "OUTER"
    expectKeyword "JOIN"
    return some !natural
  | "OUTER" => expectedNext "LEFT, RIGHT, or FULL"
  | _ =>
    if natural then expectedNext "a join type after NATURAL"
    return none

/-- A source of rows without its alias. -/
def factor : Parser TableFactor :=
  return (← Rules.factor).1

/-- One joined table. -/
def join : Parser (Option Join) := do
  let _ ← keyword "GLOBAL"
  if ← keyword "CROSS" then
    if ← keyword "JOIN" <||> keyword "APPLY" then return some (.mk (← factor) [])
    expectedNext "JOIN or APPLY after CROSS"
  if ← keyword "OUTER" then
    expectKeyword "APPLY"
    return some (.mk (← factor) [])
  if ← keyword "ASOF" then
    expectKeyword "JOIN"
    let table ← factor
    expectKeyword "MATCH_CONDITION"
    let condition ← parenExpr
    return some (.mk table (condition :: (← joinCondition)))
  match ← joinKind with
  | none => return none
  | some conditional =>
    let table ← factor
    return some (.mk table (← if conditional then joinCondition else pure []))

/-- The tables joined to one. -/
def joinsOf : Parser (List Join) :=
  many join

/-- A table and its joins. -/
def tablesRule : Parser TableJoins := do
  let table ← factor
  return .mk table (← joinsOf)

/-! ## Sources of rows -/

/-- A query up to its closing parenthesis, and its alias. -/
def derived : Parser (TableFactor × Option String) := do
  let inner ← query
  expectSymbol .rparen
  return (.derived inner, ← tableAlias)

/-- Whether a source is a join between parentheses. -/
def isNested : TableFactor → Bool
  | .nested _ => true
  | _ => false

/-- A join up to its closing parenthesis, and its alias. -/
def nestedJoin : Parser (TableFactor × Option String) := do
  let (table, inner) ← Rules.factor
  let joins ← joinsOf
  if !joins.isEmpty || isNested table then
    expectSymbol .rparen
    return (.nested (.mk table joins), ← tableAlias)
  if ← inDialect [.snowflake, .generic] then
    expectSymbol .rparen
    match ← tableAlias, inner with
    | some _, some inner => failed ("duplicate alias " ++ inner) .none
    | some outer, none => return (table, some outer)
    | none, inner => return (table, inner)
  expectedNext "joined table"

/-- The elements of arrays as rows, behind `UNNEST`. -/
def unnested : Parser (TableFactor × Option String) := do
  let items ← parens exprs
  let _ ← keywords ["WITH", "ORDINALITY"]
  let name ← tableAlias
  if ← keyword "WITH" then
    if ← keyword "OFFSET" then
      let _ ← aliasExcept clauseWords
  return (.rows items, name)

/-- A table or a table function, and its alias. -/
def namedTable : Parser (TableFactor × Option String) := do
  let name ← objectNameIn true
  let path ← if ← supports Dialect.hasPaths <&&> sees .lbracket then
      match ← pathOf .literal with
      | .operation (_ :: keys) => pure keys
      | _ => pure []
    else pure []
  if ← inDialect [.mysql, .generic] <&&> keyword "PARTITION" then
    let _ ← columnNames
  let version ← optionalVersion
  let args ← when? (symbol .lparen) tableArguments
  let _ ← keywords ["WITH", "ORDINALITY"]
  let early ← supports Dialect.samplesBeforeAlias
  let before ← if early then optionalSample else pure []
  let label ← tableAlias
  let hints ← whenList (symbolsAfter "WITH") do
    let hints ← exprs
    expectSymbol .rparen
    return hints
  let behind ← if early then pure [] else optionalSample
  let table := TableFactor.table name args (hints ++ version ++ path ++ before ++ behind)
  let table ← rearrangements (table, label)
  if ← supports Dialect.matchesRows <&&> keyword "MATCH_RECOGNIZE" then
    let items ← matchRecognize
    return (.rearranged table.1 items, ← tableAlias)
  return table
where
  /-- Takes a keyword and the parenthesis behind it if both are next. -/
  symbolsAfter (word : String) : Parser Bool := do
    if ← seesKeyword word <&&> (return (← peekAt 1).token == .symbol .lparen) then
      skip
      skip
      return true
    return false

/-- A source of rows behind `LATERAL`, and its alias. -/
def lateral : Parser (TableFactor × Option String) := do
  if ← symbol .lparen then return ← derived
  let name ← objectName
  expectSymbol .lparen
  let args ← optionalArguments
  return (.lateral name args, ← tableAlias)

/-- A source of rows, and its alias. -/
def factorRule : Parser (TableFactor × Option String) := do
  let opens : Parser Bool := return (← peekAt 1).token == .symbol .lparen
  if ← keyword "LATERAL" then lateral
  else if ← keyword "TABLE" then
    let item ← parenExpr
    return (.rows [item], ← tableAlias)
  else if ← symbol .lparen then
    match ← maybe derived with
    | some table => rearrangements table
    | none => nestedJoin
  else if ← inDialect [.snowflake, .databricks, .generic] <&&> seesKeyword "VALUES" <&&> opens then
    skip
    let rows ← rowsOf false
    return (.derived (.ofBody (.values rows)), ← tableAlias)
  else if ← inDialect [.bigquery, .postgresql, .generic] <&&> keyword "UNNEST" then unnested
  else if ← seesKeyword "JSON_TABLE" <&&> opens then
    skip
    skip
    let table ← documentRows
    return (table, ← tableAlias)
  else if ← seesKeyword "OPENJSON" <&&> opens then
    skip
    let table ← openedRows
    return (table, ← tableAlias)
  else namedTable

end Parser

end Grammar

end SqlLineage
