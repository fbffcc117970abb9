import SqlLineage.Grammar.Parser.Call

/-!
# Operands

An expression without operators behind it: a literal, a name, a call, a value in parentheses, or one
of the forms that a keyword begins. A keyword whose form does not follow is read as a name instead,
unless the dialect reserves it.
-/

namespace SqlLineage

namespace Grammar

namespace Parser

/-- Whether the mark of an outer join is next. -/
def seesOuterJoin : Parser Bool :=
  supports Dialect.marksOuterJoins <&&> seesSymbols [.lparen, .plus, .rparen]

/-- The time zone of a format, or nothing. -/
def optionalCastFormat : Parser Unit := do
  if ← keyword "FORMAT" then
    let _ ← value
    if ← keywords ["AT", "TIME", "ZONE"] then
      let _ ← value

/-- The expressions that a list of arguments holds. -/
def argumentExprs : Arguments → List Expr
  | .none => []
  | .query q => [.query q]
  | .list items clauses => items ++ clauses

variable [Rules]

/-- An expression between parentheses. -/
def parenExpr : Parser Expr :=
  parens expr

/-- An expression behind an optional keyword. -/
def exprAfter (word : String) : Parser (List Expr) :=
  whenList (keyword word) (do return [← expr])

/-! ## Forms that a keyword begins -/

/-- The branches of a case distinction. -/
def caseForm : Parser Expr := do
  let operand ← if ← keyword "WHEN" then pure [] else do
    let operand ← expr
    expectKeyword "WHEN"
    pure [operand]
  let branches ← manyWhile (do
      let condition ← expr
      expectKeyword "THEN"
      return (condition, ← expr))
    (keyword "WHEN")
  let otherwise ← exprAfter "ELSE"
  expectKeyword "END"
  return .operation (operand ++ branches.map Prod.fst ++ branches.map Prod.snd ++ otherwise)

/-- A conversion with the type in front. -/
def convertTypeFirst : Parser Expr := parens do
  let _ ← typeName
  expectSymbol .comma
  let operand ← expr
  let styles ← whenList (symbol .comma) exprs
  return .operation (operand :: styles)

/-- A conversion to a type or a character set. -/
def convertForm : Parser Expr := do
  if ← supports Dialect.convertsTypeFirst then return ← convertTypeFirst
  parens do
    let operand ← expr
    if ← keyword "USING" then
      let _ ← objectName
    else
      expectSymbol .comma
      let _ ← typeName
      if ← keywords ["CHARACTER", "SET"] then
        let _ ← objectName
    return .operation [operand]

/-- A cast. -/
def castForm : Parser Expr := parens do
  let operand ← expr
  expectKeyword "AS"
  let _ ← typeName
  optionalCastFormat
  return .operation [operand]

/-- A test whether a query has rows. -/
def existsForm : Parser Expr := parens do
  return .operation [.query (← query)]

/-- A part of a date. -/
def extractForm : Parser Expr := parens do
  let _ ← timeField
  if !(← keyword "FROM") then
    let comma ← symbol .comma
    if !(comma && (← inDialect [.snowflake, .generic])) then
      failed "Expected 'FROM' or ','" .none
  return .operation [← expr]

/-- A number rounded to a unit or a scale. -/
def roundForm : Parser Expr := parens do
  let operand ← expr
  if ← keyword "TO" then
    let _ ← timeField
  else if ← symbol .comma then
    if (← value) != .number then failed "Scale field can only be of number type" .none
  return .operation [operand]

/-- The position of one text in another. -/
def positionForm (name : Ident) : Parser Expr := do
  let found ← maybe (parens do
    let part ← exprAbove .between
    expectKeyword "IN"
    return Expr.operation [part, ← expr])
  match found with
  | some found => return found
  | none => callOf [name]

/-- A part of a text. -/
def substringForm : Parser Expr := parens do
  let text ← expr
  let start ← whenList (symbol .comma <||> keyword "FROM") (do return [← expr])
  let length ← whenList (keyword "FOR" <||> symbol .comma) (do return [← expr])
  return .operation (text :: start ++ length)

/-- A text with a part of it replaced. -/
def overlayForm : Parser Expr := parens do
  let text ← expr
  expectKeyword "PLACING"
  let part ← expr
  expectKeyword "FROM"
  let start ← expr
  return .operation (text :: part :: start :: (← exprAfter "FOR"))

/-- A text without what surrounds it. -/
def trimForm : Parser Expr := parens do
  let _ ← anyKeyword ["BOTH", "LEADING", "TRAILING"]
  let first ← expr
  if ← keyword "FROM" then return .operation [← expr, first]
  if ← symbol .comma <&&> inDialect [.snowflake, .bigquery, .generic] then
    return .operation (first :: (← exprs))
  return .operation [first]

/-- The elements of an array up to the closing bracket. -/
def arrayElements : Parser Expr := do
  let items ← commaSeparatedBefore .rbracket expr
  expectSymbol .rbracket
  return .operation items

/-- A negation. -/
def notForm : Parser Expr := do
  if ← keyword "EXISTS" then return ← existsForm
  return .operation [← exprAbove .not]

/-- A search in the text of columns. -/
def matchForm : Parser Expr := do
  let _ ← mandatoryColumnNames
  expectKeyword "AGAINST"
  parens do
    let _ ← value
    if ← keywords ["IN", "NATURAL", "LANGUAGE", "MODE"] then
      let _ ← keywords ["WITH", "QUERY", "EXPANSION"]
    else if !(← keywords ["IN", "BOOLEAN", "MODE"]) then
      let _ ← keywords ["WITH", "QUERY", "EXPANSION"]
    return .operation []

/-- A field of a structure value. -/
def structValue (typed : Bool) : Parser Expr := do
  let item ← expr
  let behind ← peek
  if ← keyword "AS" then
    if typed then failed "Typed syntax does not allow AS" behind.position
    let _ ← identifier
  return .operation [item]

/-- A structure value. -/
def structForm : Parser Expr := do
  let fields ← structFields
  if let some (_, true) := fields then
    failed "unmatched > in STRUCT literal" (← peek).position
  return .operation (← parens (commaSeparated (structValue fields.isSome)))

/-- A pair of a key and a value. -/
def mapEntry : Parser Expr := do
  let key ← expr
  expectSymbol .colon
  return .operation [key, ← expr]

/-- A field of a dictionary. -/
def dictionaryEntry : Parser Expr := do
  let _ ← identifier
  expectSymbol .colon
  expr

/-- A map or a dictionary with the given entries. -/
def braced (entries : Parser (List Expr)) : Parser Expr := do
  expectSymbol .lbrace
  let entries ← entries
  expectSymbol .rbrace
  return .operation entries

/-- A map, which may be empty, behind its keyword. -/
def mapForm : Parser Expr :=
  braced (commaSeparatedBefore .rbrace mapEntry)

/-- A dictionary, which has at least one field. -/
def dictionaryForm : Parser Expr :=
  braced (commaSeparated dictionaryEntry)

/-- A call whose arguments may be left out with their parentheses. -/
def timeFunction (name : Ident) : Parser Expr := do
  if ← symbol .lparen then
    let (args, _) ← argumentList
    return .call [name] .none args []
  return .call [name] .none .none []

/-! ## Names and steps into a value -/

/-- The single part of a name, if an expression is one. -/
def singleName? : Expr → Option Ident
  | .name [part] => some part
  | _ => none

/-- The part of a name that a step is, if it is one. -/
def stepName? : Access → Option Ident
  | .field step => singleName? step
  | .element _ => none

/-- The name that a root and the steps behind it make, if they make one. -/
def joinedName? (root : Expr) (chain : List Access) : Option ObjectName := do
  let first ← singleName? root
  let others ← chain.mapM stepName?
  return first :: others

/-- An element or a slice, behind the opening bracket. -/
def subscript : Parser Access := do
  let lower ← if ← symbol .colon then pure [] else do
    let lower ← expr
    if ← symbol .rbracket then return .element [lower]
    expectSymbol .colon
    pure [lower]
  if lower.isEmpty && (← sees .rbracket) then
    skip
    return .element []
  if ← symbol .rbracket then return .element lower
  let upper ← expr
  if ← symbol .rbracket then return .element (lower ++ [upper])
  expectSymbol .colon
  if ← symbol .rbracket then return .element (lower ++ [upper])
  let stride ← expr
  expectSymbol .rbracket
  return .element (lower ++ [upper, stride])

/-- Elements and slices, each between brackets. -/
def subscripts : Parser (List Access) :=
  many (when? (symbol .lbracket) subscript)

/-- The steps into a value, the last one first, and whether a star ends them. -/
structure Chain where
  /-- The steps, the last one first. -/
  steps : List Access
  /-- Whether a star ends them. -/
  star : Bool

/-- Takes a period and what stands behind it. -/
def chainStep (chain : Chain) : Parser (Option Chain) := do
  if chain.star then return none
  if !(← symbol .period) then return none
  let lexeme ← next
  match lexeme.token with
  | .word w =>
    let elements ← if ← supports Dialect.hasPaths then pure [] else subscripts
    return some ⟨elements.reverse ++ .field (.name [identOf w]) :: chain.steps, false⟩
  | .text .plain s => return some ⟨.field (.name [⟨s, some '\''⟩]) :: chain.steps, false⟩
  | .symbol .star =>
    if (← dialect) == .postgresql then return some ⟨chain.steps, true⟩
    expected "an identifier after '.'" lexeme
  | _ => expected "an identifier or a '*' after '.'" lexeme

/-- A value and the steps into it, the first of which are taken already. Parts of a name become one
name, also in front of a call. -/
def withSteps (root : Expr) (taken : List Access) : Parser Expr := do
  let chain ← iterate chainStep ⟨taken.reverse, false⟩
  let steps := chain.steps.reverse
  match joinedName? root steps with
  | some parts =>
    if chain.star then return .wildcard parts
    if ← seesOuterJoin then
      let _ ← symbols [.lparen, .plus, .rparen]
      return .outerJoin (.name parts)
    if ← sees .lparen then callOf parts else return .name parts
  | none =>
    if chain.star then expectedNext "an identifier or a '*' after '.'"
    if ← symbol .lparen then expectedNext "an identifier or a '*' after '.'"
    return if steps.isEmpty then root else .access root steps

/-! ## Words -/

/-- The form that a keyword begins, or nothing if it begins none; the keyword is taken already. -/
def keywordForm (w : Word) : Parser (Option Expr) := do
  let name := identOf w
  match w.keyword with
  | "TRUE" | "FALSE" =>
    if ← supports Dialect.hasBooleans then return some .literal else return none
  | "NULL" => return some .literal
  | "CURRENT_CATALOG" | "CURRENT_USER" | "SESSION_USER" | "USER" =>
    if ← inDialect [.postgresql, .generic] then return some (.call [name] .none .none [])
    return none
  | "CURRENT_TIMESTAMP" | "CURRENT_TIME" | "CURRENT_DATE" | "LOCALTIME" | "LOCALTIMESTAMP" =>
    return some (← timeFunction name)
  | "CASE" => return some (← caseForm)
  | "CONVERT" => return some (← convertForm)
  | "TRY_CONVERT" =>
    if ← supports Dialect.triesConversions then return some (← convertForm)
    return none
  | "CAST" | "TRY_CAST" | "SAFE_CAST" => return some (← castForm)
  | "EXISTS" =>
    if (← dialect) == .databricks && !(["SELECT", "WITH"].contains (← peekAt 1).token.keyword) then
      return none
    return some (← existsForm)
  | "EXTRACT" => return some (← extractForm)
  | "CEIL" | "FLOOR" => return some (← roundForm)
  | "POSITION" =>
    if ← sees .lparen then return some (← positionForm name)
    return none
  | "SUBSTRING" => return some (← substringForm)
  | "OVERLAY" => return some (← overlayForm)
  | "TRIM" => return some (← trimForm)
  | "INTERVAL" => return some (← interval)
  | "ARRAY" =>
    if ← symbol .lbracket then return some (← arrayElements)
    if ← sees .lparen <&&> notM (inDialect [.clickhouse, .databricks]) then
      return some (.call [name] .none (.query (← parens query)) [])
    return none
  | "NOT" => return some (← notForm)
  | "MATCH" =>
    if ← inDialect [.mysql, .generic] then return some (← matchForm)
    return none
  | "STRUCT" =>
    if ← supports Dialect.hasStructs then return some (← withSteps (← structForm) [])
    return none
  | "PRIOR" =>
    if (← get).hierarchical then return some (.operation [← exprAbove .sum])
    return none
  | "MAP" =>
    if ← sees .lbrace <&&> supports Dialect.hasMaps then return some (← mapForm)
    return none
  | _ => return none

/-- Method calls behind a value. -/
def methods (root : Expr) : Parser Expr := do
  if (← dialect) != .mssql then return root
  let chain ← maybe do
    let calls ← many (when? (symbol .period) do
      let lexeme ← next
      match lexeme.token with
      | .word w => callOf [identOf w]
      | _ => expected "identifier" lexeme)
    if calls.isEmpty then expectedNext "function"
    return calls
  match chain with
  | some calls =>
    return .operation (root :: calls.flatMap fun
      | .call _ parameters args clauses =>
        argumentExprs parameters ++ argumentExprs args ++ clauses
      | other => [other])
  | none => return root

/-- A word that is a name: a call if arguments follow, and a column otherwise. -/
def nameForm (w : Word) : Parser Expr := do
  let name := identOf w
  match (← peek).token with
  | .symbol .period => withSteps (.name [name]) []
  | .symbol .lparen =>
    if ← seesOuterJoin then withSteps (.name [name]) []
    else withSteps (← methods (← callOf [name])) []
  | .symbol .lbracket =>
    if ← supports Dialect.hasSubscripts then withSteps (.name [name]) (← subscripts)
    else return .name [name]
  | .symbol .arrow =>
    if ← supports Dialect.hasLambdas then
      skip
      return .operation [← expr]
    return .name [name]
  | .text kind _ =>
    if w.text.startsWith "_" && (kind == .plain || kind == .doubleQuoted || kind == .hexadecimal)
    then
      skip
      return .literal
    return .name [name]
  | _ => return .name [name]

/-- What a word begins, and whether nothing else belongs to it; the word is taken already. A word
whose special form fails is a name that stands for itself. -/
def wordForm (w : Word) : Parser (Expr × Bool) := do
  let start ← get
  match ← attempt (keywordForm w) with
  | .ok (some form) => return (form, false)
  | .ok none => return (← nameForm w, false)
  | .error error =>
    set start
    if !(← supports fun dialect => dialect.reservesWord w.keyword) then
      if let some form ← attempt? (nameForm w) then return (form, true)
      set start
    throw error

/-! ## Other operands -/

/-- A function of several parameters, up to the end of its body. -/
def lambda : Parser Expr := do
  let _ ← commaSeparated identifier
  expectSymbol .rparen
  expectSymbol .arrow
  return .operation [← expr]

/-- The value between parentheses, up to the closing one; the opening one is taken already. -/
def parenForm : Parser Expr := do
  let inner ←
    if ← seesQuery then pure (Expr.query (← query))
    else
      match ← exprs with
      | [item] => pure (Expr.operation [item])
      | items => pure (Expr.tuple items)
  expectSymbol .rparen
  let inner ← methods inner
  if ← symbol .period then
    let lexeme ← next
    match lexeme.token with
    | .word _ => return .operation [inner]
    | token => failed ("Expected identifier, found: " ++ token.spelling) lexeme.position
  return inner

/-- What an opening parenthesis begins, and whether nothing else belongs to it; the parenthesis is
taken already. -/
def parenOrLambda : Parser (Expr × Bool) := do
  if ← supports Dialect.hasLambdas <&&> notM seesQuery then
    if let some function ← maybe lambda then return (function, true)
  return (← parenForm, false)

/-- What an opening brace begins; the brace is `brace` and taken already. -/
def braceForm (brace : Lexeme) : Parser Expr := do
  let call ← maybe do
    expectKeyword "FN"
    callOf (← objectName)
  match call with
  | some call =>
    expectSymbol .rbrace
    return call
  | none =>
    if ← supports Dialect.hasDictionaries then
      back
      dictionaryForm
    else expected "an expression" brace

/-- A literal that begins with the name of its type. -/
def typedLiteral : Parser Expr := do
  match (← typeName).kind with
  | .interval => interval
  | .custom => failed "dummy" (← peek).position
  | .other =>
    let _ ← literalText
    return .literal

/-- An operand, and whether nothing else belongs to it. -/
def plainOperand : Parser (Expr × Bool) := do
  let lexeme ← next
  let dialect ← dialect
  let begun (p : Parser Expr) : Parser (Expr × Bool) := return (← p, false)
  let unknown : Parser (Expr × Bool) := expected "an expression" lexeme
  let valueForm : Parser (Expr × Bool) := begun do
    back
    let _ ← value
    return .literal
  match lexeme.token with
  | .word w => wordForm w
  | .text .escaped _ => if dialect.hasEscapeStrings then begun (return .literal) else unknown
  | .number _ _ | .text _ _ | .tripleText _ _ | .dollarText _ _ => begun (return .literal)
  | .placeholder _ | .symbol .colon => valueForm
  | .symbol .atSign =>
    if dialect == .postgresql then begun (return .operation [← exprAbove .sum]) else valueForm
  | .symbol .lbracket => begun arrayElements
  | .symbol .minus | .symbol .plus => begun (return .operation [← exprAbove .product])
  | .symbol .bang =>
    if dialect.bangNegates then begun (return .operation [← exprAbove .not]) else unknown
  | .symbol .doubleBang | .symbol .squareRoot | .symbol .cubeRoot | .symbol .tilde =>
    if dialect == .postgresql then begun (return .operation [← exprAbove .sum]) else unknown
  | .symbol .lparen => parenOrLambda
  | .symbol .lbrace => begun (braceForm lexeme)
  | _ => unknown

/-- An expression without operators behind it. -/
def operandRule : Parser Expr := do
  if let .word _ := (← peek).token then
    if let some typed ← maybe typedLiteral then return typed
  let (root, complete) ← plainOperand
  if complete then return root
  let root ← methods root
  if ← keyword "COLLATE" then
    let _ ← objectName
    return .operation [root]
  return root

end Parser

end Grammar

end SqlLineage
