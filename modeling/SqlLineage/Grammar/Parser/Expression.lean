import SqlLineage.Grammar.Parser.Operand

/-!
# Expressions

An operand is followed by operators, each of which is taken only if it binds more tightly than what
stands in front of the operand.
-/

namespace SqlLineage

namespace Grammar

namespace Parser

/-! ## Operators -/

/-- The strength of the operator that may be next, `0` for none. -/
def nextStrength : Parser Nat := do
  let dialect ← dialect
  let token := (← peek).token
  let strength := fun binding => dialect.strength binding
  let following := (← peekAt 1).token.keyword
  match token with
  | .word w =>
    match w.keyword with
    | "COLLATE" => return if dialect == .postgresql then 120 else 0
    | "OR" => return strength .or
    | "AND" => return strength .and
    | "XOR" => return strength .xor
    | "AT" =>
      if following == "TIME" && (← peekAt 2).token.keyword == "ZONE" then return strength .timeZone
      return 0
    | "NOT" =>
      match following with
      | "IN" | "BETWEEN" => return strength .between
      | "LIKE" | "ILIKE" | "RLIKE" | "REGEXP" | "SIMILAR" => return strength .like
      | _ => return 0
    | "IS" => return strength .is
    | "IN" | "BETWEEN" | "OVERLAPS" | "OPERATOR" => return strength .between
    | "LIKE" | "ILIKE" | "RLIKE" | "REGEXP" | "SIMILAR" => return strength .like
    | "DIV" => return strength .product
    | _ => return 0
  | .operator _ => return strength .other
  | .symbol s =>
    match s with
    | .colon => return if dialect == .snowflake then strength .doubleColon else 0
    | .lbracket => return if dialect == .postgresql then 130 else strength .doubleColon
    | .eq | .lt | .ltEq | .neq | .gt | .gtEq | .doubleEq | .spaceship | .tilde | .tildeStar
    | .bangTilde | .bangTildeStar | .doubleTilde | .doubleTildeStar | .bangDoubleTilde
    | .bangDoubleTildeStar => return strength .equality
    | .pipe => return strength .pipe
    | .caret => return strength .caret
    | .sharp | .shiftLeft | .shiftRight =>
      return strength (if dialect == .postgresql then .other else .caret)
    | .ampersand => return strength .ampersand
    | .plus | .minus => return strength .sum
    | .star | .slash | .doubleSlash | .percent => return strength .product
    | .concat => return strength (if dialect == .postgresql then .other else .product)
    | .doubleColon => return strength .doubleColon
    | .bang | .caretAt | .overlap =>
      return strength (if dialect == .postgresql then .other else .doubleColon)
    | .arrow | .longArrow | .hashArrow | .hashLongArrow | .atArrow | .arrowAt | .hashMinus
    | .atQuestion | .atAt | .question | .questionAnd | .questionPipe => return strength .other
    | _ => return 0
  | _ => return 0

/-- Whether a symbol joins two operands in a dialect. -/
def joins (dialect : Dialect) : Symbol → Bool
  | .spaceship | .doubleEq | .eq | .neq | .gt | .gtEq | .lt | .ltEq | .plus | .minus | .star
  | .percent | .concat | .pipe | .caret | .ampersand | .slash | .tilde | .tildeStar | .bangTilde
  | .bangTildeStar | .doubleTilde | .doubleTildeStar | .bangDoubleTilde | .bangDoubleTildeStar
  | .arrow | .longArrow | .hashArrow | .hashLongArrow | .atArrow | .arrowAt | .hashMinus
  | .atQuestion | .atAt | .question | .questionAnd | .questionPipe => true
  | .doubleSlash => [Dialect.duckdb, .generic].contains dialect
  | .shiftLeft | .shiftRight => [Dialect.postgresql, .duckdb, .generic].contains dialect
  | .sharp => dialect == .postgresql
  | .overlap | .caretAt => [Dialect.postgresql, .generic].contains dialect
  | _ => false

/-- Whether a symbol compares two operands. -/
def compares : Token → Bool
  | .symbol s => [Symbol.gt, .lt, .gtEq, .ltEq, .eq, .doubleEq, .neq].contains s
  | _ => false

/-- How a message names a token that joins nothing. -/
def tokenName : Token → String
  | .word w =>
    let quote := match w.quote with
      | none => "None"
      | some c => "Some('" ++ String.singleton c ++ "')"
    "Word(Word \x7b value: \"" ++ w.text ++ "\", quote_style: " ++ quote ++ ", keyword: " ++
      (if w.keyword == "" then "NoKeyword" else w.keyword) ++ " \x7d)"
  | .symbol s =>
    match s with
    | .sharp => "Sharp"
    | .shiftLeft => "ShiftLeft"
    | .shiftRight => "ShiftRight"
    | .overlap => "Overlap"
    | .caretAt => "CaretAt"
    | .bang => "ExclamationMark"
    | .lbracket => "LBracket"
    | .doubleSlash => "DuckIntDiv"
    | .colon => "Colon"
    | _ => "Period"
  | _ => "EOF"

/-- The operator that `OPERATOR(...)` names, behind its keyword; gives how it is written. -/
def qualifiedOperator : Parser String := do
  let parts ← parens (manyWhile next (symbol .period))
  return "OPERATOR(" ++ ".".intercalate (parts.map (·.token.spelling)) ++ ")"

/-- The escape character of a pattern, or nothing. -/
def optionalEscape : Parser Unit := do
  if ← keyword "ESCAPE" then
    let _ ← literalText

/-- What `IS` tests, unless it compares with another expression. -/
def isTest : Parser Bool := do
  if ← keyword "NULL" then return true
  if ← keywords ["NOT", "NULL"] then return true
  if ← keyword "TRUE" then return true
  if ← keywords ["NOT", "TRUE"] then return true
  if ← keyword "FALSE" then return true
  if ← keywords ["NOT", "FALSE"] then return true
  if ← keyword "UNKNOWN" then return true
  keywords ["NOT", "UNKNOWN"]

variable [Rules]

/-- The operand behind a binary operator, which may compare with all or any values of a list; `name`
is how the operator is written. -/
def rightOperand (strength : Nat) (operator : Lexeme) (name : String) : Parser Expr := do
  match ← anyKeyword ["ANY", "ALL", "SOME"] with
  | some _ =>
    expectSymbol .lparen
    let right ←
      if ← seesQuery then
        back
        Rules.expr strength
      else
        let right ← Rules.expr strength
        expectSymbol .rparen
        pure right
    if !compares operator.token then
      failed ("Expected one of [=, >, <, =>, =<, !=] as comparison operator, found: " ++ name)
        operator.position
    return .operation [right]
  | none => Rules.expr strength

/-- The list or query behind `IN`. -/
def inOperand : Parser (List Expr) := do
  if ← keyword "UNNEST" then return [← parenExpr]
  parens do
    if ← seesQuery then return [.query (← query)]
    if ← supports Dialect.allowsEmptyIn then commaSeparatedBefore .rparen expr
    else exprs

/-- The test behind a value: in a list, between bounds, or like a pattern. -/
def membership (root : Expr) : Parser Expr := do
  let _ ← keyword "NOT"
  let first ← keyword "REGEXP"
  let second ← keyword "RLIKE"
  if first || second then return .operation [root, ← exprAbove .like]
  if ← keyword "IN" then return .operation (root :: (← inOperand))
  if ← keyword "BETWEEN" then
    let low ← exprAbove .between
    expectKeyword "AND"
    return .operation [root, low, ← exprAbove .between]
  if ← keyword "LIKE" <||> keyword "ILIKE" then
    let _ ← keyword "ANY"
    let pattern ← exprAbove .like
    optionalEscape
    return .operation [root, pattern]
  if ← keywords ["SIMILAR", "TO"] then
    let pattern ← exprAbove .like
    optionalEscape
    return .operation [root, pattern]
  expectedNext "IN or BETWEEN after NOT"

/-- The test behind `IS`. -/
def isOperand (root : Expr) : Parser Expr := do
  if ← isTest then return .operation [root]
  if ← keywords ["DISTINCT", "FROM"] then return .operation [root, ← expr]
  if ← keywords ["NOT", "DISTINCT", "FROM"] then return .operation [root, ← expr]
  let _ ← keyword "NOT"
  let _ ← anyKeyword ["NFC", "NFD", "NFKC", "NFKD"]
  if ← keyword "NORMALIZED" then return .operation [root]
  expectedNext "[NOT] NULL | TRUE | FALSE | DISTINCT | [form] NORMALIZED FROM after IS"

/-- The key of a step into a document. -/
def pathKey : Parser Unit := do
  let lexeme ← next
  match lexeme.token with
  | .word w =>
    if w.quote == none || w.quote == some '"' then return ()
    expected "variant object key name" lexeme
  | .text .doubleQuoted _ => return ()
  | _ => expected "variant object key name" lexeme

/-- A step into a document. -/
def pathStep (taken : List Expr × Bool) : Parser (Option (List Expr × Bool)) := do
  let (keys, begun) := taken
  if ← pure !begun <&&> symbol .colon then
    pathKey
    return some (keys, true)
  if ← pure begun <&&> symbol .period then
    pathKey
    return some (keys, true)
  if ← symbol .lbracket then
    let key ← expr
    expectSymbol .rbracket
    return some (key :: keys, true)
  return none

/-- Steps into a document. -/
def pathOf (root : Expr) : Parser Expr := do
  let (keys, _) ← iterate pathStep ([], false)
  return .operation (root :: keys.reverse)

/-- The expression that `left` and the operator behind it begin. -/
def operatorForm (left : Expr) (strength : Nat) : Parser Expr := do
  let dialect ← dialect
  if ← pure (dialect == .mysql) <&&> keyword "DIV" then return .operation [left, ← expr]
  let operator ← next
  let unknown : Parser Expr :=
    failed ("No infix parser for token " ++ tokenName operator.token) operator.position
  match operator.token with
  | .operator name => return .operation [left, ← rightOperand strength operator name]
  | .word w =>
    match w.keyword with
    | "AND" | "OR" | "XOR" | "OVERLAPS" =>
      return .operation [left, ← rightOperand strength operator w.keyword]
    | "OPERATOR" =>
      if dialect == .postgresql || dialect == .generic then
        let name ← qualifiedOperator
        return .operation [left, ← rightOperand strength operator name]
      unknown
    | "IS" => isOperand left
    | "AT" =>
      expectKeywords ["TIME", "ZONE"]
      return .operation [left, ← Rules.expr strength]
    | "NOT" | "IN" | "BETWEEN" | "LIKE" | "ILIKE" | "SIMILAR" | "REGEXP" | "RLIKE" =>
      back
      membership left
    | _ => unknown
  | .symbol s =>
    if joins dialect s then
      let right ← rightOperand strength operator s.spelling
      return if s == .eq || s == .doubleEq then .equality left right
        else .operation [left, right]
    match s with
    | .doubleColon =>
      let _ ← typeName
      return .operation [left]
    | .bang => if dialect.hasFactorial then return .operation [left] else unknown
    | .lbracket =>
      back
      if dialect.hasSubscripts then withSteps left (← subscripts)
      else if dialect.hasPaths then pathOf left
      else failed "Array subscripting is not supported" operator.position
    | .colon =>
      if dialect == .snowflake then
        back
        pathOf left
      else unknown
    | _ => unknown
  | _ => unknown

/-- Takes one operator that binds more tightly than `strength`, and what belongs to it. -/
def operatorStep (strength : Nat) (left : Expr) : Parser (Option Expr) := do
  let following ← nextStrength
  if following ≤ strength then return none
  return some (← operatorForm left following)

/-- An expression whose operators bind more tightly than `strength`. -/
def exprRule (strength : Nat) : Parser Expr := deeper do
  let root ← operandRule
  iterate (operatorStep strength) root

end Parser

end Grammar

end SqlLineage
