import SqlLineage.Grammar.Dialect
import SqlLineage.Grammar.Tokenize

/-!
# Parsers over tokens

A parser reads the tokens of a text and moves a cursor over them, and either gives a value or fails.
A failing parser leaves the cursor where it failed; an alternative to it either starts where the
failed attempt did, or goes on from there. The cursor also carries how many more levels of nesting
are allowed.
-/

namespace SqlLineage

namespace Grammar

/-- Why a text is not a list of statements. -/
inductive ParseError
  /-- The text is not a list of tokens. -/
  | token (fault : TokenFault) (position : Position)
  /-- Something else is expected in place of a token. -/
  | expected (what : String) (found : Token) (position : Position)
  /-- Any other reason, given in words. -/
  | other (reason : String) (position : Position)
  /-- The text is nested too deeply. -/
  | tooDeep
deriving DecidableEq, Repr

namespace ParseError

/-- The message for a reader of the text. -/
def message : ParseError → String
  | token fault position => "sql parser error: " ++ fault.message ++ position.suffix
  | expected what found position =>
    "sql parser error: Expected: " ++ what ++ ", found: " ++ found.spelling ++ position.suffix
  | other reason position => "sql parser error: " ++ reason ++ position.suffix
  | tooDeep => "sql parser error: recursion limit exceeded"

end ParseError

/-- What is parsed: tokens, and the dialect they are in. -/
structure Source where
  /-- The dialect. -/
  dialect : Dialect
  /-- The tokens, without blanks and comments, ended by the end of the input. -/
  tokens : Array Lexeme

/-- Where a parser stands. -/
structure Cursor where
  /-- The index of the next token; it may lie beyond the end. -/
  index : Nat
  /-- How many more levels of nesting are allowed. -/
  depth : Nat
  /-- Whether the conditions of a hierarchy are being read. -/
  hierarchical : Bool

/-- A parser that gives an `α`. -/
abbrev Parser := ReaderT Source (ExceptT ParseError (StateM Cursor))

namespace Parser

/-! ## Failing and trying -/

/-- Fails because `what` is expected in place of `found`. -/
def expected {α : Type} (what : String) (found : Lexeme) : Parser α :=
  throw (.expected what found.token found.position)

/-- Fails for a reason given in words. -/
def failed {α : Type} (reason : String) (position : Position) : Parser α :=
  throw (.other reason position)

/-- The value of `p`, or nothing if it fails; then nothing is taken. Excessive nesting is still a
failure. -/
def maybe {α : Type} (p : Parser α) : Parser (Option α) := do
  let start ← get
  tryCatch (do return some (← p)) fun
    | .tooDeep => throw .tooDeep
    | _ => do
      set start
      return none

/-- The value of `p`, or the reason why it fails; what it took before it failed stays taken. -/
def attempt {α : Type} (p : Parser α) : Parser (Except ParseError α) := do
  let start ← get
  tryCatch (do return .ok (← p)) fun error => do
    modify fun cursor => { start with index := cursor.index }
    return .error error

/-- The value of `p`, or nothing if it fails; what it took before it failed stays taken. -/
def attempt? {α : Type} (p : Parser α) : Parser (Option α) :=
  return (← attempt p).toOption

/-- One level of nesting around `p`. -/
def deeper {α : Type} (p : Parser α) : Parser α := do
  let depth := (← get).depth
  if depth = 0 then throw .tooDeep
  modify fun cursor => { cursor with depth := depth - 1 }
  let value ← p
  modify fun cursor => { cursor with depth }
  return value

/-- The value of `p`, read with or without the words that only a hierarchy knows. -/
def withHierarchy {α : Type} (hierarchical : Bool) (p : Parser α) : Parser α := do
  let before := (← get).hierarchical
  modify fun cursor => { cursor with hierarchical }
  let value ← p
  modify fun cursor => { cursor with hierarchical := before }
  return value

/-- The dialect of the text. -/
def dialect : Parser Dialect :=
  return (← read).dialect

/-- Whether the dialect is one of those given. -/
def inDialect (dialects : List Dialect) : Parser Bool :=
  return dialects.contains (← read).dialect

/-- Whether the dialect satisfies `feature`. -/
def supports (feature : Dialect → Bool) : Parser Bool :=
  return feature (← read).dialect

/-! ## Tokens -/

/-- What stands behind the last token. -/
def endOfInput : Lexeme :=
  ⟨.eof, .none, none⟩

/-- The token that lies `ahead` tokens after the next one. -/
def peekAt (ahead : Nat) : Parser Lexeme :=
  return (← read).tokens[(← get).index + ahead]?.getD endOfInput

/-- The next token. -/
def peek : Parser Lexeme :=
  peekAt 0

/-- Moves over the next token. -/
def skip : Parser Unit :=
  modify fun cursor => { cursor with index := cursor.index + 1 }

/-- Moves back over the last token. -/
def back : Parser Unit :=
  modify fun cursor => { cursor with index := cursor.index - 1 }

/-- Takes the next token. -/
def next : Parser Lexeme := do
  let lexeme ← peek
  skip
  return lexeme

/-- The last token taken. -/
def last : Parser Lexeme :=
  return (← read).tokens[(← get).index - 1]?.getD endOfInput

/-- Fails because `what` is expected in place of the next token. -/
def expectedNext {α : Type} (what : String) : Parser α := do
  expected what (← peek)

/-- Whether the tokens ahead are the given symbols. -/
def seesSymbols (symbols : List Symbol) : Parser Bool := do
  let tokens := (← read).tokens
  let index := (← get).index
  return symbols.zipIdx.all fun (symbol, i) =>
    match tokens[index + i]? with
    | some lexeme => lexeme.token == .symbol symbol
    | none => false

/-- Whether the next token is a symbol. -/
def sees (symbol : Symbol) : Parser Bool :=
  return (← peek).token == .symbol symbol

/-- Takes the given symbols if they are next. -/
def symbols (expected : List Symbol) : Parser Bool := do
  if ← seesSymbols expected then
    modify fun cursor => { cursor with index := cursor.index + expected.length }
    return true
  return false

/-- Takes a symbol if it is next. -/
def symbol (expected : Symbol) : Parser Bool := do
  if ← sees expected then
    skip
    return true
  return false

/-- Takes a symbol that has to be next. -/
def expectSymbol (symbol : Symbol) : Parser Unit := do
  if ← sees symbol then skip
  else expectedNext symbol.spelling

/-! ## Keywords -/

/-- Whether the next token is a keyword. -/
def seesKeyword (keyword : String) : Parser Bool :=
  return (← peek).token.keyword == keyword

/-- Whether the next tokens are the given keywords. -/
def seesKeywords (keywords : List String) : Parser Bool := do
  let tokens := (← read).tokens
  let index := (← get).index
  return keywords.zipIdx.all fun (keyword, i) =>
    match tokens[index + i]? with
    | some lexeme => lexeme.token.keyword == keyword
    | none => false

/-- Which of the given keywords is next. -/
def seesAnyKeyword (keywords : List String) : Parser (Option String) := do
  let keyword := (← peek).token.keyword
  return if keywords.contains keyword then some keyword else none

/-- Takes a keyword if it is next. -/
def keyword (expected : String) : Parser Bool := do
  if ← seesKeyword expected then
    skip
    return true
  return false

/-- Takes the given keywords if they are next. -/
def keywords (expected : List String) : Parser Bool := do
  if ← seesKeywords expected then
    modify fun cursor => { cursor with index := cursor.index + expected.length }
    return true
  return false

/-- Takes one of the given keywords if one is next. -/
def anyKeyword (expected : List String) : Parser (Option String) := do
  match ← seesAnyKeyword expected with
  | some keyword =>
    skip
    return some keyword
  | none => return none

/-- Takes a keyword that has to be next. -/
def expectKeyword (keyword : String) : Parser Unit := do
  if ← seesKeyword keyword then skip
  else expectedNext keyword

/-- Takes keywords that have to be next. -/
def expectKeywords : List String → Parser Unit
  | [] => return ()
  | keyword :: keywords => do
    expectKeyword keyword
    expectKeywords keywords

/-- Takes one of several keywords, one of which has to be next. -/
def expectAnyKeyword (keywords : List String) : Parser String := do
  match ← anyKeyword keywords with
  | some keyword => return keyword
  | none => expectedNext ("one of " ++ " or ".intercalate keywords)

/-! ## Repetition -/

/-- Repeats `step` until it gives nothing, at most `limit` times. -/
def iterateUpTo {α : Type} (step : α → Parser (Option α)) (limit : Nat) (value : α) : Parser α :=
  match limit with
  | 0 => return value
  | limit + 1 => do
    match ← step value with
    | some value => iterateUpTo step limit value
    | none => return value

/-- Repeats `step` until it gives nothing. Every step but the last takes a token, so no more steps
than tokens are possible. -/
def iterate {α : Type} (step : α → Parser (Option α)) (value : α) : Parser α := do
  iterateUpTo step ((← read).tokens.size + 2) value

/-- The values of `p` until it gives nothing. -/
def many {α : Type} (p : Parser (Option α)) : Parser (List α) := do
  let taken ← iterate (fun taken => do return (← p).map (· :: taken)) []
  return taken.reverse

/-- The values of `p`, one or more, as long as `more` says that another one follows. -/
def manyWhile {α : Type} (p : Parser α) (more : Parser Bool) : Parser (List α) := do
  let first ← p
  let others ← many do
    if ← more then return some (← p)
    return none
  return first :: others

/-- The words that end a list behind a comma, since they begin a clause. -/
def clauseWords : List String :=
  ["WITH", "EXPLAIN", "ANALYZE", "SELECT", "WHERE", "GROUP", "SORT", "HAVING", "ORDER", "TOP",
    "LATERAL", "VIEW", "LIMIT", "OFFSET", "FETCH", "UNION", "EXCEPT", "INTERSECT", "MINUS",
    "CLUSTER", "DISTRIBUTE", "RETURNING", "FROM", "INTO", "END"]

/-- Whether a token, or one of the given words, ends a list behind a comma. -/
def endsList (words : List String) : Token → Bool
  | .word w => words.contains w.keyword
  | .symbol s => s == .rparen || s == .semicolon || s == .rbracket || s == .rbrace
  | .eof => true
  | _ => false

/-- Takes the comma in front of another member of a list; if `trailing`, a comma may also end the
list in front of one of the given words. -/
def separator (trailing : Bool) (words : List String) : Parser Bool := do
  if ← symbol .comma then return !(trailing && endsList words (← peek).token)
  return false

/-- Members separated by commas, one or more; a comma may end the list if `trailing`. -/
def commaSeparatedWith {α : Type} (trailing : Bool) (p : Parser α) : Parser (List α) :=
  manyWhile p (separator trailing clauseWords)

/-- Members separated by commas, one or more. -/
def commaSeparated {α : Type} (p : Parser α) : Parser (List α) := do
  commaSeparatedWith (← supports Dialect.allowsTrailingCommas) p

/-- Members separated by commas in front of `closing`, none or more. -/
def commaSeparatedBefore {α : Type} (closing : Symbol) (p : Parser α) : Parser (List α) := do
  if ← sees closing then return []
  if (← supports Dialect.allowsTrailingCommas) && (← seesSymbols [.comma, closing]) then
    skip
    return []
  commaSeparated p

/-- What `p` reads between parentheses. -/
def parens {α : Type} (p : Parser α) : Parser α := do
  expectSymbol .lparen
  let value ← p
  expectSymbol .rparen
  return value

/-- The value of `p` if `test` holds. -/
def when? {α : Type} (test : Parser Bool) (p : Parser α) : Parser (Option α) := do
  if ← test then return some (← p)
  return none

/-- The values of `p` if `test` holds, and none otherwise. -/
def whenList {α : Type} (test : Parser Bool) (p : Parser (List α)) : Parser (List α) := do
  if ← test then p
  else return []

end Parser

end Grammar

end SqlLineage
