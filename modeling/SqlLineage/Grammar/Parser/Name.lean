import SqlLineage.Grammar.Keyword
import SqlLineage.Grammar.Syntax
import SqlLineage.Grammar.Parser.Basic

/-!
# Names and aliases

Any word can be part of a name, and so can a quoted text. An alias without `AS` must not be a word
that could begin the next clause.
-/

namespace SqlLineage

namespace Grammar

namespace Ident

/-- A text in which each quote is doubled, unless it is doubled already or stands behind a
backslash; `previous` is the character in front of the text. -/
def escapeQuotes (quote previous : Char) : List Char → List Char
  | [] => []
  | [c] => if c = quote && previous ≠ '\\' then [c, c] else [c]
  | c :: d :: cs =>
    if c = quote then
      if previous = '\\' then c :: escapeQuotes quote previous (d :: cs)
      else if d = quote then c :: d :: escapeQuotes quote c cs
      else c :: c :: escapeQuotes quote c (d :: cs)
    else c :: escapeQuotes quote c (d :: cs)

/-- The part of a name as it is written, with its quotes. -/
def spelling (ident : Ident) : String :=
  match ident.quote with
  | none => ident.value
  | some '[' => "[" ++ ident.value ++ "]"
  | some quote =>
    let inner := escapeQuotes quote '\x00' ident.value.toList
    String.ofList (quote :: inner ++ [quote])

end Ident

/-- A name as it is written. -/
def ObjectName.spelling (name : ObjectName) : String :=
  ".".intercalate (name.map Ident.spelling)

namespace Parser

/-- A word as a name. -/
def identOf (word : Word) : Ident :=
  ⟨word.text, word.quote⟩

/-- The name that a token is, if it is one. -/
def ident? : Token → Option Ident
  | .word w => some (identOf w)
  | .text .plain s => some ⟨s, some '\''⟩
  | .text .doubleQuoted s => some ⟨s, some '"'⟩
  | _ => none

/-- A name of one part. -/
def identifier : Parser Ident := do
  let lexeme ← next
  match ident? lexeme.token with
  | some ident => return ident
  | none => expected "identifier" lexeme

/-! ## Names of several parts -/

/-- The digits of a number that ends with a period. -/
def hyphenatedDigits? (digits : String) : Option String :=
  let whole := (digits.toList.takeWhile (· != '.'))
  if !whole.isEmpty && whole.all Text.isAsciiDigit then some (String.ofList whole) else none

/-- What follows the hyphens of a name: the text, whether a period ended it, and whether its last
part is a number. -/
structure Hyphenated where
  /-- The name so far. -/
  text : String
  /-- Whether the period behind the name is taken already. -/
  closed : Bool
  /-- Whether the last part is a number that no period follows. -/
  numeric : Bool

/-- Takes one hyphen and what follows it. -/
def hyphenPart (name : Hyphenated) : Parser (Option Hyphenated) := do
  let hyphen ← peek
  if name.closed || hyphen.isSpaced || hyphen.token != .symbol .minus then return none
  skip
  let lexeme ← next
  if let some gap := lexeme.gap then
    failed ("Expected: continuation of hyphenated identifier, found: " ++ gap.text) gap.position
  match lexeme.token with
  | .word w =>
    if w.quote.isSome then expected "continuation of hyphenated identifier" lexeme
    else return some ⟨name.text ++ "-" ++ w.text, false, false⟩
  | .number digits false =>
    if digits.endsWith "." then
      match hyphenatedDigits? digits with
      | some whole => return some ⟨name.text ++ "-" ++ whole, true, false⟩
      | none => expected "continuation of hyphenated identifier" lexeme
    else return some ⟨name.text ++ "-" ++ digits, false, !(← sees .period)⟩
  | _ => expected "continuation of hyphenated identifier" lexeme

/-- A part of a table name that may hold hyphens, and whether the period behind it is taken. -/
def hyphenatedIdentifier : Parser (Ident × Bool) := do
  match (← peek).token with
  | .word w =>
    skip
    if w.quote.isSome then return (identOf w, false)
    let name ← iterate hyphenPart ⟨w.text, false, false⟩
    if name.numeric then
      let lexeme ← next
      if lexeme.token != .eof then expected "whitespace following hyphenated identifier" lexeme
    return (⟨name.text, none⟩, name.closed)
  | _ => return (← identifier, false)

/-- The parts of a table name that may hold hyphens. -/
def hyphenatedName : Parser (List Ident) := do
  let (first, closed) ← hyphenatedIdentifier
  let (parts, _) ← iterate (fun (parts, closed) => do
      if ← symbol .period <||> pure closed then
        let (part, closed) ← hyphenatedIdentifier
        return some (part :: parts, closed)
      return none)
    ([first], closed)
  return parts.reverse

/-- The parts of a name, of which each may be a star if `wildcards`; where the dialect allows it, two
periods leave the schema out. -/
def periodName (wildcards : Bool) : Parser (List Ident) := do
  let part : Parser Ident := do
    if ← pure wildcards <&&> symbol .star then return ⟨"*", none⟩
    identifier
  let first ← part
  let parts ← iterate (fun parts => do
      if ← symbol .period then
        if ← pure (parts.length == 1) <&&> inDialect [.snowflake] <&&> symbol .period then
          return some ((← identifier) :: ⟨"", none⟩ :: parts)
        return some ((← part) :: parts)
      return none)
    [first]
  return parts.reverse

/-- The parts of a name of which some hold periods inside quotes. -/
def splitParts (parts : List Ident) : List Ident :=
  parts.flatMap fun part => (part.value.splitOn ".").map fun value => ⟨value, part.quote⟩

/-- A name of one or more parts; a name in `FROM` may hold hyphens in some dialects. -/
def objectNameIn (inFrom : Bool) : Parser ObjectName := do
  if (← dialect) == .bigquery then
    let parts ← if inFrom then hyphenatedName else periodName false
    return splitParts parts
  periodName false

/-- A name of one or more parts. -/
def objectName : Parser ObjectName :=
  objectNameIn false

/-- A name of one or more parts, each of which may be a star. -/
def wildcardName : Parser Unit := do
  let _ ← periodName true

/-- Column names between parentheses. -/
def columnNames : Parser (List Ident) :=
  parens (commaSeparated identifier)

/-- Column names between parentheses, or nothing. -/
def optionalColumnNames : Parser (List Ident) :=
  whenList (sees .lparen) columnNames

/-- Column names between parentheses, possibly none. -/
def optionalColumnNamesOrNone : Parser (List Ident) := do
  if ← symbols [.lparen, .rparen] then return []
  optionalColumnNames

/-- Column names between parentheses, which have to be next. -/
def mandatoryColumnNames : Parser (List Ident) := do
  if ← sees .lparen then columnNames
  else expectedNext "a list of columns in parentheses"

/-- Names of columns and their tables between parentheses, which have to be next. -/
def mandatoryQualifiedNames : Parser (List ObjectName) := do
  if ← sees .lparen then parens (commaSeparated objectName)
  else expectedNext "a list of columns in parentheses"

/-! ## Aliases -/

/-- The words that are no alias of a table unless `AS` stands in front of them. -/
def tableAliasReserved : List String :=
  ["WITH", "EXPLAIN", "ANALYZE", "SELECT", "WHERE", "GROUP", "SORT", "HAVING", "ORDER", "PIVOT",
    "UNPIVOT", "TOP", "LATERAL", "VIEW", "LIMIT", "OFFSET", "FETCH", "UNION", "EXCEPT",
    "INTERSECT", "MINUS", "ON", "JOIN", "INNER", "CROSS", "FULL", "LEFT", "RIGHT", "NATURAL",
    "USING", "CLUSTER", "DISTRIBUTE", "GLOBAL", "ANTI", "SEMI", "RETURNING", "OUTER", "SET",
    "QUALIFY", "WINDOW", "END", "FOR", "PARTITION", "PREWHERE", "SETTINGS", "FORMAT", "START",
    "CONNECT", "MATCH_RECOGNIZE", "SAMPLE", "TABLESAMPLE", "FROM"]

/-- The words in place of a table that end the list of tables. -/
def tableReserved : List String :=
  ["INTO", "LIMIT", "HAVING", "WHERE"]

/-- An alias; without `AS` in front of it, a bare word has to satisfy `allowed`. -/
def aliasWhere (allowed : Word → Parser Bool) : Parser (Option Ident) := do
  let explicit ← keyword "AS"
  let lexeme ← next
  match lexeme.token with
  | .word w =>
    if explicit then return some (identOf w)
    if ← allowed w then return some (identOf w)
    back
    return none
  | token =>
    match ident? token with
    | some ident => return some ident
    | none =>
      if explicit then expected "an identifier after AS" lexeme
      back
      return none

/-- Whether a word without `AS` is the alias of a column; the next token is the one behind it. -/
def isColumnAlias (word : Word) : Parser Bool := do
  if (← dialect) != .snowflake then return !clauseWords.contains word.keyword
  match word.keyword with
  | "EXCEPT" | "LIMIT" | "OFFSET" | "RETURNING" =>
    let token := (← peek).token
    return token == .symbol .comma || token == .eof
  | "FETCH" => return !((← seesKeyword "FIRST") || (← seesKeyword "NEXT"))
  | "FROM" | "GROUP" | "HAVING" | "INTERSECT" | "INTO" | "MINUS" | "ORDER" | "SELECT" | "UNION"
  | "WHERE" | "WITH" => return false
  | _ => return true

/-- The alias of a column. -/
def columnAlias : Parser (Option Ident) :=
  aliasWhere isColumnAlias

/-- An alias that is none of the reserved words. -/
def aliasExcept (reserved : List String) : Parser (Option Ident) :=
  aliasWhere fun word => return !reserved.contains word.keyword

end Parser

end Grammar

end SqlLineage
