import SqlLineage.Grammar.Parser.Command

/-!
# Statements

The first word of a statement decides which statement it is. The rules of the grammar refer to each
other through their next lower level; a text of `n` tokens cannot nest them deeper than a fixed
multiple of `n`, which is where the levels end.
-/

namespace SqlLineage

namespace Grammar

namespace Parser

section

variable [Rules]

/-- A statement that is a query; the first word is taken already. -/
def queryStatement : Parser Statement := do
  back
  return .query (← query)

/-- The creation of a stage or a table whose clauses stand in any order, behind `CREATE`. If another
object is created the parser goes back over as many words as `CREATE`, `OR REPLACE` and `TEMPORARY`
have; any other word that says how long the object lives stays taken. -/
def createStageOrTable : Parser (Option Statement) := do
  let replaces ← keywords ["OR", "REPLACE"]
  let _ ← anyKeyword ["LOCAL", "GLOBAL"]
  let lifetime ← anyKeyword ["TEMP", "TEMPORARY", "VOLATILE", "TRANSIENT"]
  if ← keyword "STAGE" then return some (← createStage)
  if ← keyword "TABLE" then return some (← createTableByClauses)
  back
  if replaces then
    back
    back
  if lifetime == some "TEMP" || lifetime == some "TEMPORARY" then back
  return none

/-- The name of an enumeration that is created. -/
def enumerationName : Parser Unit := do
  expectKeywords ["CREATE", "TYPE"]
  let _ ← objectName
  expectKeywords ["AS", "ENUM"]

/-- The statement that only some dialects begin in its way, or nothing. -/
def dialectStatement : Parser (Option Statement) := do
  match ← dialect with
  | .mysql =>
    if ← keywords ["LOCK", "TABLES"] then return some (← lockTables)
    if ← keywords ["UNLOCK", "TABLES"] then return some inert
    return none
  | .postgresql =>
    if (← maybe enumerationName).isSome then return some (← createEnumeration)
    return none
  | .sqlite =>
    if ← seesKeyword "REPLACE" then return some (← insert)
    return none
  | .snowflake =>
    if ← keyword "CREATE" then
      if let some statement ← createStageOrTable then return some statement
    if ← keywords ["COPY", "INTO"] then return some (← copyInto)
    if (← anyKeyword ["LIST", "LS", "REMOVE", "RM"]).isSome then return some (← stagedFiles)
    return none
  | _ => return none

/-- The statement that a word begins; the word is `lexeme` and taken already. -/
def statementFrom (word : String) (lexeme : Lexeme) : Parser Statement := do
  let unknown : Parser Statement := expected "an SQL statement" lexeme
  let given (test : Parser Bool) (p : Parser Statement) : Parser Statement := do
    if ← test then p else unknown
  match word with
  | "KILL" => kill
  | "FLUSH" => flush
  | "DESC" | "DESCRIBE" => explain true
  | "EXPLAIN" => explain false
  | "ANALYZE" => analyze
  | "SELECT" | "WITH" | "VALUES" => queryStatement
  | "TRUNCATE" => truncate
  | "ATTACH" => attach
  | "DETACH" => given (inDialect [.duckdb, .generic]) detach
  | "MSCK" => repair
  | "CREATE" => create
  | "CACHE" => cacheTable
  | "DROP" => drop
  | "DISCARD" => discard
  | "DECLARE" => declare
  | "FETCH" => fetchCursor
  | "DELETE" => delete
  | "INSERT" => insert
  | "REPLACE" => replaceStatement
  | "UNCACHE" => uncacheTable
  | "UPDATE" => update
  | "ALTER" => alter
  | "CALL" => call
  | "COPY" => copy
  | "CLOSE" => naming do
      if !(← keyword "ALL") then
        let _ ← identifier
  | "SET" => setStatement
  | "SHOW" => showStatement
  | "USE" => useStatement
  | "GRANT" => grant
  | "REVOKE" => revoke
  | "START" => naming do
      expectKeyword "TRANSACTION"
      transactionModes
  | "BEGIN" => beginTransaction
  | "END" => endTransaction
  | "SAVEPOINT" => naming do
      let _ ← identifier
  | "RELEASE" => naming do
      let _ ← keyword "SAVEPOINT"
      let _ ← identifier
  | "COMMIT" => naming optionalChain
  | "RAISERROR" => raiseError
  | "ROLLBACK" => rollback
  | "ASSERT" => assert
  | "DEALLOCATE" => naming do
      let _ ← keyword "PREPARE"
      let _ ← identifier
  | "EXECUTE" | "EXEC" => execute
  | "PREPARE" => prepare
  | "MERGE" => merge
  | "LISTEN" => given (supports Dialect.notifies) (naming do
      let _ ← identifier)
  | "UNLISTEN" => given (supports Dialect.notifies) unlisten
  | "NOTIFY" => given (supports Dialect.notifies) notify
  | "PRAGMA" => pragma
  | "UNLOAD" => unload
  | "INSTALL" => given (inDialect [.duckdb, .generic]) (naming do
      let _ ← identifier)
  | "LOAD" => load
  | "OPTIMIZE" => given (inDialect [.clickhouse, .generic]) optimize
  | "COMMENT" => given (supports Dialect.commentsOn) comment
  | "RENAME" => renameTables
  | _ => unknown

/-- A statement. -/
def statementRule : Parser Statement := deeper do
  if let some statement ← dialectStatement then return statement
  let lexeme ← next
  match lexeme.token with
  | .word w => statementFrom w.keyword lexeme
  | .symbol .lparen => queryStatement
  | _ => expected "an SQL statement" lexeme

end

/-- The rules behind the last level: they read nothing. -/
@[reducible] def noRules : Rules where
  expr _ := throw .tooDeep
  operand := throw .tooDeep
  query := throw .tooDeep
  body _ := throw .tooDeep
  statement := throw .tooDeep
  factor := throw .tooDeep
  typeName := throw .tooDeep
  column := throw .tooDeep

/-- The rules of a level, defined from those of the level below. -/
@[reducible] def rules : Nat → Rules
  | 0 => noRules
  | level + 1 =>
    { expr := fun strength source => @exprRule (rules level) strength source
      operand := fun source => @operandRule (rules level) source
      query := fun source =>
        @queryRule (rules level) (@insert (rules level)) (@update (rules level)) source
      body := fun strength source => @bodyRule (rules level) strength source
      statement := fun source => @statementRule (rules level) source
      factor := fun source => @factorRule (rules level) source
      typeName := fun source => @typeNameRule (rules level) source
      column := fun source => @columnRule (rules level) source }

/-- How many levels the rules may need for a text of `count` tokens: each token is met by at most
a few rules that refer to each other without taking it. -/
def levelsFor (count : Nat) : Nat :=
  16 * (count + 2)

end Parser

/-- The statements of a text in a dialect, where expressions, queries and statements may be nested
at most `limit` deep. -/
def parseStatements (dialect : Dialect) (limit : Nat) (text : String) :
    Except ParseError (List Statement) :=
  match tokenize dialect text with
  | .error (fault, position) => .error (.token fault position)
  | .ok tokens =>
    let parser := @Parser.statements (Parser.rules (Parser.levelsFor tokens.size))
    ((parser ⟨dialect, tokens⟩).run.run ⟨0, limit, false⟩).1

end Grammar

end SqlLineage
