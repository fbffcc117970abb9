import SqlLineage.Grammar.Parser.Alter
import SqlLineage.Text.Quoted

/-!
# Statements that move rows between tables and files

Rows are copied, loaded and unloaded; the files can be collected in a stage, which has a name of its
own form. The tables and files that are named are not kept, except for a stage whose files are
listed or removed.
-/

namespace SqlLineage

namespace Grammar

namespace Parser

/-! ## Copies -/

/-- A text of one byte. -/
def literalChar : Parser Unit := do
  let text ← literalText
  if text.utf8ByteSize ≠ 1 then
    failed ("Expect a char, found " ++ Text.quoted text) (← last).position

/-- An option of a copy. -/
def copyOption : Parser Unit := do
  match ← anyKeyword ["FORMAT", "FREEZE", "DELIMITER", "NULL", "HEADER", "QUOTE", "ESCAPE",
      "FORCE_QUOTE", "FORCE_NOT_NULL", "FORCE_NULL", "ENCODING"] with
  | some "FORMAT" =>
    let _ ← identifier
  | some "FREEZE" | some "HEADER" =>
    let _ ← anyKeyword ["TRUE", "FALSE"]
  | some "DELIMITER" | some "QUOTE" | some "ESCAPE" => literalChar
  | some "NULL" | some "ENCODING" =>
    let _ ← literalText
  | some _ =>
    let _ ← mandatoryColumnNames
  | none => expectedNext "option"

/-- An option of lines whose values are separated by commas. -/
def separatedOption : Parser Unit := do
  match ← anyKeyword ["HEADER", "QUOTE", "ESCAPE", "FORCE"] with
  | some "HEADER" => return ()
  | some "FORCE" =>
    if ← keywords ["NOT", "NULL"] <||> keyword "QUOTE" then
      let _ ← commaSeparated identifier
    else expectedNext "csv option"
  | some _ =>
    let _ ← keyword "AS"
    literalChar
  | none => expectedNext "csv option"

/-- An option of a copy that stands outside of parentheses. -/
def bareCopyOption : Parser Unit := do
  match ← anyKeyword ["BINARY", "DELIMITER", "NULL", "CSV"] with
  | some "BINARY" => return ()
  | some "DELIMITER" =>
    let _ ← keyword "AS"
    literalChar
  | some "NULL" =>
    let _ ← keyword "AS"
    let _ ← literalText
  | some _ =>
    let _ ← many (maybe separatedOption)
  | none => expectedNext "option"

/-- Takes a token of the rows that stand in the text itself, up to a backslash and a period. -/
def inlineRow : Parser (Option Unit) := do
  match (← next).token with
  | .eof => return none
  | .symbol .backslash =>
    if ← symbol .period then return none
    skip
    return some ()
  | _ => return some ()

/-! ## Stages -/

/-- Goes on with a part of the name of a stage, up to a blank, a period, a parenthesis or the end of
the statement. -/
def stageToken (text : String) : Parser (Option String) := do
  let lexeme ← peek
  if lexeme.isSpaced then return none
  match lexeme.token with
  | .eof | .symbol .period | .symbol .rparen => return none
  | .symbol .semicolon =>
    skip
    return none
  | .word _ | .symbol .atSign | .symbol .tilde | .symbol .percent | .symbol .slash =>
    skip
    return some (text ++ lexeme.token.spelling)
  | _ =>
    skip
    expectedNext "stage name identifier"

/-- The name of a stage, which begins with an at sign, or of a table. -/
def stageName : Parser ObjectName := do
  if !(← symbol .atSign) then return ← objectName
  let first ← iterate stageToken "@"
  let others ← many (when? (symbol .period) (iterate stageToken ""))
  return (first :: others).map fun text => ⟨text, none⟩

/-- A text behind an equals sign. What is called `what` where it is missing is looked for behind the
token that is no text. -/
def assignedText (what : String) : Parser Unit := do
  expectSymbol .eq
  match (← next).token with
  | .text .plain _ => return ()
  | _ => expectedNext what

/-- A token behind an equals sign. -/
def assignedToken : Parser Unit := do
  expectSymbol .eq
  skip

/-- Takes an option of files and its value, or the closing parenthesis. -/
def fileOption (closed : Bool) : Parser (Option Bool) := do
  if closed then return none
  match (← next).token with
  | .symbol .rparen => return some true
  | .word _ =>
    expectSymbol .eq
    match (← next).token with
    | .word _ | .text .plain _ => return some false
    | _ => expectedNext "expected option value"
  | _ => expectedNext "another option or ')'"

/-- Options of files between parentheses behind an equals sign. -/
def assignedOptions : Parser Unit := do
  expectSymbol .eq
  expectSymbol .lparen
  let _ ← iterate fileOption false

/-- What a stage is reached by, in the order in which it has to stand. -/
def stageParameters : Parser Unit := do
  if ← keyword "URL" then assignedText "a URL statement"
  if ← keyword "STORAGE_INTEGRATION" then assignedToken
  if ← keyword "ENDPOINT" then assignedText "an endpoint statement"
  if ← keyword "CREDENTIALS" then assignedOptions
  if ← keyword "ENCRYPTION" then assignedOptions

/-- The creation of a stage, behind `STAGE`. -/
def createStage : Parser Statement := do
  optionalIfNotExists
  let _ ← objectName
  stageParameters
  if ← keyword "DIRECTORY" then assignedOptions
  if ← keyword "FILE_FORMAT" then assignedOptions
  if ← keyword "COPY_OPTIONS" then assignedOptions
  if ← keyword "COMMENT" then assignedText "a comment statement"
  return .other []

/-- The number of a column of a file, behind its sign. -/
def fileColumn (name : String) : Parser Unit := do
  if let .error fault := Text.readBelow (Nat.pow 2 31) (name.drop 1).toString then
    failed s!"Could not parse '{name}' as i32: {fault.message}" .none

/-- A word; what is called `what` where it is missing is looked for behind the token that is no
word. -/
def wordOr (what : String) : Parser Unit := do
  match (← next).token with
  | .word _ => return ()
  | _ => expectedNext what

/-- A column of a staged file, an element of it, and its alias. -/
def stagedColumn : Parser Unit := do
  let lexeme ← next
  match lexeme.token with
  | .placeholder name => fileColumn name
  | .word _ =>
    expectSymbol .period
    let column ← next
    match column.token with
    | .placeholder name => fileColumn name
    | _ => expected "file_col_num" column
  | _ => expected "alias or file_col_num" lexeme
  if ← symbol .colon then wordOr "file_col_num"
  if ← keyword "AS" then wordOr "column item alias"

/-- The stage that files are read from, with its alias. -/
def stageSource : Parser Unit := do
  let _ ← stageName
  stageParameters
  if ← keyword "AS" then wordOr "stage alias"

/-- Rows loaded from a stage, behind `COPY INTO`. -/
def copyInto : Parser Statement := do
  let _ ← stageName
  expectKeyword "FROM"
  if ← symbol .lparen then
    expectKeyword "SELECT"
    let _ ← manyWhile stagedColumn (symbol .comma)
    expectKeyword "FROM"
    stageSource
    expectSymbol .rparen
  else stageSource
  if ← keyword "FILES" then
    expectSymbol .eq
    let _ ← parens (manyWhile (singleQuoted "file token") (symbol .comma))
  if ← keyword "PATTERN" then
    expectSymbol .eq
    singleQuoted "pattern"
  if ← keyword "FILE_FORMAT" then assignedOptions
  if ← keyword "COPY_OPTIONS" then assignedOptions
  if ← keyword "VALIDATION_MODE" then assignedToken
  return .other []

/-- The files of a stage that are listed or removed, behind the keyword. -/
def stagedFiles : Parser Statement := do
  let stage ← stageName
  if ← keyword "PATTERN" then
    expectSymbol .eq
    let _ ← literalText
  return .other [.relation stage]

variable [Rules]

/-! ## Tables and files -/

/-- Rows copied between a table and a file, behind `COPY`. -/
def copy : Parser Statement := do
  let rows ←
    if ← sees .lparen then pure [Part.query (← parens query)]
    else
      let _ ← objectName
      let _ ← optionalColumnNames
      pure []
  match ← anyKeyword ["FROM", "TO"] with
  | none => expectedNext "FROM or TO"
  | some direction =>
    if direction == "FROM" && !rows.isEmpty then
      failed "COPY ... FROM does not support query as a source" .none
  let inText ← keyword "STDIN"
  if ← pure !inText <&&> notM (keyword "STDOUT") then
    let _ ← keyword "PROGRAM"
    let _ ← literalText
  let _ ← keyword "WITH"
  if ← sees .lparen then
    let _ ← parens (commaSeparated copyOption)
  let _ ← many (maybe bareCopyOption)
  if inText then
    expectSymbol .semicolon
    let _ ← many inlineRow
  return .other rows

/-- The rows that a query gives, written to files, behind `UNLOAD`. -/
def unload : Parser Statement := do
  let rows ← parens query
  expectKeyword "TO"
  let _ ← identifier
  let options ← optionsAfter "WITH"
  return .other (.query rows :: Part.exprs options)

/-- An extension or a file that is loaded, behind `LOAD`. -/
def load : Parser Statement := do
  if ← supports Dialect.loadsExtensions then
    let _ ← identifier
    return .other []
  if ← keyword "DATA" <&&> supports Dialect.loadsData then
    let _ ← keyword "LOCAL"
    expectKeyword "INPATH"
    let _ ← literalText
    let _ ← keyword "OVERWRITE"
    expectKeywords ["INTO", "TABLE"]
    let _ ← objectName
    let partition ← whenList (keyword "PARTITION") (parens exprs)
    let format ← whenList (keyword "INPUTFORMAT") do
      let format ← expr
      expectKeyword "SERDE"
      return [format, ← expr]
    return .other (Part.exprs (partition ++ format))
  expectedNext "\x60DATA\x60 or an extension name after \x60LOAD\x60"

end Parser

end Grammar

end SqlLineage
