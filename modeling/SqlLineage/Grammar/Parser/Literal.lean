import SqlLineage.Grammar.Keyword
import SqlLineage.Grammar.Parser.Basic
import SqlLineage.Text.MachineWord

/-!
# Numbers, texts and placeholders

Literals leave nothing in the tree; the parsers here only say whether one is next.
-/

namespace SqlLineage

namespace Grammar

namespace Parser

/-- The number of `bits` bits that a token stands for. -/
def numberOf (bits : Nat) (lexeme : Lexeme) (digits : String) : Parser Nat :=
  match Text.readBelow (Nat.pow 2 bits) digits with
  | .ok value => return value
  | .error fault =>
    failed s!"Could not parse '{digits}' as u{bits}: {fault.message}" lexeme.position

/-- A whole number. -/
def literalWord : Parser Nat := do
  let lexeme ← next
  match lexeme.token with
  | .number digits _ => numberOf 64 lexeme digits
  | _ => expected "literal int" lexeme

/-- A text. -/
def literalText : Parser String := do
  let lexeme ← next
  match lexeme.token with
  | .word w =>
    if isKeyword w.keyword then expected "literal string" lexeme
    else return w.text
  | .text .plain s => return s
  | .text .doubleQuoted s => return s
  | .text .escaped s =>
    if ← supports Dialect.hasEscapeStrings then return s
    else expected "literal string" lexeme
  | .text .unicode s => return s
  | _ => expected "literal string" lexeme

/-- Kinds of values. -/
inductive ValueKind
  | number
  /-- A text between single or double quotes. -/
  | text
  /-- A text with a kind of its own. -/
  | markedText
  | boolean
  | null
  | placeholder
deriving DecidableEq

/-- What follows the colon or the at sign of a placeholder. -/
def placeholderName : Parser Unit := do
  let lexeme ← next
  match lexeme.token with
  | .word _ => return ()
  | .number _ false => return ()
  | _ => expected "placeholder" lexeme

/-- A value. -/
def value : Parser ValueKind := do
  let lexeme ← next
  match lexeme.token with
  | .word w =>
    match w.quote with
    | some '"' => return .text
    | some _ => expected "A value?" lexeme
    | none =>
      match w.keyword with
      | "TRUE" | "FALSE" =>
        if ← supports Dialect.hasBooleans then return .boolean
        else expected "a concrete value" lexeme
      | "NULL" => return .null
      | _ => expected "a concrete value" lexeme
  | .number _ _ => return .number
  | .text .plain _ | .text .doubleQuoted _ => return .text
  | .text _ _ | .tripleText _ _ | .dollarText _ _ => return .markedText
  | .placeholder _ => return .placeholder
  | .symbol .colon | .symbol .atSign =>
    placeholderName
    return .placeholder
  | _ => expected "a value" lexeme

/-- A number or a placeholder without a sign; gives how it is written. -/
def numberValue : Parser String := do
  let sign ← peek
  match ← value with
  | .number => return sign.token.spelling
  | .placeholder =>
    let name ← last
    return if name.token == sign.token then name.token.spelling
      else sign.token.spelling ++ name.token.spelling
  | _ =>
    back
    expectedNext "literal number"

/-- A number or a placeholder, with or without a sign; gives how it is written. -/
def signedNumber : Parser String := do
  if ← symbol .plus then return "+" ++ (← numberValue)
  if ← symbol .minus then return "-" ++ (← numberValue)
  numberValue

end Parser

end Grammar

end SqlLineage
