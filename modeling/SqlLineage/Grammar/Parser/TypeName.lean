import SqlLineage.Grammar.Parser.Rules

/-!
# Names of types

Types leave nothing in the tree, but some of them end the text of a literal, and messages show them
as they are written in full. A `>>` closes two brackets at once, so every type says whether the
bracket behind it is taken already.
-/

namespace SqlLineage

namespace Grammar

namespace Parser

/-- Types that consist of their name, by their keyword, and how they are written. -/
def plainType? : String → Option String
  | "INT16" => some "Int16"
  | "INT32" => some "Int32"
  | "INT128" => some "Int128"
  | "INT256" => some "Int256"
  | "UINT8" => some "UInt8"
  | "UINT16" => some "UInt16"
  | "UINT32" => some "UInt32"
  | "UINT64" => some "UInt64"
  | "UINT128" => some "UInt128"
  | "UINT256" => some "UInt256"
  | "FLOAT32" => some "Float32"
  | "DATE32" => some "Date32"
  | name =>
    if ["BOOLEAN", "BOOL", "REAL", "FLOAT4", "FLOAT64", "FLOAT8", "INT64", "UUID", "DATE", "JSON",
      "JSONB", "REGCLASS", "TEXT", "TINYTEXT", "MEDIUMTEXT", "LONGTEXT", "TINYBLOB", "MEDIUMBLOB",
      "LONGBLOB", "BYTEA", "TRIGGER"].contains name then some name
    else none

/-- Types that may have a length or a precision. -/
def sizedTypes : List String :=
  ["FLOAT", "CLOB", "BINARY", "VARBINARY", "BLOB", "BYTES", "DATETIME", "STRING", "TIMESTAMPTZ",
    "TIMETZ"]

/-- Types of whole numbers, which may be unsigned. -/
def wholeTypes : List String :=
  ["TINYINT", "INT2", "SMALLINT", "MEDIUMINT", "INT", "INT4", "INT8", "INTEGER", "BIGINT"]

/-- Types of decimal numbers. -/
def decimalTypes : List String :=
  ["NUMERIC", "DECIMAL", "DEC", "BIGNUMERIC", "BIGDECIMAL"]

/-- A text between parentheses. -/
def enclosed (inner : String) : String :=
  "(" ++ inner ++ ")"

/-- Texts separated by commas. -/
def listed (parts : List String) : String :=
  ", ".intercalate parts

/-- A text between single quotes. -/
def quotedText (text : String) : String :=
  Ident.spelling ⟨text, some '\''⟩

/-! ## Parameters of types

Each of these parsers gives how what it reads is written behind the name of the type. -/

/-- A length or a precision, or nothing. -/
def optionalSize : Parser String := do
  if ← sees .lparen then return enclosed (toString (← parens literalWord))
  return ""

/-- A precision with or without a scale, or nothing. -/
def optionalScale : Parser String := do
  if !(← symbol .lparen) then return ""
  let precision ← literalWord
  let scale ← if ← symbol .comma then pure ("," ++ toString (← literalWord)) else pure ""
  expectSymbol .rparen
  return enclosed (toString precision ++ scale)

/-- A number of characters, or nothing. -/
def optionalLength : Parser String := do
  if !(← symbol .lparen) then return ""
  let length ← if ← keyword "MAX" then pure "MAX" else do
    let length := toString (← literalWord)
    match ← anyKeyword ["CHARACTERS", "OCTETS"] with
    | some unit => pure (length ++ " " ++ unit)
    | none => pure length
  expectSymbol .rparen
  return enclosed length

/-- Whether a type knows time zones, or nothing. -/
def optionalZone : Parser String := do
  match ← anyKeyword ["WITH", "WITHOUT"] with
  | some word =>
    expectKeywords ["TIME", "ZONE"]
    return " " ++ word ++ " TIME ZONE"
  | none => return ""

/-- Takes one parameter of a type with a name of its own, or a comma; nothing is given at the
closing parenthesis. -/
def typeModifier : Parser (Option (Option String)) := do
  let lexeme ← next
  match lexeme.token with
  | .word w => return some (some w.spelling)
  | .number digits _ => return some (some digits)
  | .text .plain s => return some (some s)
  | .symbol .comma => return some none
  | .symbol .rparen => return none
  | _ => expected "type modifiers" lexeme

/-- A type with a name of its own. -/
def customType : Parser String := do
  let name := (← objectName).spelling
  if !(← symbol .lparen) then return name
  let modifiers := (← many typeModifier).filterMap id
  return if modifiers.isEmpty then name else name ++ enclosed (listed modifiers)

/-- The closing bracket of a type, unless it is taken already. -/
def closingBracket (taken : Bool) : Parser Bool := do
  if taken then return false
  if ← symbol .gt then return false
  if ← symbol .shiftRight then return true
  expectedNext ">"

/-- One value of an enumeration. -/
def enumValue : Parser String := do
  let name := quotedText (← literalText)
  if ← symbol .eq then return name ++ " = " ++ (← signedNumber)
  return name

/-- The values of a set, behind the opening parenthesis. -/
def setValues : Parser (List String) := do
  let (values, _) ← iterate (fun (values, closed) => do
      if closed then return none
      let lexeme ← next
      match lexeme.token with
      | .text .plain s =>
        let separator ← next
        match separator.token with
        | .symbol .comma => return some (quotedText s :: values, false)
        | .symbol .rparen => return some (quotedText s :: values, true)
        | _ => expected ", or \x7d" separator
      | _ => expected "a string" lexeme)
    (([] : List String), false)
  return values.reverse

variable [Rules]

/-! ## Types made of types -/

/-- A field of a structure, with or without a name, and whether the bracket around the structure is
taken already. -/
def structField : Parser (String × Bool) := do
  match (← peek).token, (← peekAt 1).token with
  | .word _, .word _ =>
    let name ← identifier
    let (type, taken) ← Rules.typeName
    return (name.spelling ++ " " ++ type.spelling, taken)
  | _, _ =>
    let (type, taken) ← Rules.typeName
    return (type.spelling, taken)

/-- A field of a structure that has a name. -/
def namedField : Parser String := do
  let name ← identifier
  return name.spelling ++ " " ++ (← typeName).spelling

/-- The fields of a structure between angle brackets, and whether the bracket around the structure
is taken already; nothing if there are no fields. The word for the structure was just taken. -/
def structFields : Parser (Option (List String × Bool)) := do
  let start := (← last).position
  if !(← symbol .lt) then return none
  let (first, firstTaken) ← structField
  let (fields, taken) ← iterate (fun (fields, taken) => do
      if !(← symbol .comma) then return none
      if taken then failed "unmatched > in STRUCT definition" start
      let (field, taken) ← structField
      return some (field :: fields, taken))
    ([first], firstTaken)
  return some (fields.reverse, ← closingBracket taken)

/-- A type between parentheses. -/
def innerType : Parser String := do
  return enclosed (← parens typeName).spelling

/-- A type whose name is the word that was just taken. -/
def typeFrom (w : Word) : Parser (TypeName × Bool) := do
  let name := w.keyword
  let simple : String → Parser (TypeName × Bool) := fun spelling =>
    return (⟨.other, spelling⟩, false)
  let sized : Parser String → Parser (TypeName × Bool) := fun size => do
    simple (name ++ (← size))
  let custom : Parser (TypeName × Bool) := do
    back
    return (⟨.custom, ← customType⟩, false)
  let clickhouse := inDialect [.clickhouse, .generic]
  if let some spelling := plainType? name then return ← simple spelling
  if sizedTypes.contains name then return ← sized optionalSize
  if decimalTypes.contains name then return ← sized optionalScale
  if wholeTypes.contains name then
    let size ← optionalSize
    return ← simple (name ++ size ++ (if ← keyword "UNSIGNED" then " UNSIGNED" else ""))
  match name with
  | "DOUBLE" =>
    if ← keyword "PRECISION" then simple "DOUBLE PRECISION" else sized optionalScale
  | "VARCHAR" | "NVARCHAR" => sized optionalLength
  | "CHARACTER" | "CHAR" =>
    if ← keyword "VARYING" then simple (name ++ " VARYING" ++ (← optionalLength))
    else if ← keywords ["LARGE", "OBJECT"] then simple (name ++ " LARGE OBJECT" ++ (← optionalSize))
    else sized optionalLength
  | "BIT" =>
    if ← keyword "VARYING" then simple ("BIT VARYING" ++ (← optionalSize)) else sized optionalSize
  | "TIMESTAMP" | "TIME" =>
    let size ← optionalSize
    simple (name ++ size ++ (← optionalZone))
  | "INTERVAL" => return (⟨.interval, "INTERVAL"⟩, false)
  | "DATETIME64" =>
    expectSymbol .lparen
    let precision ← literalWord
    let zone ← if ← symbol .comma then pure (", '" ++ (← literalText) ++ "'") else pure ""
    expectSymbol .rparen
    simple ("DateTime64" ++ enclosed (toString precision ++ zone))
  | "FIXEDSTRING" => simple ("FixedString" ++ enclosed (toString (← parens literalWord)))
  | "ENUM" | "ENUM8" | "ENUM16" =>
    simple (name ++ enclosed (listed (← parens (commaSeparated enumValue))))
  | "SET" =>
    expectSymbol .lparen
    simple ("SET" ++ enclosed (listed (← setValues)))
  | "ARRAY" =>
    match ← dialect with
    | .snowflake => simple "ARRAY"
    | .clickhouse => simple ("Array" ++ (← innerType))
    | _ =>
      expectSymbol .lt
      let (element, taken) ← Rules.typeName
      return (⟨.other, "ARRAY<" ++ element.spelling ++ ">"⟩, ← closingBracket taken)
  | "STRUCT" =>
    if ← inDialect [.duckdb] then
      expectSymbol .lparen
      let fields ← attempt (commaSeparated namedField)
      expectSymbol .rparen
      match fields with
      | .ok fields => simple ("STRUCT" ++ enclosed (listed fields))
      | .error error => throw error
    else if ← inDialect [.bigquery, .generic] then
      match ← structFields with
      | some (fields, taken) => return (⟨.other, "STRUCT<" ++ listed fields ++ ">"⟩, taken)
      | none => simple "STRUCT"
    else custom
  | "UNION" =>
    if ← inDialect [.duckdb, .generic] then
      simple ("UNION" ++ enclosed (listed (← parens (commaSeparated namedField))))
    else custom
  | "NULLABLE" => if ← clickhouse then simple ("Nullable" ++ (← innerType)) else custom
  | "LOWCARDINALITY" =>
    if ← clickhouse then simple ("LowCardinality" ++ (← innerType)) else custom
  | "MAP" =>
    if ← clickhouse then
      let (key, value) ← parens do
        let key ← typeName
        expectSymbol .comma
        return (key, ← typeName)
      simple ("Map" ++ enclosed (listed [key.spelling, value.spelling]))
    else custom
  | "NESTED" =>
    if ← clickhouse then
      let columns ← parens (commaSeparated Rules.column)
      simple ("Nested" ++ enclosed (listed (columns.map ColumnDefinition.spelling)))
    else custom
  | "TUPLE" =>
    if ← clickhouse then
      let fields ← parens (manyWhile structField (symbol .comma))
      simple ("Tuple" ++ enclosed (listed (fields.map Prod.fst)))
    else custom
  | "ANY" => if ← keyword "TYPE" then simple "ANY TYPE" else custom
  | _ => custom

/-- One pair of brackets behind the type of the elements of an array. -/
def arrayBrackets : Parser (Option String) := do
  if !(← symbol .lbracket) then return none
  let size ← if ← inDialect [.generic, .duckdb, .postgresql] then maybe literalWord else pure none
  expectSymbol .rbracket
  return some ("[" ++ (size.map toString).getD "" ++ "]")

/-- The name of a type, and whether a closing bracket of the type around it is taken already. -/
def typeNameRule : Parser (TypeName × Bool) := do
  let lexeme ← next
  match lexeme.token with
  | .word w =>
    let (type, taken) ← typeFrom w
    let brackets ← many arrayBrackets
    if brackets.isEmpty then return (type, taken)
    return (⟨.other, type.spelling ++ String.join brackets⟩, taken)
  | _ => expected "a data type name" lexeme

end Parser

end Grammar

end SqlLineage
