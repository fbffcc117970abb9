import SqlLineage.Text.Case

/-!
# Tokens of a scan

A scan splits any text into tokens. A token knows the characters it covers and where they begin, so
the text can be put together again from its tokens and the blanks between them.
-/

namespace SqlLineage

namespace Scan

/-- Kinds of tokens. -/
inductive Kind
  /-- A keyword or a bare name, also `@name` and `#name`. -/
  | word
  /-- A name between double quotes, backticks or brackets. -/
  | quotedIdent
  /-- A text between single quotes. -/
  | stringLiteral
  | number
  | lineComment
  | blockComment
  | comma
  | dot
  | semicolon
  | lparen
  | rparen
  /-- Any other character. -/
  | symbol
deriving DecidableEq, Repr

/-- A token of a text. -/
structure Token where
  /-- What the token is. -/
  kind : Kind
  /-- The characters that the token covers. -/
  literal : String
  /-- How many bytes of the text stand in front of it. -/
  offset : Nat
deriving DecidableEq, Repr

namespace Token

/-- Whether the token is a comment. -/
def isComment (token : Token) : Bool :=
  token.kind == .lineComment || token.kind == .blockComment

/-- Whether the token is a bare word that spells `keyword`, in any case of letters. -/
def isKeyword (token : Token) (keyword : String) : Bool :=
  token.kind == .word && Text.eqIgnoreAsciiCase token.literal keyword

/-- The character that closes a quoted name. -/
def closer (opener : Char) : Char :=
  match opener with
  | '[' => ']'
  | '\x60' => '\x60'
  | _ => '"'

/-- The characters between the delimiters of a quoted name; the closing one may be missing. -/
def unquoted : List Char → List Char
  | [] => []
  | opener :: inner =>
    if inner.getLast? == some (closer opener) then inner.dropLast else inner

/-- The name that the token is, without quotes; other tokens are no names. -/
def identifier? (token : Token) : Option String :=
  match token.kind with
  | .word => some token.literal
  | .quotedIdent => some (String.ofList (unquoted token.literal.toList))
  | _ => none

end Token

end Scan

end SqlLineage
