import SqlLineage.Text.Case

/-!
# Tokens of the SQL grammar

A token is a word, a number, a piece of quoted text, a symbol or a single character that belongs to
none of these. Each token has a spelling, which is what error messages show; the spelling of a word
or a text restores its delimiters, and an inequality is always shown as `<>`.
-/

namespace SqlLineage

namespace Grammar

/-- A line and a column of the text, both counted from one; line zero stands for no position. -/
structure Position where
  /-- The line. -/
  line : Nat
  /-- The column, in characters. -/
  column : Nat
deriving DecidableEq, Repr

namespace Position

/-- The position of the end of the input. -/
def none : Position := ⟨0, 0⟩

/-- How a position ends an error message. -/
def suffix (position : Position) : String :=
  if position.line = 0 then ""
  else s!" at Line: {position.line}, Column: {position.column}"

end Position

/-- Operators and punctuation. -/
inductive Symbol
  | comma
  | doubleEq
  | eq
  | neq
  | lt
  | gt
  | ltEq
  | gtEq
  | spaceship
  | plus
  | minus
  | star
  | slash
  | doubleSlash
  | percent
  | concat
  | lparen
  | rparen
  | period
  | colon
  | doubleColon
  | assign
  | semicolon
  | backslash
  | lbracket
  | rbracket
  | ampersand
  | pipe
  | caret
  | lbrace
  | rbrace
  | rightArrow
  | sharp
  | tilde
  | tildeStar
  | bangTilde
  | bangTildeStar
  | doubleTilde
  | doubleTildeStar
  | bangDoubleTilde
  | bangDoubleTildeStar
  | shiftLeft
  | shiftRight
  | overlap
  | bang
  | doubleBang
  | atSign
  | caretAt
  | squareRoot
  | cubeRoot
  | arrow
  | longArrow
  | hashArrow
  | hashLongArrow
  | atArrow
  | arrowAt
  | hashMinus
  | atQuestion
  | atAt
  | question
  | questionAnd
  | questionPipe
deriving DecidableEq, Repr

namespace Symbol

/-- The characters of a symbol. -/
def spelling : Symbol → String
  | comma => ","
  | doubleEq => "=="
  | eq => "="
  | neq => "<>"
  | lt => "<"
  | gt => ">"
  | ltEq => "<="
  | gtEq => ">="
  | spaceship => "<=>"
  | plus => "+"
  | minus => "-"
  | star => "*"
  | slash => "/"
  | doubleSlash => "//"
  | percent => "%"
  | concat => "||"
  | lparen => "("
  | rparen => ")"
  | period => "."
  | colon => ":"
  | doubleColon => "::"
  | assign => ":="
  | semicolon => ";"
  | backslash => "\\"
  | lbracket => "["
  | rbracket => "]"
  | ampersand => "&"
  | pipe => "|"
  | caret => "^"
  | lbrace => "\x7b"
  | rbrace => "\x7d"
  | rightArrow => "=>"
  | sharp => "#"
  | tilde => "~"
  | tildeStar => "~*"
  | bangTilde => "!~"
  | bangTildeStar => "!~*"
  | doubleTilde => "~~"
  | doubleTildeStar => "~~*"
  | bangDoubleTilde => "!~~"
  | bangDoubleTildeStar => "!~~*"
  | shiftLeft => "<<"
  | shiftRight => ">>"
  | overlap => "&&"
  | bang => "!"
  | doubleBang => "!!"
  | atSign => "@"
  | caretAt => "^@"
  | squareRoot => "|/"
  | cubeRoot => "||/"
  | arrow => "->"
  | longArrow => "->>"
  | hashArrow => "#>"
  | hashLongArrow => "#>>"
  | atArrow => "@>"
  | arrowAt => "<@"
  | hashMinus => "#-"
  | atQuestion => "@?"
  | atAt => "@@"
  | question => "?"
  | questionAnd => "?&"
  | questionPipe => "?|"

end Symbol

/-- A bare or quoted word. -/
structure Word where
  /-- The text without quotes. -/
  text : String
  /-- The opening quote of a quoted word. -/
  quote : Option Char
  /-- The uppercase text of a bare word, by which keywords are compared; empty for a quoted word. -/
  keyword : String
deriving DecidableEq, Repr

namespace Word

/-- The quote that closes what `opening` opens. -/
def closing (opening : Char) : Char :=
  if opening = '[' then ']' else opening

/-- A word that is not quoted. -/
def bare (text : String) : Word :=
  ⟨text, none, Text.upperAscii text⟩

/-- A word between quotes. -/
def quoted (text : String) (quote : Char) : Word :=
  ⟨text, some quote, ""⟩

/-- The word as it is written, with its quotes. -/
def spelling (word : Word) : String :=
  match word.quote with
  | some quote => String.singleton quote ++ word.text ++ String.singleton (closing quote)
  | none => word.text

end Word

/-- What a piece of quoted text begins with, and so what kind of literal it is. -/
inductive TextKind
  | plain
  | doubleQuoted
  | byte
  | doubleQuotedByte
  | raw
  | doubleQuotedRaw
  | national
  | escaped
  | unicode
  | hexadecimal
deriving DecidableEq, Repr

namespace TextKind

/-- The letters in front of the opening quote. -/
def lead : TextKind → String
  | plain => ""
  | doubleQuoted => ""
  | byte => "B"
  | doubleQuotedByte => "B"
  | raw => "R"
  | doubleQuotedRaw => "R"
  | national => "N"
  | escaped => "E"
  | unicode => "U&"
  | hexadecimal => "X"

/-- The quote of the literal. -/
def quote : TextKind → String
  | doubleQuoted => "\""
  | doubleQuotedByte => "\""
  | doubleQuotedRaw => "\""
  | _ => "'"

end TextKind

/-- The smallest units of the grammar. -/
inductive Token
  | eof
  | word (word : Word)
  | number (digits : String) (long : Bool)
  | char (c : Char)
  | text (kind : TextKind) (value : String)
  | tripleText (kind : TextKind) (value : String)
  | dollarText (tag : Option String) (value : String)
  | symbol (symbol : Symbol)
  | placeholder (name : String)
  | operator (spelling : String)
deriving DecidableEq, Repr

namespace Token

/-- The token as error messages show it. -/
def spelling : Token → String
  | eof => "EOF"
  | word w => w.spelling
  | number digits long => digits ++ (if long then "L" else "")
  | char c => String.singleton c
  | text kind value => kind.lead ++ kind.quote ++ value ++ kind.quote
  | tripleText kind value =>
    let quotes := kind.quote ++ kind.quote ++ kind.quote
    kind.lead ++ quotes ++ value ++ quotes
  | dollarText tag value =>
    let fence := "$" ++ tag.getD "" ++ "$"
    fence ++ value ++ fence
  | symbol s => s.spelling
  | placeholder name => name
  | operator spelling => spelling

/-- The keyword of a bare word; other tokens have the empty keyword. -/
def keyword : Token → String
  | word w => w.keyword
  | _ => ""

end Token

/-- A piece of text that no parser sees: a blank or a comment. -/
structure Gap where
  /-- The piece, where every line end is a line feed and every other blank a space or a tab. -/
  text : String
  /-- Where it begins. -/
  position : Position
deriving Repr

/-- A token, where it begins, and what stands in front of it. -/
structure Lexeme where
  /-- The token. -/
  token : Token
  /-- Where it begins. -/
  position : Position
  /-- The first blank or comment between it and the token before. -/
  gap : Option Gap
deriving Repr

namespace Lexeme

/-- Whether a blank or a comment stands in front of the token. -/
def isSpaced (lexeme : Lexeme) : Bool :=
  lexeme.gap.isSome

end Lexeme

end Grammar

end SqlLineage
