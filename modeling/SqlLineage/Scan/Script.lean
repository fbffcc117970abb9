import SqlLineage.Scan.Lexer
import SqlLineage.Text.Trim

/-!
# Scripts

A script is split into statements at its semicolons, except for those inside literals, quoted names
and comments. A piece without any token is no statement, and a piece that holds comments only is one
if comments are asked for.
-/

namespace SqlLineage

namespace Scan

/-- A statement of a script. -/
structure Statement where
  /-- How many statements of the script come before it. -/
  index : Nat
  /-- The text without the semicolon. -/
  sql : String
  /-- The line of the script on which it starts, counted from one. -/
  startLine : Nat
  /-- Whether it holds comments only. -/
  commentOnly : Bool
deriving DecidableEq, Repr

/-- A piece of a script between two semicolons. -/
structure Piece where
  /-- How many bytes stand in front of it. -/
  start : Nat
  /-- Whether it holds a token that is no comment. -/
  hasCode : Bool
  /-- Whether it holds a comment. -/
  hasComment : Bool
deriving DecidableEq

namespace Piece

/-- The piece that begins behind `start` bytes, before any token. -/
def begin (start : Nat) : Piece :=
  ⟨start, false, false⟩

/-- The piece with another token. -/
def add (piece : Piece) (token : Token) : Piece :=
  if token.isComment then { piece with hasComment := true } else { piece with hasCode := true }

/-- Whether the piece is a statement. -/
def counts (piece : Piece) (includeComments : Bool) : Bool :=
  piece.hasCode || (piece.hasComment && includeComments)

/-- The statement that the piece is, if it ends in front of the byte `stop` of a script. -/
def statement (script : List Char) (index : Nat) (piece : Piece) (stop : Nat) : Statement :=
  let raw := Text.byteSlice piece.start stop script
  let before := Text.takeBytes piece.start script ++ raw.takeWhile Text.isBlank
  { index
    sql := Text.trim (String.ofList raw)
    startLine := (before.filter (· == '\n')).length + 1
    commentOnly := !piece.hasCode }

end Piece

/-- The pieces of a script with their ends. -/
def pieces (stop : Nat) (piece : Piece) : List Token → List (Piece × Nat)
  | [] => [(piece, stop)]
  | token :: tokens =>
    if token.kind == .semicolon then
      let start := token.offset + Text.byteLength token.literal.toList
      (piece, token.offset) :: pieces stop (.begin start) tokens
    else pieces stop (piece.add token) tokens

/-- The statements that pieces are, if `index` statements come before them. -/
def number (script : List Char) (index : Nat) : List (Piece × Nat) → List Statement
  | [] => []
  | (piece, stop) :: others =>
    piece.statement script index stop :: number script (index + 1) others

/-- The statements of a script, with or without those that hold comments only. -/
def statements (includeComments : Bool) (script : String) : List Statement :=
  let cs := script.toList
  let all := pieces (Text.byteLength cs) (.begin 0) (tokens script)
  number cs 0 (all.filter fun (piece, _) => piece.counts includeComments)

/-- The statements of a script without those that hold comments only. -/
def codeStatements (script : String) : List Statement :=
  statements false script

/-- A reader of scripts that remembers what it read last. -/
structure ScriptReader where
  /-- Whether statements that hold comments only are kept. -/
  includeComments : Bool
  /-- The statements of the last script. -/
  last : List Statement
deriving DecidableEq, Repr

namespace ScriptReader

/-- A reader that has read nothing yet and keeps comments. -/
def new : ScriptReader :=
  ⟨true, []⟩

/-- The reader, which keeps comments from now on or does not. -/
def withComments (reader : ScriptReader) (includeComments : Bool) : ScriptReader :=
  { reader with includeComments }

/-- The reader after a script; what it read before is forgotten. -/
def read (reader : ScriptReader) (script : String) : ScriptReader :=
  { reader with last := statements reader.includeComments script }

end ScriptReader

end Scan

end SqlLineage
