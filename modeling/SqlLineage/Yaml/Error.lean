/-!
# Errors of YAML texts

An error says what is wrong and where, with the construct that was being read if it started somewhere
else. A place at the very start of the text is not worth saying.
-/

namespace SqlLineage

namespace Yaml

/-- A place in a text. -/
structure Mark where
  /-- How many characters come before it. -/
  index : Nat
  /-- How many lines come before it. -/
  line : Nat
  /-- How many characters of its line come before it. -/
  column : Nat
deriving DecidableEq, Repr, Inhabited

namespace Mark

/-- The start of a text. -/
def start : Mark :=
  ⟨0, 0, 0⟩

/-- Whether a place is the first one of its text. -/
def isFirst (mark : Mark) : Bool :=
  mark.line == 0 && mark.column == 0

/-- The place for a user, who counts from one; nothing for the first place. -/
def suffix (mark : Mark) : String :=
  if mark.isFirst then "" else s!" at line {mark.line + 1} column {mark.column + 1}"

end Mark

/-- What is wrong with a YAML text. -/
inductive Error
  /-- A character that no text may hold, behind a number of bytes. -/
  | control (offset : Nat)
  /-- The text is not YAML, for a reason and in a construct that starts at a place. -/
  | malformed (reason : String) (mark : Mark) (construct : Option (String × Mark))
  /-- An alias names no anchor. -/
  | unknownAnchor (mark : Mark)
  /-- There is more than one document. -/
  | moreThanOneDocument
  /-- The document ends too early. -/
  | endOfDocument
  /-- Aliases repeat parts too often. -/
  | repetitionLimit
  /-- A value is not what its place in the document asks for. -/
  | content (reason path : String) (mark : Mark)
deriving DecidableEq, Repr

/-- The message for a user. -/
def Error.message : Error → String
  | control offset =>
    "control characters are not allowed" ++
      if offset = 0 then "" else s!" at position {offset}"
  | malformed reason mark construct =>
    reason ++ mark.suffix ++
      match construct with
      | none => ""
      | some (name, start) =>
        ", " ++ name ++
          if start.line = mark.line ∧ start.column = mark.column then "" else start.suffix
  | unknownAnchor mark => "unknown anchor" ++ mark.suffix
  | moreThanOneDocument =>
    "deserializing from YAML containing more than one document is not supported"
  | endOfDocument => "EOF while parsing a value"
  | repetitionLimit => "repetition limit exceeded"
  | content reason path mark =>
    (if path.isEmpty then reason else path ++ ": " ++ reason) ++ mark.suffix

end Yaml

end SqlLineage
