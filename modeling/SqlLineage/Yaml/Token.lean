import SqlLineage.Yaml.Error

/-!
# Tokens of YAML texts

Indentation is part of the text's structure: where a block collection starts or ends there is a
token, although no character stands for it.
-/

namespace SqlLineage

namespace Yaml

/-- How a scalar is written. -/
inductive Style
  /-- Without any mark. -/
  | plain
  /-- In quotes. -/
  | quoted
  /-- As a block in which line breaks count. -/
  | literal
  /-- As a block in which lines are joined. -/
  | folded
deriving DecidableEq, Repr

/-- A token without its place. -/
inductive TokenKind
  /-- The text starts. -/
  | streamStart
  /-- The text ends. -/
  | streamEnd
  /-- A version directive. -/
  | version (major minor : Nat)
  /-- A directive that gives a handle a meaning. -/
  | tagDirective (handle start : String)
  /-- A document starts. -/
  | documentStart
  /-- A document ends. -/
  | documentEnd
  /-- A block sequence starts. -/
  | blockSequenceStart
  /-- A block mapping starts. -/
  | blockMappingStart
  /-- A block collection ends. -/
  | blockEnd
  /-- A flow sequence starts. -/
  | flowSequenceStart
  /-- A flow sequence ends. -/
  | flowSequenceEnd
  /-- A flow mapping starts. -/
  | flowMappingStart
  /-- A flow mapping ends. -/
  | flowMappingEnd
  /-- An entry of a block sequence. -/
  | blockEntry
  /-- A comma between entries of a flow collection. -/
  | flowEntry
  /-- A key comes next. -/
  | key
  /-- A value comes next. -/
  | value
  /-- A part that was named before. -/
  | alias (name : String)
  /-- A name for the part that comes next. -/
  | anchor (name : String)
  /-- The tag of the part that comes next. -/
  | tag (handle tagSuffix : String)
  /-- A scalar. -/
  | scalar (value : String) (style : Style)
deriving DecidableEq, Repr

/-- A token. -/
structure Token where
  /-- What it is. -/
  kind : TokenKind
  /-- Where it starts. -/
  start : Mark
  /-- The place behind it. -/
  stop : Mark
deriving DecidableEq, Repr

end Yaml

end SqlLineage
