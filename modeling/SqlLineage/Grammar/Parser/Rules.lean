import SqlLineage.Grammar.Parser.Name
import SqlLineage.Grammar.Parser.Literal

/-!
# The rules that refer to each other

Expressions hold queries, queries hold tables, and tables hold expressions. Every parser of the
grammar is written against the rules of one level further down, so the rules of each level are
defined from those of the level below by structural recursion.
-/

namespace SqlLineage

namespace Grammar

namespace Parser

/-- What the name of a type stands for, as far as literals with a type in front are concerned. -/
inductive TypeKind
  | interval
  | custom
  | other
deriving DecidableEq

/-- The name of a type. -/
structure TypeName where
  /-- What it stands for in front of a literal. -/
  kind : TypeKind
  /-- How it is written. -/
  spelling : String

/-- The definition of a column. -/
structure ColumnDefinition where
  /-- How its name, its type and its collation are written. -/
  spelling : String
  /-- The expressions in its options. -/
  items : List Expr

/-- The rules of the level below. -/
class Rules where
  /-- An expression whose operators bind more tightly than the given strength. -/
  expr : Nat → Parser Expr
  /-- An expression without operators behind it. -/
  operand : Parser Expr
  /-- A query. -/
  query : Parser Query
  /-- The body of a query, combined by operators that bind more tightly than the given strength. -/
  body : Nat → Parser Body
  /-- A statement. -/
  statement : Parser Statement
  /-- A source of rows, and its alias. -/
  factor : Parser (TableFactor × Option String)
  /-- The name of a type, and whether a closing bracket of the type around it is taken already. -/
  typeName : Parser (TypeName × Bool)
  /-- The definition of a column. -/
  column : Parser ColumnDefinition

variable [Rules]

/-- An expression. -/
def expr : Parser Expr :=
  Rules.expr 0

/-- A query. -/
def query : Parser Query :=
  Rules.query

/-- The name of a type that stands on its own. -/
def typeName : Parser TypeName := do
  let (type, trailing) ← Rules.typeName
  if trailing then
    failed ("unmatched > after parsing data type " ++ type.spelling ++ (← peek).token.spelling)
      .none
  return type

/-- Expressions separated by commas. -/
def exprs : Parser (List Expr) :=
  commaSeparated expr

/-- An expression that does not reach over the operators with the strength of `binding`. -/
def exprAbove (binding : Binding) : Parser Expr := do
  Rules.expr ((← dialect).strength binding)

end Parser

end Grammar

end SqlLineage
