/-!
# Syntax of SQL statements

The tree keeps what decides which tables a statement reads and writes and which functions it calls:
names, calls, queries, tables in `FROM`, and the nesting of statements. Operators, literals and
options are not told apart; only the order of the expressions inside them is kept. Lists hold their
members in the order in which a reader of the statement meets them.
-/

namespace SqlLineage

namespace Grammar

/-- One part of a name. -/
structure Ident where
  /-- The text without quotes. -/
  value : String
  /-- The opening quote, if there was one. -/
  quote : Option Char
deriving DecidableEq, Repr

/-- A name of one or more parts. -/
abbrev ObjectName := List Ident

/-- The parts of a name joined by periods, without quotes. -/
def ObjectName.dotted (name : ObjectName) : String :=
  ".".intercalate (name.map Ident.value)

mutual

/-- Expressions. -/
inductive Expr
  /-- A column or variable. -/
  | name (parts : List Ident)
  /-- A constant. -/
  | literal
  /-- A star, with the name in front of it. -/
  | wildcard (qualifier : ObjectName)
  /-- A call; the parameters of a parametric function stand apart from its arguments. -/
  | call (name : ObjectName) (parameters : Arguments) (args : Arguments) (clauses : List Expr)
  /-- A query used as a value. -/
  | query (query : Query)
  /-- An equation. -/
  | equality (left right : Expr)
  /-- Fields and elements of a value. -/
  | access (root : Expr) (chain : List Access)
  /-- A column marked as the outer side of a join. -/
  | outerJoin (column : Expr)
  /-- Values between parentheses. -/
  | tuple (items : List Expr)
  /-- Any other expression, given by its operands. -/
  | operation (operands : List Expr)

/-- One step into a value. -/
inductive Access
  /-- A field, or a method call. -/
  | field (step : Expr)
  /-- An element or a slice. -/
  | element (bounds : List Expr)

/-- The arguments of a call. -/
inductive Arguments
  /-- No argument list. -/
  | none
  /-- A query in place of a list. -/
  | query (query : Query)
  /-- A list of arguments and the expressions of the clauses behind it. -/
  | list (items : List Expr) (clauses : List Expr)

/-- A query: its common table expressions, its body, and the expressions that order and limit
it. -/
inductive Query
  | mk (recursive : Bool) (ctes : List Cte) (body : Body) (tail : List Expr)

/-- A common table expression. -/
inductive Cte
  | mk (name : Ident) (query : Query)

/-- The body of a query. -/
inductive Body
  /-- A selection: what stands before its tables, its tables, and what stands behind. -/
  | select (projection : List Expr) (tables : List TableJoins) (filters : List Expr)
  /-- A query between parentheses. -/
  | query (query : Query)
  /-- A union, intersection or difference. -/
  | combination (left right : Body)
  /-- Rows of values. -/
  | values (rows : List Expr)
  /-- A statement that returns rows. -/
  | statement (statement : Statement)
  /-- `TABLE name`. -/
  | table

/-- A table and the tables joined to it. -/
inductive TableJoins
  | mk (table : TableFactor) (joins : List Join)

/-- A joined table and the condition of the join. -/
inductive Join
  | mk (table : TableFactor) (conditions : List Expr)

/-- One source of rows. -/
inductive TableFactor
  /-- A table, or a table function if there are arguments. -/
  | table (name : ObjectName) (args : Option (List Expr)) (options : List Expr)
  /-- A query between parentheses. -/
  | derived (query : Query)
  /-- A table function behind `LATERAL`. -/
  | lateral (name : ObjectName) (args : List Expr)
  /-- Rows computed from expressions. -/
  | rows (items : List Expr)
  /-- A join between parentheses. -/
  | nested (tables : TableJoins)
  /-- A source whose rows are rearranged. -/
  | rearranged (table : TableFactor) (items : List Expr)

/-- Statements. -/
inductive Statement
  /-- A query. -/
  | query (query : Query)
  /-- An insertion into a table, or into a table function if there is no name. -/
  | insert (target : Option ObjectName) (parts : List Part)
  /-- A change of the rows of a table. -/
  | update (table : TableJoins) (parts : List Part)
  /-- A deletion; the names in front of `FROM` come first. -/
  | delete (names : List ObjectName) (tables : List TableJoins) (parts : List Part)
  /-- A merge into a table. -/
  | merge (target source : TableFactor) (parts : List Part)
  /-- The creation of a table. -/
  | createTable (name : ObjectName) (parts : List Part)
  /-- The creation of a view. -/
  | createView (name : ObjectName) (parts : List Part)
  /-- A change of the definition of a table. -/
  | alterTable (name : ObjectName) (parts : List Part)
  /-- The removal of objects. -/
  | drop (names : List ObjectName)
  /-- The call of a procedure. -/
  | call (name : ObjectName) (parameters : Arguments) (args : Arguments) (clauses : List Expr)
  /-- The execution of a procedure or prepared statement. -/
  | execute (name : ObjectName) (args : List Expr) (bound : List Expr)
  /-- The description of a statement or a table. -/
  | explain (parts : List Part)
  /-- Any other statement, given by its parts. -/
  | other (parts : List Part)

/-- A part of a statement. -/
inductive Part
  /-- A table that is named outside of `FROM`. -/
  | relation (name : ObjectName)
  /-- An expression. -/
  | expr (expr : Expr)
  /-- A query. -/
  | query (query : Query)
  /-- A table with its joins. -/
  | tables (tables : TableJoins)
  /-- A statement inside the statement. -/
  | statement (statement : Statement)

end

namespace Arguments

/-- The number of arguments; a query counts as one. -/
def arity : Arguments → Nat
  | none => 0
  | query _ => 1
  | list items _ => items.length

end Arguments

namespace Part

/-- Expressions as parts. -/
def exprs (items : List Expr) : List Part :=
  items.map Part.expr

end Part

namespace Query

/-- A query that consists of a body only. -/
def ofBody (body : Body) : Query :=
  .mk false [] body []

end Query

end Grammar

end SqlLineage
