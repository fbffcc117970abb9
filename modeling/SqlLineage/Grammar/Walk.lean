import SqlLineage.Grammar.Syntax
import SqlLineage.Text.Case

/-!
# Walking through statements

A walk through a statement meets, in the order of the text, where statements begin and end, which
names common table expressions define, which tables are named, and which functions are called.
-/

namespace SqlLineage

namespace Grammar

/-- What a walk meets. -/
inductive Event
  /-- A statement begins; it writes to `targets`. -/
  | enter (targets : List String)
  /-- The last statement that began ends. -/
  | leave
  /-- A common table expression is defined. -/
  | define (name : Ident)
  /-- A table is named. -/
  | relation (name : String)
  /-- The next name is that of a table function. -/
  | tableFunction (signature : String)
  /-- A function or a procedure is called. -/
  | call (signature : String)
deriving DecidableEq, Repr

namespace Walk

/-- A name with a number of arguments. -/
def signature (name : ObjectName) (arity : Nat) : String :=
  name.dotted ++ "(" ++ toString arity ++ ")"

/-- Functions of the language itself, which say nothing about lineage. -/
def builtins : List String :=
  ["COUNT", "SUM", "AVG", "MIN", "MAX", "DATE", "TIME", "TIMESTAMP", "EXTRACT", "CONCAT",
    "CONCAT_WS", "SUBSTRING", "SUBSTR", "UPPER", "LOWER", "COALESCE", "NULLIF", "CAST",
    "CONVERT", "ROUND", "FLOOR", "CEILING", "CEIL", "ABS", "DATE_TRUNC", "DATE_PART",
    "DATE_DIFF", "DATE_ADD", "DATE_SUB", "DATEDIFF", "DATEADD", "DATE_FORMAT", "STR_TO_DATE",
    "CURRENT_DATE", "CURRENT_TIME", "CURRENT_TIMESTAMP", "NOW", "GETDATE", "SYSDATE",
    "CURDATE", "CURTIME", "YEAR", "MONTH", "DAY", "IF", "IFNULL", "ISNULL", "NVL", "NVL2",
    "IIF", "DECODE", "LENGTH", "LEN", "CHAR_LENGTH", "TRIM", "LTRIM", "RTRIM", "REPLACE",
    "LEFT", "RIGHT", "INSTR", "LOCATE", "POSITION", "TO_CHAR", "TO_DATE", "TO_NUMBER",
    "TO_TIMESTAMP", "MOD", "POWER", "SQRT", "GREATEST", "LEAST", "FORMAT", "ROW_NUMBER",
    "RANK", "DENSE_RANK", "NTILE", "LAG", "LEAD", "FIRST_VALUE", "LAST_VALUE",
    "STRING_AGG", "GROUP_CONCAT", "LISTAGG", "UNIX_TIMESTAMP", "FROM_UNIXTIME"]

/-- Whether a name of one part is that of a function of the language, in any case of letters. -/
def isBuiltin : ObjectName → Bool
  | [part] => builtins.any fun builtin => Text.eqIgnoreAsciiCase builtin part.value
  | _ => false

/-- Whether the arguments of a table are hints to read it without locks. -/
def areHints (args : List Expr) : Bool :=
  !args.isEmpty && args.all fun
    | .name [part] => Text.eqIgnoreAsciiCase part.value "NOLOCK"
    | _ => false

/-- The name of a source of rows that is a table. -/
def tableName? : TableFactor → Option String
  | .table name _ _ => some name.dotted
  | _ => none

/-- The first table of a join, if it is a table. -/
def firstName? : TableJoins → Option String
  | .mk table _ => tableName? table

/-- The tables that a statement writes to. -/
def writtenNames : Statement → List String
  | .insert target _ => (target.map ObjectName.dotted).toList
  | .update table _ => (firstName? table).toList
  | .delete names tables _ =>
    if names.isEmpty then tables.filterMap firstName? else names.map ObjectName.dotted
  | .merge target _ _ => (tableName? target).toList
  | .createTable name _ => [name.dotted]
  | .createView name _ => [name.dotted]
  | .alterTable name _ => [name.dotted]
  | .drop names => names.map ObjectName.dotted
  | _ => []

/-- What is met at the name of a table with arguments: a table function, unless they are hints. -/
def tableCall (name : ObjectName) : Option (List Expr) → List Event
  | some args => if areHints args then [] else [.tableFunction (signature name args.length)]
  | none => []

/-- What is met at a call in an expression. -/
def exprCall (name : ObjectName) (args : Arguments) : List Event :=
  if isBuiltin name then [] else [.call (signature name args.arity)]

/-- What is met before a statement: the procedure that it calls, and its beginning. -/
def beginning : Statement → List Event
  | .call name parameters args clauses =>
    [.call (signature name args.arity),
      .enter (writtenNames (.call name parameters args clauses))]
  | .execute name args bound =>
    [.call (signature name args.length), .enter (writtenNames (.execute name args bound))]
  | statement => [.enter (writtenNames statement)]

/-- What is met in a statement, given what is met in its parts. -/
def enclosed (s : Statement) (inner : List Event) : List Event :=
  beginning s ++ inner ++ [.leave]

mutual

/-- What is met in an expression. -/
def expr : Expr → List Event
  | .name _ => []
  | .literal => []
  | .wildcard _ => []
  | .call name parameters args clauses =>
    exprCall name args ++ arguments parameters ++ arguments args ++ exprs clauses
  | .query q => query q
  | .equality left right => expr left ++ expr right
  | .access root chain => expr root ++ accesses chain
  | .outerJoin column => expr column
  | .tuple items => exprs items
  | .operation operands => exprs operands

/-- What is met in expressions. -/
def exprs : List Expr → List Event
  | [] => []
  | e :: es => expr e ++ exprs es

/-- What is met in a step into a value. -/
def access : Access → List Event
  | .field step => expr step
  | .element bounds => exprs bounds

/-- What is met in steps into a value. -/
def accesses : List Access → List Event
  | [] => []
  | a :: as => access a ++ accesses as

/-- What is met in arguments. -/
def arguments : Arguments → List Event
  | .none => []
  | .query q => query q
  | .list items clauses => exprs items ++ exprs clauses

/-- What is met in a query: first the names that its common table expressions define. -/
def query : Query → List Event
  | .mk _ definitions b tail => defined definitions ++ ctes definitions ++ body b ++ exprs tail

/-- The names that common table expressions define. -/
def defined : List Cte → List Event
  | [] => []
  | .mk name _ :: cs => .define name :: defined cs

/-- What is met in common table expressions. -/
def ctes : List Cte → List Event
  | [] => []
  | .mk _ q :: cs => query q ++ ctes cs

/-- What is met in the body of a query. -/
def body : Body → List Event
  | .select projection ts filters => exprs projection ++ tablesList ts ++ exprs filters
  | .query q => query q
  | .combination left right => body left ++ body right
  | .values rows => exprs rows
  | .statement s => statement s
  | .table => []

/-- What is met in a table and its joins. -/
def tables : TableJoins → List Event
  | .mk table js => factor table ++ joins js

/-- What is met in tables and their joins. -/
def tablesList : List TableJoins → List Event
  | [] => []
  | t :: ts => tables t ++ tablesList ts

/-- What is met in joins. -/
def joins : List Join → List Event
  | [] => []
  | .mk table conditions :: js => factor table ++ exprs conditions ++ joins js

/-- What is met in a source of rows. -/
def factor : TableFactor → List Event
  | .table name args options =>
    tableCall name args ++ .relation name.dotted :: (optionalExprs args ++ exprs options)
  | .derived q => query q
  | .lateral _ args => exprs args
  | .rows items => exprs items
  | .nested ts => tables ts
  | .rearranged table items => factor table ++ exprs items

/-- What is met in expressions that may be missing. -/
def optionalExprs : Option (List Expr) → List Event
  | none => []
  | some es => exprs es

/-- What is met in a statement: its beginning, its parts, and its end. -/
def statement : Statement → List Event
  | .query q => enclosed (.query q) (query q)
  | .insert (some target) ps =>
    enclosed (.insert (some target) ps) (.relation target.dotted :: parts ps)
  | .insert none ps => enclosed (.insert none ps) (parts ps)
  | .update table ps => enclosed (.update table ps) (tables table ++ parts ps)
  | .delete names ts ps => enclosed (.delete names ts ps) (tablesList ts ++ parts ps)
  | .merge target source ps =>
    enclosed (.merge target source ps) (factor target ++ factor source ++ parts ps)
  | .createTable name ps => enclosed (.createTable name ps) (.relation name.dotted :: parts ps)
  | .createView name ps => enclosed (.createView name ps) (parts ps)
  | .alterTable name ps => enclosed (.alterTable name ps) (.relation name.dotted :: parts ps)
  | .drop names => enclosed (.drop names) []
  | .call name parameters args clauses =>
    enclosed (.call name parameters args clauses)
      (arguments parameters ++ arguments args ++ exprs clauses)
  | .execute name args bound => enclosed (.execute name args bound) (exprs args ++ exprs bound)
  | .explain ps => enclosed (.explain ps) (parts ps)
  | .other ps => enclosed (.other ps) (parts ps)

/-- What is met in a part of a statement. -/
def part : Part → List Event
  | .relation name => [.relation name.dotted]
  | .expr e => expr e
  | .query q => query q
  | .tables ts => tables ts
  | .statement s => statement s

/-- What is met in parts of a statement. -/
def parts : List Part → List Event
  | [] => []
  | p :: ps => part p ++ parts ps

end

end Walk

end Grammar

end SqlLineage
