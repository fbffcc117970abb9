import SqlLineage.UniqueList

/-!
# Lineage facts

What one piece of SQL says about lineage: the tables it reads and the functions it calls.
-/

namespace SqlLineage

/-- The tables that are read and the functions that are called. -/
structure Facts where
  /-- The tables that are read. -/
  tables : UniqueList String
  /-- The signatures of functions and procedures that are called. -/
  functions : UniqueList String
deriving DecidableEq

namespace Facts

/-- No tables and no functions. -/
def none : Facts :=
  ⟨.empty, .empty⟩

/-- The facts with another table. -/
def addTable (facts : Facts) (name : String) : Facts :=
  { facts with tables := facts.tables.insert name }

/-- The facts with another function. -/
def addFunction (facts : Facts) (signature : String) : Facts :=
  { facts with functions := facts.functions.insert signature }

end Facts

end SqlLineage
