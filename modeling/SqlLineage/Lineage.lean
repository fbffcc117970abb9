import SqlLineage.Job
import SqlLineage.OrderedMap
import SqlLineage.UniqueList

/-!
# Lineage

The lineage of a job is what it reads, writes and calls. A result keeps the lineages of jobs; merging
another lineage of a job puts its members behind those that are there, and a lineage that says
nothing leaves no trace.
-/

namespace SqlLineage

/-- The lineage of one job. -/
structure JobLineage where
  /-- The tables that are read. -/
  inputs : UniqueList String
  /-- The tables that are written. -/
  outputs : UniqueList String
  /-- The functions that are called. -/
  functions : UniqueList String
  /-- The tables that each component reads. -/
  perComponent : OrderedMap String (UniqueList String)
deriving DecidableEq

namespace JobLineage

/-- The lineage that says nothing. -/
def empty : JobLineage :=
  ⟨.empty, .empty, .empty, .empty⟩

/-- The lineage with a component, which may read nothing. -/
def addComponent (lineage : JobLineage) (component : String) : JobLineage :=
  { lineage with perComponent := lineage.perComponent.update component (·.getD .empty) }

/-- The lineage with a table that a component reads. -/
def addInput (lineage : JobLineage) (component table : String) : JobLineage :=
  { lineage with
    inputs := lineage.inputs.insert table
    perComponent := lineage.perComponent.update component fun tables =>
      (tables.getD .empty).insert table }

/-- The lineage with a table that is written. -/
def addOutput (lineage : JobLineage) (table : String) : JobLineage :=
  { lineage with outputs := lineage.outputs.insert table }

/-- The lineage with a function that is called. -/
def addFunction (lineage : JobLineage) (signature : String) : JobLineage :=
  { lineage with functions := lineage.functions.insert signature }

/-- Whether nothing is read, written or called. -/
def isEmpty (lineage : JobLineage) : Bool :=
  lineage.inputs.isEmpty && lineage.outputs.isEmpty && lineage.functions.isEmpty

end JobLineage

/-- The lineages of jobs. -/
structure LineageResult where
  /-- The tables that each job reads. -/
  inputTables : OrderedMap Job (UniqueList String)
  /-- The tables that each job writes. -/
  outputTables : OrderedMap Job (UniqueList String)
  /-- The functions that each job calls. -/
  functions : OrderedMap Job (UniqueList String)
  /-- The tables that each component reads, by the name of its job. -/
  inputTablesPerComponent : OrderedMap String (OrderedMap String (UniqueList String))
deriving DecidableEq

namespace LineageResult

/-- The result without jobs. -/
def empty : LineageResult :=
  ⟨.empty, .empty, .empty, .empty⟩

/-- The map with the members of `list` behind those of `key`, if there are any. -/
def mergeList {κ : Type} [Ord κ] [Std.TransOrd κ] (map : OrderedMap κ (UniqueList String)) (key : κ)
    (list : UniqueList String) : OrderedMap κ (UniqueList String) :=
  if list.isEmpty then map
  else map.update key fun members => (members.getD .empty).extend list.toList

/-- The result with the lineage of `job`. -/
def merge (result : LineageResult) (job : Job) (lineage : JobLineage) : LineageResult where
  inputTables := mergeList result.inputTables job lineage.inputs
  outputTables := mergeList result.outputTables job lineage.outputs
  functions := mergeList result.functions job lineage.functions
  inputTablesPerComponent :=
    lineage.perComponent.toList.foldl (fun jobs (component, tables) =>
      if tables.isEmpty then jobs
      else jobs.update job.name fun components =>
        mergeList (components.getD .empty) component tables) result.inputTablesPerComponent

/-- The jobs that read, write or call anything, in order. A job that several lists name is the one
of the first list. -/
def jobs (result : LineageResult) : List Job :=
  let named := result.inputTables.keys ++ result.outputTables.keys ++ result.functions.keys
  (named.foldl (fun seen job => seen.update job fun _ => ())
    (OrderedMap.empty : OrderedMap Job Unit)).keys

/-- Whether no job reads, writes or calls anything. -/
def isEmpty (result : LineageResult) : Bool :=
  result.inputTables.isEmpty && result.outputTables.isEmpty && result.functions.isEmpty

/-- The members that a map gives a job. -/
def members (map : OrderedMap Job (UniqueList String)) (job : Job) : List String :=
  match map.get? job with
  | some list => list.toList
  | none => []

/-- The tables that the components of all jobs with a name read. -/
def components (result : LineageResult) (name : String) : List (String × List String) :=
  match result.inputTablesPerComponent.get? name with
  | some components => components.toList.map fun (component, tables) => (component, tables.toList)
  | none => []

end LineageResult

/-- How many jobs a search found, and how many of them failed. -/
structure SearchStats where
  /-- The jobs that were found. -/
  jobsFound : Nat
  /-- The jobs that failed. -/
  jobsFailed : Nat
deriving DecidableEq, Repr

end SqlLineage
