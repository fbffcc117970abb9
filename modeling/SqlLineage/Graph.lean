import SqlLineage.Lineage

/-!
# Lineage graphs

Tables, jobs and functions are the nodes of a graph, and an edge says that a job reads, writes or
calls. Nodes and edges keep the order in which they came in, and a node or an ordered pair of nodes
comes in once.
-/

namespace SqlLineage

/-- A node of a lineage graph. -/
inductive LineageNode
  /-- A job, by its display. -/
  | job (name : String)
  /-- A table. -/
  | table (name : String)
  /-- A function, by its signature. -/
  | function (name : String)
deriving DecidableEq, Repr

namespace LineageNode

/-- The name of a node. -/
def name : LineageNode → String
  | job name => name
  | table name => name
  | function name => name

/-- The word for the kind of a node. -/
def kindWord : LineageNode → String
  | job _ => "job"
  | table _ => "table"
  | function _ => "function"

/-- The identifier of a node, which no other node has. -/
def id (node : LineageNode) : String :=
  node.kindWord ++ ":" ++ node.name

/-- The shape in which a node is drawn. -/
def shape : LineageNode → String
  | job _ => "box"
  | table _ => "cylinder"
  | function _ => "ellipse"

end LineageNode

/-- What an edge says. -/
inductive LineageEdge
  /-- The job reads the table. -/
  | reads
  /-- The job writes the table. -/
  | writes
  /-- The job calls the function. -/
  | calls
deriving DecidableEq, Repr

/-- The line in which an edge is drawn. -/
def LineageEdge.line : LineageEdge → String
  | reads => "solid"
  | writes => "solid"
  | calls => "dashed"

/-- An edge with its ends. -/
structure LineageArrow where
  /-- Where it starts. -/
  source : LineageNode
  /-- Where it ends. -/
  target : LineageNode
  /-- What it says. -/
  edge : LineageEdge
deriving DecidableEq, Repr

/-- A graph of lineage. -/
structure LineageGraph where
  /-- The nodes. -/
  nodes : UniqueList LineageNode
  /-- The edges. -/
  arrows : List LineageArrow
deriving DecidableEq

namespace LineageGraph

/-- The graph without nodes. -/
def empty : LineageGraph :=
  ⟨.empty, []⟩

/-- The graph with another edge and its ends. Two nodes keep the first edge between them. -/
def addArrow (graph : LineageGraph) (arrow : LineageArrow) : LineageGraph where
  nodes := (graph.nodes.insert arrow.source).insert arrow.target
  arrows :=
    if graph.arrows.any fun other =>
        other.source == arrow.source && other.target == arrow.target then graph.arrows
    else graph.arrows ++ [arrow]

/-- The edges that a result says, in the order of its jobs. -/
def arrowsOf (result : LineageResult) : List LineageArrow :=
  (result.inputTables.toList.flatMap fun (job, tables) =>
    tables.toList.map fun table => ⟨.table table, .job job.display, .reads⟩) ++
  (result.outputTables.toList.flatMap fun (job, tables) =>
    tables.toList.map fun table => ⟨.job job.display, .table table, .writes⟩) ++
  (result.functions.toList.flatMap fun (job, functions) =>
    functions.toList.map fun function => ⟨.job job.display, .function function, .calls⟩)

/-- The graph of a result. -/
def ofResult (result : LineageResult) : LineageGraph :=
  (arrowsOf result).foldl addArrow empty

/-- The names of the nodes from which an edge leads to a table. -/
def writersOf (graph : LineageGraph) (table : String) : List String :=
  ((graph.arrows.filter fun arrow => arrow.target == .table table).map (·.source.name)).mergeSort

/-- The names of the nodes to which an edge leads from a table. -/
def readersOf (graph : LineageGraph) (table : String) : List String :=
  ((graph.arrows.filter fun arrow => arrow.source == .table table).map (·.target.name)).mergeSort

/-- The text with `new` in the place of each `old`. -/
def replaceEach (old : Char) (new : String) (text : String) : String :=
  String.ofList (text.toList.flatMap fun c => if c = old then new.toList else [c])

/-- A name as it stands between quotes: a backslash is put in front of each backslash and then in
front of each quote. -/
def escape (name : String) : String :=
  replaceEach '"' "\\\"" (replaceEach '\\' "\\\\" name)

/-- A quoted name. -/
def quote (name : String) : String :=
  "\"" ++ escape name ++ "\""

/-- The line that declares a node. -/
def nodeLine (node : LineageNode) : String :=
  "  " ++ quote node.id ++ " [label=" ++ quote node.name ++ ", shape=" ++ node.shape ++ "];\n"

/-- The line that declares an edge. -/
def arrowLine (arrow : LineageArrow) : String :=
  "  " ++ quote arrow.source.id ++ " -> " ++ quote arrow.target.id ++
    " [style=" ++ arrow.edge.line ++ "];\n"

/-- The graph as a drawing in the DOT language. -/
def toDot (graph : LineageGraph) : String :=
  "digraph lineage \x7b\n  rankdir=LR;\n" ++ String.join (graph.nodes.toList.map nodeLine) ++
    String.join (graph.arrows.map arrowLine) ++ "\x7d\n"

end LineageGraph

end SqlLineage
