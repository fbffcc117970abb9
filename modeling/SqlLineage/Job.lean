import SqlLineage.Path

/-!
# Jobs and their documents

A job is one version of a data integration job. Its document lists context parameters and the nodes
of components; a node is a component name with parameters, of which the first one with a name or a
field type counts.
-/

namespace SqlLineage

/-- One version of a job. -/
structure Job where
  /-- The name, which all versions of the job share. -/
  name : String
  /-- The version. -/
  version : String
  /-- Where the document is. -/
  location : Path
deriving DecidableEq, Repr, Inhabited

namespace Job

instance : Ord Job :=
  ⟨compareLex (compareOn name) (compareLex (compareOn version) (compareOn location))⟩

instance : Std.TransOrd Job :=
  inferInstanceAs (Std.TransCmp
    (compareLex (compareOn name) (compareLex (compareOn version) (compareOn location))))

/-- The job as it is shown to a user. -/
def display (job : Job) : String :=
  job.name ++ "_" ++ job.version

end Job

/-- A parameter of a job's context. -/
structure ContextParameter where
  /-- The name of the variable. -/
  name : String
  /-- The value, empty if none is given. -/
  value : String
deriving DecidableEq, Repr

/-- A parameter of a component. -/
structure ElementParameter where
  /-- The name. -/
  name : String
  /-- The field type, empty if none is given. -/
  field : String
  /-- The value, empty if none is given. -/
  value : String
deriving DecidableEq, Repr

/-- The kinds of components that bear SQL. -/
inductive ComponentKind
  /-- Reads by a query. -/
  | input
  /-- Runs a statement. -/
  | row
  /-- Writes a table. -/
  | output
deriving DecidableEq, Repr

namespace ComponentKind

/-- Whether `part` occurs in a text. -/
def occurs (part : List Char) : List Char → Bool
  | [] => part.isEmpty
  | c :: cs => part.isPrefixOf (c :: cs) || occurs part cs

/-- The kind that the name of a component says. A name that says several counts as output before
input before row. -/
def ofName? (name : String) : Option ComponentKind :=
  if occurs "Output".toList name.toList then some output
  else if occurs "Input".toList name.toList then some input
  else if occurs "Row".toList name.toList then some row
  else none

end ComponentKind

/-- A component as its document gives it. -/
structure ComponentNode where
  /-- The name, which says the kind. -/
  componentName : String
  /-- The parameters. -/
  parameters : List ElementParameter
deriving DecidableEq, Repr

namespace ComponentNode

/-- The value of the first parameter called `name`. -/
def valueNamed? (node : ComponentNode) (name : String) : Option String :=
  (node.parameters.find? fun parameter => parameter.name == name).map (·.value)

/-- The value of the first parameter whose field type is `field`. -/
def valueOfType? (node : ComponentNode) (field : String) : Option String :=
  (node.parameters.find? fun parameter => parameter.field == field).map (·.value)

/-- The value of the first parameter whose field type speaks of a table. -/
def tableValue? (node : ComponentNode) : Option String :=
  (node.parameters.find? fun parameter =>
    ComponentKind.occurs "TABLE".toList parameter.field.toList).map (·.value)

/-- The kind of a component that bears SQL. -/
def kind? (node : ComponentNode) : Option ComponentKind :=
  ComponentKind.ofName? node.componentName

end ComponentNode

/-- What a job's document says. -/
structure JobDocument where
  /-- The parameters of the context. -/
  context : List ContextParameter
  /-- The components. -/
  components : List ComponentNode
deriving DecidableEq, Repr, Inhabited

namespace JobDocument

/-- The components of one of `kinds`, in the order of the document. -/
def componentsOfKind (document : JobDocument) (kinds : List ComponentKind) : List ComponentNode :=
  document.components.filter fun node =>
    match node.kind? with
    | some kind => kinds.contains kind
    | none => false

end JobDocument

/-- The lack of a parameter that every component needs. -/
structure MissingParameter where
  /-- The name of the component. -/
  component : String
  /-- The name of the parameter. -/
  parameter : String
deriving DecidableEq, Repr

/-- The message for a user. -/
def MissingParameter.message (error : MissingParameter) : String :=
  "[L006] Component " ++ error.component ++ " is missing required parameter " ++ error.parameter

/-- What a node says to lineage. -/
inductive Component
  /-- It writes `table` in `schema`. -/
  | output (id : String) (table schema : Option String)
  /-- It runs `sql`. -/
  | query (id : String) (sql : Option String)
deriving DecidableEq, Repr

namespace Component

/-- The identifier within the job. -/
def id : Component → String
  | output id _ _ => id
  | query id _ => id

/-- The component of a node, which needs an identifier. -/
def ofNode (node : ComponentNode) : Except MissingParameter Component :=
  match node.valueNamed? "UNIQUE_NAME" with
  | none => .error ⟨node.componentName, "UNIQUE_NAME"⟩
  | some id =>
    match node.kind? with
    | some .output => .ok (output id node.tableValue? (node.valueNamed? "SCHEMA_DB"))
    | _ => .ok (query id (node.valueOfType? "MEMO_SQL"))

end Component

end SqlLineage
