import SqlLineage.Job
import SqlLineage.Text.Trim

/-!
# Validation of job documents

A document is valid if its context parameters have names, no two of them the same, and its components
that bear SQL have identifiers, no two of them the same.
-/

namespace SqlLineage

/-- What is wrong with a document. -/
structure ValidationResult where
  /-- The path of the document. -/
  path : Path
  /-- Whether nothing is wrong. -/
  isValid : Bool
  /-- What is wrong, in the order of the document. -/
  errors : List String
deriving DecidableEq, Repr

namespace ValidationResult

/-- Nothing is wrong at a path. -/
def valid (path : Path) : ValidationResult :=
  ⟨path, true, []⟩

/-- Something is wrong at a path. -/
def invalid (path : Path) (errors : List String) : ValidationResult :=
  ⟨path, false, errors⟩

/-- The result with something else that is wrong. -/
def addError (result : ValidationResult) (error : String) : ValidationResult :=
  { result with isValid := false, errors := result.errors ++ [error] }

end ValidationResult

namespace Validation

/-- What is wrong with context parameters, if `index` parameters come before them, whose names that
are not blank are `seen`. -/
def contextErrors (index : Nat) (seen : List String) : List ContextParameter → List String
  | [] => []
  | parameter :: parameters =>
    if Text.allBlank parameter.name then
      s!"Context parameter #{index + 1} has an empty name" ::
        contextErrors (index + 1) seen parameters
    else if seen.contains parameter.name then
      s!"Context parameter {parameter.name} is defined more than once" ::
        contextErrors (index + 1) seen parameters
    else contextErrors (index + 1) (parameter.name :: seen) parameters

/-- What is wrong with components, if `index` components come before them, whose identifiers are
`seen`. -/
def componentErrors (index : Nat) (seen : List String) : List ComponentNode → List String
  | [] => []
  | node :: nodes =>
    if node.kind?.isNone then componentErrors (index + 1) seen nodes
    else
      match Component.ofNode node with
      | .error error =>
        (s!"Component #{index + 1}: " ++ error.message) :: componentErrors (index + 1) seen nodes
      | .ok component =>
        if seen.contains component.id then
          ("Duplicate component id: " ++ component.id) :: componentErrors (index + 1) seen nodes
        else componentErrors (index + 1) (component.id :: seen) nodes

/-- Validates the document at a path. -/
def ofDocument (path : Path) (document : JobDocument) : ValidationResult :=
  (contextErrors 0 [] document.context ++ componentErrors 0 [] document.components).foldl
    ValidationResult.addError (.valid path)

end Validation

end SqlLineage
