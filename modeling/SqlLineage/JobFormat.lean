import SqlLineage.Job
import SqlLineage.Yaml.Decode

/-!
# Job documents as text

A job document is a mapping with the lists `context` and `components`. Everything but the names of
parameters and components may be left out, and keys of other names are ignored.
-/

namespace SqlLineage

namespace JobFormat

open Yaml
open Yaml.Decoder

/-- A text in a document. -/
def text : Route → Decoder String :=
  string "a string"

/-- The members of a context parameter that have been read: its name and its value. -/
abbrev ContextMembers := Option String × Option String

/-- Reads a member of the context parameter on a route. -/
def contextMember (route : Route) (mark : Mark) (members : ContextMembers) (key : String)
    (inner : Route) : Decoder ContextMembers := do
  match key with
  | "name" => return (← once route mark key members.1 (text inner), members.2)
  | "value" => return (members.1, ← once route mark key members.2 (text inner))
  | _ =>
    skipValue
    return members

/-- A context parameter. -/
def contextParameter (route : Route) : Decoder ContextParameter := do
  let ((name, value), mark) ←
    mapping "struct ContextParameter" (contextMember route) (none, none) route
  return ⟨← required route mark "name" name, value.getD ""⟩

/-- The members of an element parameter that have been read: its name, its field and its value. -/
abbrev ElementMembers := Option String × Option String × Option String

/-- Reads a member of the element parameter on a route. -/
def elementMember (route : Route) (mark : Mark) (members : ElementMembers) (key : String)
    (inner : Route) : Decoder ElementMembers := do
  let (name, field, value) := members
  match key with
  | "name" => return (← once route mark key name (text inner), field, value)
  | "field" => return (name, ← once route mark key field (text inner), value)
  | "value" => return (name, field, ← once route mark key value (text inner))
  | _ =>
    skipValue
    return members

/-- An element parameter. -/
def elementParameter (route : Route) : Decoder ElementParameter := do
  let ((name, field, value), mark) ←
    mapping "struct ElementParameter" (elementMember route) (none, none, none) route
  return ⟨← required route mark "name" name, field.getD "", value.getD ""⟩

/-- The members of a component that have been read: its name and its parameters. -/
abbrev NodeMembers := Option String × Option (List ElementParameter)

/-- Reads a member of the component on a route. -/
def nodeMember (route : Route) (mark : Mark) (members : NodeMembers) (key : String)
    (inner : Route) : Decoder NodeMembers := do
  match key with
  | "componentName" => return (← once route mark key members.1 (text inner), members.2)
  | "parameters" =>
    return (members.1, ← once route mark key members.2 (sequence elementParameter inner))
  | _ =>
    skipValue
    return members

/-- A component. -/
def componentNode (route : Route) : Decoder ComponentNode := do
  let ((name, parameters), mark) ←
    mapping "struct ComponentNode" (nodeMember route) (none, none) route
  return ⟨← required route mark "componentName" name, parameters.getD []⟩

/-- The members of a document that have been read: its context and its components. -/
abbrev DocumentMembers := Option (List ContextParameter) × Option (List ComponentNode)

/-- Reads a member of the document on a route. -/
def documentMember (route : Route) (mark : Mark) (members : DocumentMembers) (key : String)
    (inner : Route) : Decoder DocumentMembers := do
  match key with
  | "context" =>
    return (← once route mark key members.1 (sequence contextParameter inner), members.2)
  | "components" =>
    return (members.1, ← once route mark key members.2 (sequence componentNode inner))
  | _ =>
    skipValue
    return members

/-- A job document. -/
def document (route : Route) : Decoder JobDocument := do
  let ((context, components), _) ←
    mapping "struct JobDocument" (documentMember route) (none, none) route
  return ⟨context.getD [], components.getD []⟩

end JobFormat

/-- The document that a text describes. -/
def JobDocument.ofText (text : String) : Except Yaml.Error JobDocument :=
  Yaml.Decoder.ofText JobFormat.document text

end SqlLineage
