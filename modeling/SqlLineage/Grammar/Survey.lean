import SqlLineage.Facts
import SqlLineage.Grammar.Walk

/-!
# The facts of statements

A survey turns the events of a walk into facts. The tables named inside a statement wait in the
scope of that statement until it ends; then those that are neither defined by one of its common
table expressions nor written by it are tables that it reads. A common table expression hides a name
everywhere in its statement, but not in the statements around it or inside it.
-/

namespace SqlLineage

namespace Grammar

/-- What is known about a statement that has not ended. -/
structure Scope where
  /-- The tables named so far. -/
  relations : List String
  /-- The quoted names of common table expressions; they hide exactly themselves. -/
  exactNames : List String
  /-- The lowercase bare names of common table expressions; they hide every spelling. -/
  foldedNames : List String
  /-- The tables that the statement writes to. -/
  targets : List String
deriving DecidableEq

namespace Scope

/-- The scope of a statement that writes to `targets`. -/
def opened (targets : List String) : Scope :=
  ⟨[], [], [], targets⟩

/-- The scope with the name of another common table expression. -/
def define (scope : Scope) (name : Ident) : Scope :=
  if name.quote.isSome then { scope with exactNames := name.value :: scope.exactNames }
  else { scope with foldedNames := Text.lower name.value :: scope.foldedNames }

/-- The scope with another named table. -/
def relate (scope : Scope) (name : String) : Scope :=
  { scope with relations := scope.relations ++ [name] }

/-- Whether a name is that of a common table expression. -/
def defines (scope : Scope) (name : String) : Bool :=
  scope.exactNames.contains name || scope.foldedNames.contains (Text.lower name)

/-- The tables that the statement reads. -/
def reads (scope : Scope) : List String :=
  scope.relations.filter fun name => !scope.defines name && !scope.targets.contains name

end Scope

/-- The state of a survey. -/
structure Survey where
  /-- The scopes of the statements that have not ended, the innermost first. -/
  scopes : List Scope
  /-- Whether the next name is that of a table function. -/
  skips : Bool
  /-- The facts of the statements that have ended. -/
  facts : Facts
deriving DecidableEq

namespace Survey

/-- The survey before the first statement. -/
def start : Survey :=
  ⟨[], false, .none⟩

/-- The survey after one event. -/
def step (survey : Survey) : Event → Survey
  | .enter targets => { survey with scopes := .opened targets :: survey.scopes }
  | .leave =>
    match survey.scopes with
    | [] => survey
    | scope :: scopes =>
      { survey with scopes, facts := scope.reads.foldl Facts.addTable survey.facts }
  | .define name =>
    match survey.scopes with
    | [] => survey
    | scope :: scopes => { survey with scopes := scope.define name :: scopes }
  | .relation name =>
    if survey.skips then { survey with skips := false }
    else
      match survey.scopes with
      | [] => { survey with facts := survey.facts.addTable name }
      | scope :: scopes => { survey with scopes := scope.relate name :: scopes }
  | .tableFunction signature =>
    { survey with skips := true, facts := survey.facts.addFunction signature }
  | .call signature => { survey with facts := survey.facts.addFunction signature }

/-- The survey after events. -/
def run (survey : Survey) (events : List Event) : Survey :=
  events.foldl step survey

end Survey

/-- The facts of statements. -/
def factsOf (statements : List Statement) : Facts :=
  (Survey.start.run (statements.flatMap Walk.statement)).facts

end Grammar

end SqlLineage
