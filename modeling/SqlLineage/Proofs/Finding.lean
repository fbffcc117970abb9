import SqlLineage.Finding
import SqlLineage.Proofs.Context.Replacement

/-!
# Where findings end

A component fails with the first reference without a value of the parameter that is resolved first:
an output resolves its table and then its schema, any other component its query. Findings go up to
the first component that fails, and what was found in it is its failure alone.
-/

namespace SqlLineage

namespace Component

/-- The parameters that a component resolves, in order. -/
def resolved : Component → List String
  | output _ none _ => []
  | output _ (some table) schema => table :: schema.toList
  | query _ none => []
  | query _ (some sql) => if Text.allBlank sql then [] else [sql]

/-- The name of the first reference without a value in the parameters that a component resolves. -/
def unbound? (context : Context) (component : Component) : Option String :=
  component.resolved.findSome? context.unbound?

end Component

namespace ComponentNode

/-- Whether a node bears SQL. -/
def bearsSql (node : ComponentNode) : Bool :=
  node.kind?.isSome

/-- The component of a node that bears SQL and has an identifier. -/
def component? (node : ComponentNode) : Option Component :=
  if node.bearsSql then (Component.ofNode node).toOption else none

end ComponentNode

namespace JobDocument

/-- The nodes that bear SQL are those of some kind. -/
theorem componentsOfKind_all (document : JobDocument) :
    document.componentsOfKind [.input, .row, .output] =
      document.components.filter ComponentNode.bearsSql := by
  rw [componentsOfKind]
  refine List.filter_congr fun node _ => ?_
  rw [ComponentNode.bearsSql]
  cases node.kind? with
  | none => rfl
  | some kind => cases kind <;> rfl

end JobDocument

namespace Finding

/-- The table of an output is resolved before its schema. -/
theorem resolveTable_eq
    (context : Context)
    (table : String)
    (schema : Option String) :
    ∃ written, resolveTable context table schema =
      match (table :: schema.toList).findSome? context.unbound? with
      | some name => .error ⟨name⟩
      | none => .ok written := by
  rw [resolveTable, Context.resolve_eq, List.findSome?_cons]
  cases context.unbound? table with
  | some name => exact ⟨table, rfl⟩
  | none =>
      cases schema with
      | none => exact ⟨_, rfl⟩
      | some schema =>
          simp only [Context.resolve_eq, Option.toList_some, List.findSome?_singleton]
          cases context.unbound? schema with
          | some name => exact ⟨table, rfl⟩
          | none => exact ⟨_, rfl⟩

/-- A component fails exactly with its first reference without a value. -/
theorem error?_ofComponent?
    (grammar : SqlGrammar)
    (policy : ExtractionPolicy)
    (context : Context)
    (component : Component) :
    (ofComponent? grammar policy context component).bind error? =
      (component.unbound? context).map (.unresolved component.id) := by
  rw [Component.unbound?]
  cases component with
  | output id table schema =>
      cases table with
      | none => rfl
      | some table =>
          obtain ⟨written, resolved⟩ := resolveTable_eq context table schema
          rw [ofComponent?, resolved, Component.resolved]
          cases (table :: schema.toList).findSome? context.unbound? <;> rfl
  | query id sql =>
      cases sql with
      | none => rfl
      | some sql =>
          rw [ofComponent?, Component.resolved, Context.replace_eq]
          split
          next => rfl
          next =>
            rw [List.findSome?_singleton]
            cases context.unbound? sql <;> rfl

/-- The error that a node stands for, if the node bears SQL. -/
def nodeError? (context : Context) (node : ComponentNode) : Option LineageError :=
  node.component?.bind fun component =>
    (component.unbound? context).map (.unresolved component.id)

theorem error?_ofNode?
    (grammar : SqlGrammar)
    (policy : ExtractionPolicy)
    (context : Context)
    {node : ComponentNode}
    (bearsSql : node.bearsSql = true) :
    (ofNode? grammar policy context node).bind error? = nodeError? context node := by
  rw [ofNode?, nodeError?, ComponentNode.component?, if_pos bearsSql]
  cases Component.ofNode node with
  | error missing => rfl
  | ok component => exact error?_ofComponent? grammar policy context component

/-! ## Findings up to the first failure -/

variable {grammar : SqlGrammar}
variable {policy : ExtractionPolicy}
variable {context : Context}

/-- Nodes that do not fail are gone through to the end. -/
theorem ofNodes_append
    {front : List ComponentNode}
    (succeed : ∀ node ∈ front, (ofNode? grammar policy context node).bind error? = none)
    (behind : List ComponentNode) :
    ofNodes grammar policy context (front ++ behind) =
      ofNodes grammar policy context front ++ ofNodes grammar policy context behind := by
  induction front with
  | nil => rfl
  | cons node front inductionHypothesis =>
      obtain ⟨head, tail⟩ := List.forall_mem_cons.1 succeed
      rw [List.cons_append, ofNodes, ofNodes, inductionHypothesis tail]
      cases found : ofNode? grammar policy context node with
      | none => rfl
      | some finding =>
          rw [found, Option.bind_some] at head
          simp [head]

/-- If no node fails, nothing that is found is a failure. -/
theorem failure?_ofNodes
    {nodes : List ComponentNode}
    (succeed : ∀ node ∈ nodes, (ofNode? grammar policy context node).bind error? = none) :
    failure? (ofNodes grammar policy context nodes) = none := by
  induction nodes with
  | nil => rfl
  | cons node nodes inductionHypothesis =>
      obtain ⟨head, tail⟩ := List.forall_mem_cons.1 succeed
      have later := inductionHypothesis tail
      rw [failure?] at later ⊢
      rw [ofNodes]
      cases found : ofNode? grammar policy context node with
      | none => exact later
      | some finding =>
          rw [found, Option.bind_some] at head
          simp [head, later]

/-- Findings that are not ended by a failure are those of all nodes. -/
theorem ofNodes_eq_filterMap
    {nodes : List ComponentNode}
    (complete : failure? (ofNodes grammar policy context nodes) = none) :
    ofNodes grammar policy context nodes = nodes.filterMap (ofNode? grammar policy context) := by
  induction nodes with
  | nil => rfl
  | cons node nodes inductionHypothesis =>
      rw [ofNodes] at complete ⊢
      cases found : ofNode? grammar policy context node with
      | none =>
          rw [found] at complete
          rw [List.filterMap_cons_none found]
          exact inductionHypothesis complete
      | some finding =>
          rw [found] at complete
          rw [List.filterMap_cons_some found]
          cases failure : finding.error? with
          | some error => simp [failure?, failure] at complete
          | none =>
              simp only [failure, Option.isSome_none, Bool.false_eq_true, if_false] at complete ⊢
              rw [failure?, List.findSome?_cons, failure] at complete
              rw [inductionHypothesis complete]

/-- Nothing is found behind a node that fails, and in it only its failure. -/
theorem ofNodes_cons_of_error
    {node : ComponentNode}
    {error : LineageError}
    (fails : (ofNode? grammar policy context node).bind error? = some error)
    (behind : List ComponentNode) :
    ∃ finding, ofNodes grammar policy context (node :: behind) = [finding] ∧
      finding.error? = some error := by
  obtain ⟨finding, found, failure⟩ := Option.bind_eq_some_iff.1 fails
  refine ⟨finding, ?_, failure⟩
  rw [ofNodes, found]
  simp [failure]

/-- A failure adds nothing to a lineage. -/
theorem addTo_of_error
    {finding : Finding}
    {error : LineageError}
    (failure : finding.error? = some error)
    (lineage : JobLineage) :
    finding.addTo lineage = lineage := by
  cases finding with
  | unresolved component query name => rfl
  | skipped => cases failure
  | written => cases failure
  | queried => cases failure

/-- No node fails if no component with an identifier does. -/
theorem succeed_of_bound
    (grammar : SqlGrammar)
    (policy : ExtractionPolicy)
    {nodes : List ComponentNode}
    (bound : ∀ component ∈ nodes.filterMap ComponentNode.component?,
      component.unbound? context = none) :
    ∀ node ∈ nodes.filter ComponentNode.bearsSql,
      (ofNode? grammar policy context node).bind error? = none := by
  intro node member
  obtain ⟨present, bearsSql⟩ := List.mem_filter.1 member
  rw [error?_ofNode? grammar policy context bearsSql, nodeError?]
  cases named : node.component? with
  | none => rfl
  | some component =>
      rw [Option.bind_some, bound component (List.mem_filterMap.2 ⟨node, present, named⟩)]
      rfl

/-- A document in which no component fails is gone through to its end. -/
theorem failure?_ofDocument
    (grammar : SqlGrammar)
    (policy : ExtractionPolicy)
    {document : JobDocument}
    (bound : ∀ component ∈ document.components.filterMap ComponentNode.component?,
      component.unbound? (.ofParameters document.context) = none) :
    failure? (ofDocument grammar policy document) = none := by
  rw [ofDocument, JobDocument.componentsOfKind_all]
  exact failure?_ofNodes (succeed_of_bound grammar policy bound)

/-- What is found in a document is what is found in front of the first component that fails, and
then its failure. -/
theorem ofDocument_of_unbound
    (grammar : SqlGrammar)
    (policy : ExtractionPolicy)
    {document : JobDocument}
    {front behind : List ComponentNode}
    {node : ComponentNode}
    {component : Component}
    {name : String}
    (split : document.components = front ++ node :: behind)
    (bound : ∀ earlier ∈ front.filterMap ComponentNode.component?,
      earlier.unbound? (.ofParameters document.context) = none)
    (named : node.component? = some component)
    (unbound : component.unbound? (.ofParameters document.context) = some name) :
    ∃ finding, ofDocument grammar policy document =
        ofDocument grammar policy { document with components := front } ++ [finding] ∧
      finding.error? = some (.unresolved component.id name) := by
  have bearsSql : node.bearsSql = true := by
    rw [ComponentNode.component?] at named
    split at named
    next bearsSql => exact bearsSql
    next => cases named
  have fails : (ofNode? grammar policy (.ofParameters document.context) node).bind error? =
      some (.unresolved component.id name) := by
    rw [error?_ofNode? grammar policy _ bearsSql, nodeError?, named, Option.bind_some, unbound]
    rfl
  obtain ⟨finding, last, failure⟩ :=
    ofNodes_cons_of_error fails (behind.filter ComponentNode.bearsSql)
  refine ⟨finding, ?_, failure⟩
  rw [ofDocument, ofDocument, JobDocument.componentsOfKind_all,
    JobDocument.componentsOfKind_all, split, List.filter_append,
    List.filter_cons_of_pos bearsSql,
    ofNodes_append (succeed_of_bound grammar policy bound), last]

end Finding
end SqlLineage
