import Mathlib.Data.List.Induction
import Mathlib.Data.List.Nodup
import SqlLineage.Validation
import SqlLineage.Proofs.Collector.Components

/-!
# What validation tells

Whether an item of a document is faulty is said by the item and by the names of the items in front
of it. Validation, which remembers names as it goes, tells the faults of all items in order, and a
document is valid exactly if it is well-formed. The collector leaves out no component of a
well-formed document, and keeps apart what its components read.
-/

namespace SqlLineage

/-- The name of a parameter of a context, unless it is blank. -/
def ContextParameter.name? (parameter : ContextParameter) : Option String :=
  if Text.allBlank parameter.name then none else some parameter.name

namespace ComponentNode

/-- The identifier of a node that bears SQL, if it has one. -/
def id? (node : ComponentNode) : Option String :=
  if node.bearsSql then node.valueNamed? "UNIQUE_NAME" else none

theorem isSome_valueNamed?_iff (node : ComponentNode) (name : String) :
    (node.valueNamed? name).isSome ↔ ∃ parameter ∈ node.parameters, parameter.name = name := by
  simp [valueNamed?]

/-- A node with an identifier has a component, and a node without one lacks its identifier. -/
theorem ofNode_cases (node : ComponentNode) :
    (∃ component, Component.ofNode node = .ok component ∧
        node.valueNamed? "UNIQUE_NAME" = some component.id) ∨
      Component.ofNode node = .error ⟨node.componentName, "UNIQUE_NAME"⟩ ∧
        node.valueNamed? "UNIQUE_NAME" = none := by
  rw [Component.ofNode]
  cases node.valueNamed? "UNIQUE_NAME" with
  | none => exact .inr ⟨rfl, rfl⟩
  | some id =>
      left
      cases node.kind? with
      | none => exact ⟨_, rfl, rfl⟩
      | some kind => cases kind <;> exact ⟨_, rfl, rfl⟩

theorem id?_eq (node : ComponentNode) : node.id? = node.component?.map Component.id := by
  rw [id?, component?]
  split
  next =>
    obtain ⟨component, named, hasId⟩ | ⟨lacks, noId⟩ := node.ofNode_cases
    · rw [named, hasId]
      rfl
    · rw [lacks, noId]
      rfl
  next => rfl

end ComponentNode

namespace JobDocument

/-- A document is well-formed if its parameters have names, its components that bear SQL have
identifiers, and none of these occurs twice. -/
structure WellFormed (document : JobDocument) : Prop where
  /-- No parameter of the context has a blank name. -/
  named : ∀ parameter ∈ document.context, ¬Text.allBlank parameter.name
  /-- No two names that are not blank are the same. -/
  names_nodup : (document.context.filterMap ContextParameter.name?).Nodup
  /-- Each component that bears SQL has an identifier. -/
  identified : ∀ node ∈ document.components, node.bearsSql →
    ∃ parameter ∈ node.parameters, parameter.name = "UNIQUE_NAME"
  /-- No two identifiers are the same. -/
  ids_nodup : (document.components.filterMap ComponentNode.id?).Nodup

theorem ids_namedComponents (document : JobDocument) :
    document.namedComponents.map Component.id =
      document.components.filterMap ComponentNode.id? := by
  rw [namedComponents, List.map_filterMap]
  exact List.filterMap_congr fun node _ => node.id?_eq.symm

end JobDocument

namespace Validation

/-! ## Faults -/

/-- The faults of items in order, if what is wrong with an item depends on the items in front of
it. -/
def faults {α : Type} (fault? : List α → α → Option String) (items : List α) : List String :=
  items.zipIdx.filterMap fun entry => fault? (items.take entry.2) entry.1

/-- What is wrong with a parameter of a context behind others. -/
def contextFault? (earlier : List ContextParameter) (parameter : ContextParameter) :
    Option String :=
  if Text.allBlank parameter.name then
    some s!"Context parameter #{earlier.length + 1} has an empty name"
  else if parameter.name ∈ earlier.filterMap ContextParameter.name? then
    some s!"Context parameter {parameter.name} is defined more than once"
  else none

/-- What is wrong with a component behind others. -/
def componentFault? (earlier : List ComponentNode) (node : ComponentNode) : Option String :=
  if node.bearsSql then
    match node.valueNamed? "UNIQUE_NAME" with
    | none =>
      some (s!"Component #{earlier.length + 1}: " ++
        MissingParameter.message ⟨node.componentName, "UNIQUE_NAME"⟩)
    | some id =>
      if id ∈ earlier.filterMap ComponentNode.id? then some ("Duplicate component id: " ++ id)
      else none
  else none

section Faults

variable {α : Type}

/-- The first item has nothing in front of it, and stands in front of all others. -/
theorem faults_cons
    (fault? : List α → α → Option String)
    (item : α)
    (items : List α) :
    faults fault? (item :: items) =
      (fault? [] item).toList ++ faults (fun earlier => fault? (item :: earlier)) items := by
  rw [faults, faults, List.zipIdx_cons', List.filterMap_cons, List.filterMap_map]
  simp only [List.take_zero]
  cases fault? [] item <;> rfl

/-- Items behind others, of which the first stands in front of the rest as well. -/
theorem faults_cons_behind
    (fault? : List α → α → Option String)
    (earlier : List α)
    (item : α)
    (items : List α) :
    faults (fun later => fault? (earlier ++ later)) (item :: items) =
      (fault? earlier item).toList ++
        faults (fun later => fault? (earlier ++ [item] ++ later)) items := by
  rw [faults_cons, List.append_nil]
  simp only [List.append_assoc, List.singleton_append]

/-- The last item has all others in front of it. -/
theorem faults_concat
    (fault? : List α → α → Option String)
    (items : List α)
    (item : α) :
    faults fault? (items ++ [item]) = faults fault? items ++ (fault? items item).toList := by
  induction items generalizing fault? with
  | nil => rw [List.nil_append, faults_cons]; exact List.append_nil _
  | cons first items inductionHypothesis =>
      rw [List.cons_append, faults_cons, inductionHypothesis, faults_cons, List.append_assoc]

/-- Items have no faults if each of them is sound and no two of them have the same name. -/
theorem faults_eq_nil_iff
    {fault? : List α → α → Option String}
    {sound : α → Prop}
    {name? : α → Option String}
    (faultless_iff : ∀ earlier item, fault? earlier item = none ↔
      sound item ∧ ∀ name, name? item = some name → name ∉ earlier.filterMap name?)
    (items : List α) :
    faults fault? items = [] ↔ (∀ item ∈ items, sound item) ∧ (items.filterMap name?).Nodup := by
  induction items using List.reverseRecOn with
  | nil => exact iff_of_true rfl ⟨fun _ member => (List.not_mem_nil member).elim, List.nodup_nil⟩
  | append_singleton items item inductionHypothesis =>
      have nodup_iff : ((items ++ [item]).filterMap name?).Nodup ↔
          (items.filterMap name?).Nodup ∧
            ∀ name, name? item = some name → name ∉ items.filterMap name? := by
        rw [List.filterMap_append]
        cases named : name? item with
        | none => simp [named]
        | some name =>
            rw [List.filterMap_cons_some named, List.filterMap_nil, List.nodup_append_comm,
              List.singleton_append, List.nodup_cons, and_comm]
            simp only [Option.some.injEq, forall_eq']
      rw [faults_concat, List.append_eq_nil_iff, inductionHypothesis, nodup_iff,
        Option.toList_eq_nil_iff, faultless_iff]
      simp only [List.forall_mem_append, List.forall_mem_singleton]
      tauto

end Faults

/-! ## What validation remembers -/

section Remembers

variable {α : Type}

/-- The names that are remembered are those of the items that came before. -/
def Remembers (name? : α → Option String) (seen : List String) (earlier : List α) : Prop :=
  ∀ name, name ∈ seen ↔ name ∈ earlier.filterMap name?

variable {name? : α → Option String} {seen : List String} {earlier : List α} {item : α}

namespace Remembers

theorem nil : Remembers name? [] [] :=
  fun _ => Iff.rfl

/-- There is nothing to remember of an item without a name. -/
theorem nameless
    (remembers : Remembers name? seen earlier)
    (noName : name? item = none) :
    Remembers name? seen (earlier ++ [item]) := by
  intro name
  rw [List.filterMap_append, List.filterMap_cons_none noName, List.filterMap_nil, List.append_nil]
  exact remembers name

/-- A name is remembered. -/
theorem cons
    (remembers : Remembers name? seen earlier)
    {name : String}
    (named : name? item = some name) :
    Remembers name? (name :: seen) (earlier ++ [item]) := by
  intro other
  rw [List.filterMap_append, List.filterMap_cons_some named, List.filterMap_nil, List.mem_append,
    List.mem_singleton, List.mem_cons, remembers other, or_comm]

/-- A name that comes again is remembered already. -/
theorem again
    (remembers : Remembers name? seen earlier)
    {name : String}
    (named : name? item = some name)
    (known : name ∈ seen) :
    Remembers name? seen (earlier ++ [item]) := by
  intro other
  rw [← remembers.cons named other, List.mem_cons]
  exact ⟨.inr, fun member => member.elim (fun same => same ▸ known) id⟩

end Remembers
end Remembers

/-- The errors of parameters are their faults if the names in front of them are remembered. -/
theorem contextErrors_eq_faults
    {earlier parameters : List ContextParameter}
    {seen : List String}
    (remembers : Remembers ContextParameter.name? seen earlier) :
    contextErrors earlier.length seen parameters =
      faults (fun later => contextFault? (earlier ++ later)) parameters := by
  induction parameters generalizing earlier seen with
  | nil => rfl
  | cons parameter parameters inductionHypothesis =>
      have length : earlier.length + 1 = (earlier ++ [parameter]).length := by
        rw [List.length_append, List.length_singleton]
      rw [contextErrors, faults_cons_behind, contextFault?, length]
      -- A faulty parameter leaves what is remembered as it is; the name of any other is new.
      by_cases blank : Text.allBlank parameter.name = true
      · have noName : parameter.name? = none := if_pos blank
        rw [if_pos blank, if_pos blank, inductionHypothesis (remembers.nameless noName)]
        rfl
      · have named : parameter.name? = some parameter.name := if_neg blank
        rw [if_neg blank, if_neg blank]
        simp only [List.contains_iff_mem, ← remembers parameter.name]
        by_cases known : parameter.name ∈ seen
        · rw [if_pos known, if_pos known, inductionHypothesis (remembers.again named known)]
          rfl
        · rw [if_neg known, if_neg known, inductionHypothesis (remembers.cons named)]
          rfl

/-- The errors of components are their faults if the identifiers in front of them are remembered. -/
theorem componentErrors_eq_faults
    {earlier nodes : List ComponentNode}
    {seen : List String}
    (remembers : Remembers ComponentNode.id? seen earlier) :
    componentErrors earlier.length seen nodes =
      faults (fun later => componentFault? (earlier ++ later)) nodes := by
  induction nodes generalizing earlier seen with
  | nil => rfl
  | cons node nodes inductionHypothesis =>
      have length : earlier.length + 1 = (earlier ++ [node]).length := by
        rw [List.length_append, List.length_singleton]
      rw [componentErrors, faults_cons_behind, componentFault?, length]
      by_cases bearsSql : node.bearsSql = true
      · have hasKind : ¬node.kind?.isNone = true := by
          rw [ComponentNode.bearsSql] at bearsSql
          simp [Option.isSome_iff_ne_none.1 bearsSql]
        have id?_eq : node.id? = node.valueNamed? "UNIQUE_NAME" := if_pos bearsSql
        rw [if_neg hasKind, if_pos bearsSql]
        obtain ⟨component, named, hasId⟩ | ⟨lacks, noId⟩ := node.ofNode_cases
        · have identified := id?_eq.trans hasId
          rw [named, hasId]
          simp only [List.contains_iff_mem, ← remembers component.id]
          by_cases known : component.id ∈ seen
          · rw [if_pos known, if_pos known, inductionHypothesis (remembers.again identified known)]
            rfl
          · rw [if_neg known, if_neg known, inductionHypothesis (remembers.cons identified)]
            rfl
        · rw [lacks, noId]
          change _ :: componentErrors _ _ _ = _
          rw [inductionHypothesis (remembers.nameless (id?_eq.trans noId))]
          rfl
      · have noKind : node.kind?.isNone = true := by
          rw [ComponentNode.bearsSql] at bearsSql
          simpa using bearsSql
        have noId : node.id? = none := if_neg bearsSql
        rw [if_pos noKind, if_neg bearsSql, inductionHypothesis (remembers.nameless noId)]
        rfl

/-! ## What a document must be -/

theorem contextFault?_eq_none_iff
    (earlier : List ContextParameter)
    (parameter : ContextParameter) :
    contextFault? earlier parameter = none ↔
      ¬Text.allBlank parameter.name ∧ ∀ name, parameter.name? = some name →
        name ∉ earlier.filterMap ContextParameter.name? := by
  rw [contextFault?, ContextParameter.name?]
  by_cases blank : Text.allBlank parameter.name = true <;> simp [blank]

theorem componentFault?_eq_none_iff
    (earlier : List ComponentNode)
    (node : ComponentNode) :
    componentFault? earlier node = none ↔
      (node.bearsSql → ∃ parameter ∈ node.parameters, parameter.name = "UNIQUE_NAME") ∧
        ∀ id, node.id? = some id → id ∉ earlier.filterMap ComponentNode.id? := by
  rw [componentFault?, ComponentNode.id?, ← node.isSome_valueNamed?_iff]
  by_cases bearsSql : node.bearsSql = true
  · cases node.valueNamed? "UNIQUE_NAME" <;> simp [bearsSql]
  · simp [bearsSql]

theorem wellFormed_iff (document : JobDocument) :
    document.WellFormed ↔
      faults contextFault? document.context = [] ∧
        faults componentFault? document.components = [] := by
  rw [faults_eq_nil_iff contextFault?_eq_none_iff, faults_eq_nil_iff componentFault?_eq_none_iff]
  constructor
  · rintro ⟨named, names_nodup, identified, ids_nodup⟩
    exact ⟨⟨named, names_nodup⟩, identified, ids_nodup⟩
  · rintro ⟨⟨named, names_nodup⟩, identified, ids_nodup⟩
    exact ⟨named, names_nodup, identified, ids_nodup⟩

end Validation

namespace ValidationResult

/-- A result with errors is not valid. -/
theorem foldl_addError (errors : List String) (result : ValidationResult) :
    errors.foldl addError result =
      ⟨result.path, result.isValid && errors.isEmpty, result.errors ++ errors⟩ := by
  induction errors generalizing result with
  | nil => simp
  | cons error errors inductionHypothesis =>
      rw [List.foldl_cons, inductionHypothesis]
      simp [addError]

end ValidationResult

namespace Validation

/-- Validation tells the faults of the context and then those of the components. -/
theorem ofDocument_eq (path : Path) (document : JobDocument) :
    ofDocument path document =
      let errors := faults contextFault? document.context ++
        faults componentFault? document.components
      ⟨path, errors.isEmpty, errors⟩ := by
  have context : contextErrors 0 [] document.context = faults contextFault? document.context :=
    contextErrors_eq_faults Remembers.nil
  have components : componentErrors 0 [] document.components =
      faults componentFault? document.components :=
    componentErrors_eq_faults Remembers.nil
  rw [ofDocument, ValidationResult.foldl_addError, context, components]
  rfl

example :
    (ofDocument ⟨"load.yml"⟩
      ⟨[⟨"area", ""⟩, ⟨" ", ""⟩, ⟨"area", ""⟩, ⟨"", ""⟩],
        [⟨"tDBInput", [⟨"UNIQUE_NAME", "TEXT", "in"⟩]⟩, ⟨"tMap", []⟩, ⟨"tDBOutput", []⟩,
          ⟨"tDBRow", [⟨"UNIQUE_NAME", "TEXT", "in"⟩]⟩]⟩).errors =
      ["Context parameter #2 has an empty name",
        "Context parameter area is defined more than once",
        "Context parameter #4 has an empty name",
        "Component #3: [L006] Component tDBOutput is missing required parameter UNIQUE_NAME",
        "Duplicate component id: in"] := by
  decide +kernel

/-- Validation accepts the well-formed documents. -/
theorem isValid_ofDocument_iff (path : Path) (document : JobDocument) :
    (ofDocument path document).isValid = true ↔ document.WellFormed := by
  rw [ofDocument_eq, wellFormed_iff, ← List.append_eq_nil_iff]
  exact List.isEmpty_iff

end Validation

/-! ## What is collected from a well-formed document -/

namespace Finding

variable {grammar : SqlGrammar}
variable {policy : ExtractionPolicy}
variable {context : Context}

/-- What is found in nodes is found in one of them. -/
theorem exists_mem_of_mem_ofNodes
    {nodes : List ComponentNode}
    {finding : Finding}
    (member : finding ∈ ofNodes grammar policy context nodes) :
    ∃ node ∈ nodes, ofNode? grammar policy context node = some finding := by
  induction nodes with
  | nil => exact (List.not_mem_nil member).elim
  | cons node nodes inductionHypothesis =>
      have inTail (later : finding ∈ ofNodes grammar policy context nodes) :
          ∃ other ∈ node :: nodes, ofNode? grammar policy context other = some finding := by
        obtain ⟨other, present, found⟩ := inductionHypothesis later
        exact ⟨other, List.mem_cons_of_mem _ present, found⟩
      rw [ofNodes] at member
      cases found : ofNode? grammar policy context node with
      | none =>
          rw [found] at member
          exact inTail member
      | some head =>
          simp only [found] at member
          split at member
          next =>
            obtain rfl := List.mem_singleton.1 member
            exact ⟨node, List.mem_cons_self, found⟩
          next =>
            obtain rfl | later := List.mem_cons.1 member
            · exact ⟨node, List.mem_cons_self, found⟩
            · exact inTail later

/-- No component of a well-formed document is left out. -/
theorem ne_skipped_of_wellFormed
    {document : JobDocument}
    (wellFormed : document.WellFormed)
    {finding : Finding}
    (member : finding ∈ ofDocument grammar policy document)
    (componentName : String)
    (missing : MissingParameter) :
    finding ≠ .skipped componentName missing := by
  rintro rfl
  rw [ofDocument, JobDocument.componentsOfKind_all] at member
  obtain ⟨node, listed, found⟩ := exists_mem_of_mem_ofNodes member
  obtain ⟨present, bearsSql⟩ := List.mem_filter.1 listed
  obtain ⟨component, named, -⟩ | ⟨-, noId⟩ := node.ofNode_cases
  · rw [ofNode?, named] at found
    obtain ⟨_, same⟩ | ⟨_, _, same⟩ | ⟨_, _, same⟩ := cases_of_ofComponent? found <;> cases same
  · have hasId := (node.isSome_valueNamed?_iff "UNIQUE_NAME").2
      (wellFormed.identified node present bearsSql)
    rw [noId] at hasId
    cases hasId

end Finding

namespace Validation

/-- **Validation tells exactly what is wrong with a document.** The errors are the faults of the
parameters of the context and then those of the components, each in the order of the document. The
result is valid exactly if the document is well-formed, and not valid exactly if there are errors.
The collector leaves out no component of a valid document, and an entry for the tables that a
component reads is that of one component, of which it has what its query reads. -/
theorem ofDocument_tells_faults (path : Path) (document : JobDocument) :
    let result := ofDocument path document
    result.path = path ∧
    result.errors =
      faults contextFault? document.context ++ faults componentFault? document.components ∧
    (result.isValid = true ↔ document.WellFormed) ∧
    (result.isValid = false ↔ result.errors ≠ []) ∧
    (result.isValid = true → ∀ grammar policy,
      let findings := Finding.ofDocument grammar policy document
      (∀ finding ∈ findings, ∀ componentName missing,
        finding ≠ .skipped componentName missing) ∧
      ∀ id tables, (Finding.lineage findings).perComponent.get? id = some tables →
        ∃ component query reading,
          document.namedComponents.filter (·.id = id) = [component] ∧
          Finding.ofComponent? grammar policy (.ofParameters document.context) component =
            some (.queried id query reading) ∧
          tables = .ofList reading.reads) := by
  have valid_iff := isValid_ofDocument_iff path document
  refine ⟨?_, ?_, valid_iff, ?_, fun valid grammar policy => ⟨fun finding member => ?_, ?_⟩⟩
  · rw [ofDocument_eq]
  · rw [ofDocument_eq]
  · rw [ofDocument_eq]
    exact List.isEmpty_eq_false_iff
  · exact Finding.ne_skipped_of_wellFormed (valid_iff.1 valid) member
  · intro id tables found
    have distinct : (document.namedComponents.map Component.id).Nodup := by
      rw [document.ids_namedComponents]
      exact (valid_iff.1 valid).ids_nodup
    exact Finding.exists_own_component distinct grammar policy found

/-- A document with two queries, and between them a component that bears no SQL. -/
def twoQueries : JobDocument :=
  ⟨[⟨"area", "\"sales\""⟩, ⟨"year", ""⟩],
    [⟨"tDBInput", [⟨"UNIQUE_NAME", "TEXT", "in"⟩, ⟨"QUERY", "MEMO_SQL", "\"SELECT * FROM a\""⟩]⟩,
      ⟨"tMap", []⟩,
      ⟨"tDBRow", [⟨"UNIQUE_NAME", "TEXT", "row"⟩, ⟨"QUERY", "MEMO_SQL", "\"SELECT * FROM b\""⟩]⟩]⟩

theorem twoQueries_tells_no_faults :
    (ofDocument ⟨"load.yml"⟩ twoQueries).isValid = true ∧
    let findings := Finding.ofDocument .generic .grammarOnly twoQueries
    (∀ finding ∈ findings, ∀ componentName missing,
      finding ≠ .skipped componentName missing) ∧
    (Finding.lineage findings).perComponent.get? "row" = some (.ofList ["b"]) ∧
    ∃ component query reading,
      twoQueries.namedComponents.filter (·.id = "row") = [component] ∧
      Finding.ofComponent? .generic .grammarOnly (.ofParameters twoQueries.context) component =
        some (.queried "row" query reading) ∧
      UniqueList.ofList ["b"] = .ofList reading.reads := by
  have valid : (ofDocument ⟨"load.yml"⟩ twoQueries).isValid = true := by decide +kernel
  let findings := Finding.ofDocument .generic .grammarOnly twoQueries
  have entry : (Finding.lineage findings).perComponent.get? "row" = some (.ofList ["b"]) := by
    decide +kernel
  obtain ⟨-, -, -, -, collected⟩ := ofDocument_tells_faults ⟨"load.yml"⟩ twoQueries
  obtain ⟨noneSkipped, ownEntries⟩ := collected valid .generic .grammarOnly
  exact ⟨valid, noneSkipped, entry, ownEntries "row" _ entry⟩

end Validation
end SqlLineage
