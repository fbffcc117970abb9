import SqlLineage.Grammar
import SqlLineage.Proofs.Grammar.Place

/-!
# The scope of common table expressions

A reference to a table counts unless the statement that owns it writes the table or has a common
table expression that hides it. The queries around the owner do not matter: their common table
expressions are forgotten where the owner begins, so a statement in the body of a query reads the
names that the query defines as if they were tables.
-/

namespace SqlLineage
namespace Grammar

@[simp] theorem ObjectName.dotted_singleton (name : Ident) :
    ObjectName.dotted [name] = name.value := rfl

namespace Effect

theorem hides_append_naming_append (first second : Effect) (named table : String) :
    (first.append ((naming named).append second)).hides table =
      (first.append second).hides table := by
  simp [hides, append, naming, none]

/-- A name that is hidden or written leaves no trace of itself in a statement. -/
theorem ended_naming_of_hidden
    {first second : Effect}
    {table : String}
    {calls targets : List String}
    (hidden : (first.append second).hides table = true ∨ table ∈ targets) :
    (first.append ((naming table).append second)).ended calls targets =
      (first.append second).ended calls targets := by
  have dropped : (!(first.append second).hides table && !targets.contains table) = false := by
    rcases hidden with hides | written
    · simp [hides]
    · simp [written]
  have tables_eq : (first.append ((naming table).append second)).tables targets =
      (first.append second).tables targets := by
    simp only [tables, hides_append_naming_append]
    change (first.named ++ table :: second.named).filter _ =
      (first.named ++ second.named).filter _
    rw [List.filter_append, List.filter_append, List.filter_cons_of_neg]
    simpa using dropped
  rw [ended, ended, tables_eq]
  simp [append, naming, none]

/-- A name that is neither hidden nor written is a table that the statement reads. -/
theorem mem_read_ended_naming
    {first second : Effect}
    {table : String}
    {calls targets : List String}
    (visible : ¬((first.append second).hides table = true ∨ table ∈ targets)) :
    table ∈ ((first.append ((naming table).append second)).ended calls targets).read := by
  have kept : table ∈ (first.append ((naming table).append second)).tables targets := by
    simp only [tables, hides_append_naming_append, List.mem_filter]
    refine ⟨by simp [append, naming, none], ?_⟩
    simpa [not_or] using visible
  exact List.mem_append_right _ kept

end Effect

namespace Place

variable {root : Statement} {around : List Node} {item : Item} {before after : List Event}

/-- Events at a place have their effect in the owner of the place, and what the owner reads is read
by the root. -/
theorem exists_owner (place : Place root around item before after) :
    ∃ owner, owner? around = some owner ∧
      ∃ (first second : Effect) (outcome : Effect → Facts),
        owner.effect = first.append (item.effect.append second) ∧
        (∀ {events effect}, Acts events effect →
          (Survey.start.run (before ++ events ++ after)).facts =
            outcome ((first.append (effect.append second)).ended owner.calls
              (Walk.writtenNames owner))) ∧
        ∀ effect, effect.read ⊆ (outcome effect).tables.toList := by
  induction place with
  | top front item back split =>
      refine ⟨root, rfl, Item.effectOf front, Item.effectOf back, Facts.none.learn, ?_, ?_, ?_⟩
      · rw [Statement.effect, split, Item.effectOf_append_cons]
      · intro events effect acts
        have inner := (acts_eventsOf front).append (acts.append (acts_eventsOf back))
        have run_eq := run_statement_of_acts inner root [] Facts.none
        have facts_eq := congrArg Survey.facts run_eq
        change (Survey.run ⟨[], false, Facts.none⟩ _).facts = _
        simpa only [List.append_assoc] using facts_eq
      · intro effect table read
        exact UniqueList.mem_extend.2 (.inr read)
  | @inside around n before after outer front item back split inductionHypothesis =>
      obtain ⟨owner, owned, first, second, outcome, effect_eq, run_eq, reads⟩ :=
        inductionHypothesis
      have filled {events : List Event} {effect : Effect} (acts : Acts events effect) :=
        (((acts_eventsOf front).append (acts.append (acts_eventsOf back))).wrap n)
      cases opens : n.statement? with
      | none =>
          have wrap_eq := Node.wrap_of_statement?_eq_none opens
          refine ⟨owner, ?_, first.append (Item.effectOf front),
            (Item.effectOf back).append second, outcome, ?_, ?_, reads⟩
          · rw [owner?, List.findSome?_cons, opens]
            exact owned
          · rw [effect_eq, Item.effect, n.effect_eq, wrap_eq, split, Item.effectOf_append_cons]
            simp only [Effect.append_assoc]
          · intro events effect acts
            have run := run_eq (filled acts)
            rw [wrap_eq] at run
            simpa only [List.append_assoc, Effect.append_assoc] using run
      | some s =>
          obtain rfl := Node.eq_statement_of_statement? opens
          refine ⟨_, rfl, Item.effectOf front, Item.effectOf back,
            fun effect => outcome ((first.append (effect.append second)).ended owner.calls
              (Walk.writtenNames owner)), ?_, ?_, ?_⟩
          · rw [Statement.effect]
            change Item.effectOf (Node.statement s).items = _
            rw [split, Item.effectOf_append_cons]
          · intro events effect acts
            have run := run_eq (filled acts)
            rw [Node.wrap] at run
            simpa only [List.append_assoc] using run
          · intro effect table read
            apply reads
            simp [Effect.ended, Effect.append, read]

end Place
/-- The owner of a place owns the node that the place is in. -/
theorem Place.exists_owned_node
    {root owner : Statement}
    {around : List Node}
    {item : Item}
    {before after : List Event}
    (place : Place root around item before after)
    (owned : owner? around = some owner) :
    ∃ n, owner.Owns n ∧ item ∈ n.items := by
  induction place with
  | top front item back split =>
      obtain rfl : root = owner := by simpa [owner?, Node.statement?] using owned
      refine ⟨_, .self, ?_⟩
      rw [Node.items, split]
      exact List.mem_append_right _ List.mem_cons_self
  | @inside around n before after outer front item back split inductionHypothesis =>
      refine ⟨n, ?_, by simp [split]⟩
      rw [owner?, List.findSome?_cons] at owned
      cases opens : n.statement? with
      | none =>
          rw [opens] at owned
          obtain ⟨outerNode, owns, member⟩ := inductionHypothesis owned
          exact .node owns member opens
      | some s =>
          obtain rfl : s = owner := by simpa [opens] using owned
          rw [Node.eq_statement_of_statement? opens]
          exact .self

/-- The nodes between a place and its owner belong to the owner. -/
theorem Place.owns_of_mem_withinOwner
    {root owner : Statement}
    {around : List Node}
    {item : Item}
    {before after : List Event}
    (place : Place root around item before after)
    (owned : owner? around = some owner)
    {m : Node}
    (member : m ∈ withinOwner around) :
    owner.Owns m := by
  induction place with
  | top front item back split => simp [withinOwner, Node.statement?] at member
  | @inside around n before after outer front item back split inductionHypothesis =>
      rw [owner?, List.findSome?_cons] at owned
      cases opens : n.statement? with
      | none =>
          rw [opens] at owned
          rw [withinOwner, List.takeWhile_cons_of_pos (by simp [opens])] at member
          rcases List.mem_cons.1 member with rfl | member
          · obtain ⟨outerNode, owns, inside⟩ := outer.exists_owned_node owned
            exact .node owns inside opens
          · exact inductionHypothesis owned member
      | some s => simp [withinOwner, opens] at member

/-- A reference is left out exactly if its owner hides or writes the name: then the tables are those
of the walk without the reference, and otherwise its name is one of them. A common table expression
of a query around the reference hides it if the query is inside of the owner; one around the owner
does not. -/
theorem reference_left_out_iff_owner_hides
    {root owner : Statement}
    {around : List Node}
    {name : Ident}
    {before after : List Event}
    {q : Query}
    {c : Cte}
    (place : Place root around (.table [name]) before after)
    (owned : owner? around = some owner)
    (encloses : .query q ∈ around)
    (member : c ∈ q.ctes)
    (hides : c.name.hides name.value = true) :
    (.query q ∈ withinOwner around ∨ owner.Defines name.value ∨
        name.value ∈ Walk.writtenNames owner →
      (factsOf [root]).tables = (Survey.start.run (before ++ after)).facts.tables) ∧
    (¬(.query q ∈ withinOwner around ∨ owner.Defines name.value ∨
        name.value ∈ Walk.writtenNames owner) →
      .query q ∈ around.dropWhile (fun n => n.statement?.isNone) ∧
        name.value ∈ (factsOf [root]).tables.toList) := by
  obtain ⟨other, otherOwned, first, second, outcome, effect_eq, run_eq, reads⟩ :=
    place.exists_owner
  obtain rfl : owner = other := Option.some.inj (owned.symm.trans otherOwned)
  have hides_eq (table : String) :
      (first.append second).hides table = owner.effect.hides table := by
    rw [effect_eq, Item.effect, Effect.hides_append_naming_append]
  have facts_eq : (factsOf [root]).tables =
      (outcome ((first.append ((Effect.naming name.value).append second)).ended owner.calls
        (Walk.writtenNames owner))).tables := by
    rw [← run_eq (.relation name.value), factsOf, List.flatMap_singleton, place.walk_eq]
    rfl
  have without_eq : (Survey.start.run (before ++ after)).facts =
      outcome ((first.append second).ended owner.calls (Walk.writtenNames owner)) := by
    simpa using run_eq .nil
  have inside_defines (inside : .query q ∈ withinOwner around) : owner.Defines name.value :=
    ⟨q, place.owns_of_mem_withinOwner owned inside, c, member, hides⟩
  constructor
  · intro condition
    have hidden : (first.append second).hides name.value = true ∨
        name.value ∈ Walk.writtenNames owner := by
      rw [hides_eq, Statement.hides_effect_iff]
      exact condition.elim (fun inside => .inl (inside_defines inside)) id
    rw [facts_eq, without_eq, Effect.ended_naming_of_hidden hidden]
  · intro condition
    obtain ⟨outside, visible⟩ := not_or.1 condition
    constructor
    · have split : .query q ∈ withinOwner around ++
          around.dropWhile (fun n => n.statement?.isNone) := by
        rwa [withinOwner, List.takeWhile_append_dropWhile]
      exact (List.mem_append.1 split).resolve_left outside
    · rw [facts_eq]
      apply reads
      apply Effect.mem_read_ended_naming
      rwa [hides_eq, Statement.hides_effect_iff]

/-! ## Queries in front of statements -/

/-- A name without quotes. -/
def Ident.bare (value : String) : Ident :=
  ⟨value, none⟩

/-- `SELECT * FROM name` behind common table expressions. -/
def Query.selectFrom (ctes : List Cte) (name : String) : Query :=
  .mk false ctes
    (.select [.wildcard []] [.mk (.table [.bare name] none []) []] []) []

/-- The nodes around the table that a selection reads. -/
def Query.aroundSelected (ctes : List Cte) (name : String) : List Node :=
  [.factor (.table [.bare name] none []),
    .tables (.mk (.table [.bare name] none []) []),
    .body (.select [.wildcard []] [.mk (.table [.bare name] none []) []] []),
    .query (.selectFrom ctes name)]

/-- The table that a selection reads stands behind what its common table expressions name. -/
theorem Place.selectFrom
    {root : Statement}
    {around : List Node}
    {before after : List Event}
    {ctes : List Cte}
    {name : String}
    (place : Place root around (.node (.query (.selectFrom ctes name))) before after) :
    Place root (Query.aroundSelected ctes name ++ around) (.table [.bare name])
      (before ++ (Walk.defined ctes ++ Walk.ctes ctes)) after := by
  have inBody := place.inside
    (ctes.map (fun c => .define c.name) ++ ctes.map (fun c => .node (.query c.query)))
    (.node (.body _)) [] rfl
  have inTables := inBody.inside [.expr (.wildcard [])] (.node (.tables _)) [] rfl
  have inFactor := inTables.inside [] (.node (.factor _)) [] rfl
  have inTable := inFactor.inside [] (.table _) [] rfl
  simpa [Walk.defined_eq_eventsOf, Walk.ctes_eq_eventsOf, Node.opening, Node.closing, Item.expr,
    Item.events, Node.walk, Walk.expr, Query.aroundSelected] using inTable

/-- A common table expression called `name` that reads nothing. -/
def Cte.constant (name : Ident) : Cte :=
  .mk name (.ofBody (.select [.literal] [] []))

/-- `WITH c AS (SELECT 1) SELECT * FROM C`. -/
def Statement.selection : Statement :=
  .query (.selectFrom [.constant (.bare "c")] "C")

/-- In a selection the name of the common table expression is left out in every spelling. -/
theorem selection_leaves_out_cte :
    ∃ before after,
      Place .selection
        (Query.aroundSelected [.constant (.bare "c")] "C" ++ [.statement .selection])
        (.table [.bare "C"]) before after ∧
      (factsOf [.selection]).tables = (Survey.start.run (before ++ after)).facts.tables := by
  have query : Place .selection [.statement .selection] _ _ _ := .top [] (.node (.query _)) [] rfl
  refine ⟨_, _, query.selectFrom, ?_⟩
  apply (reference_left_out_iff_owner_hides query.selectFrom rfl
    (q := .selectFrom [.constant (.bare "c")] "C") (c := .constant (.bare "c"))
    ?_ List.mem_cons_self (by decide)).1
  · exact .inl (by simp [withinOwner, Query.aroundSelected, Node.statement?])
  · simp [Query.aroundSelected]

/-- `WITH c AS (SELECT 1) INSERT INTO t SELECT * FROM c`. -/
def Query.insertion : Query :=
  .mk false [.constant (.bare "c")]
    (.statement (.insert (some [.bare "t"]) [.query (.selectFrom [] "c")])) []

/-- An insertion in the body of a query reads the name that the query defines: with the reference
`c` is a table, and without it there is none. -/
theorem insertion_reads_cte_around :
    (∃ around before after c,
      Place (.query .insertion) around (.table [.bare "c"]) before after ∧
        .query .insertion ∈ around ∧ c ∈ Query.insertion.ctes ∧ c.name.hides "c" = true ∧
        "c" ∈ (factsOf [.query .insertion]).tables.toList ∧
        "c" ∉ (Survey.start.run (before ++ after)).facts.tables.toList) ∧
      (SqlGrammar.generic.facts
        "WITH c AS (SELECT 1) INSERT INTO t SELECT * FROM c").toOption.map
          (·.tables.toList) = some ["c"] := by
  have query : Place (.query .insertion) [.statement (.query .insertion)] _ _ _ :=
    .top [] (.node (.query .insertion)) [] rfl
  have body := query.inside
    [.define (.bare "c"), .node (.query (Cte.constant (.bare "c")).query)] (.node (.body _)) [] rfl
  have insert := body.inside [] (.node (.statement _)) [] rfl
  have selection := insert.inside [.table [.bare "t"]] (.node (.query (.selectFrom [] "c"))) [] rfl
  refine ⟨⟨_, _, _, .constant (.bare "c"), selection.selectFrom, ?_, List.mem_cons_self,
    by decide, by decide, by decide⟩, by decide +kernel⟩
  simp [Query.aroundSelected]

end Grammar
end SqlLineage
