import SqlLineage.Proofs.Grammar.Effect

/-!
# Places in a statement

A place is an item of a statement together with the nodes around it and the events before and behind
it. The innermost statement around a place owns it. A survey meets what stands at the place in the
scope of the owner, and the statements around the owner only pass on what the owner reads.
-/

namespace SqlLineage
namespace Grammar

/-- `Place root around item before after`: the walk through `root` meets `item` between `before` and
`after`, and `around` are the nodes that contain it, the innermost first. -/
inductive Place (root : Statement) :
    List Node → Item → List Event → List Event → Prop
  /-- An item of the statement itself. -/
  | top (front : List Item) (item : Item) (back : List Item) :
      Node.statementItems root = front ++ item :: back →
      Place root [.statement root] item
        (Walk.beginning root ++ Item.eventsOf front)
        (Item.eventsOf back ++ [.leave])
  /-- An item of a node at a place. -/
  | inside
      {around : List Node} {n : Node} {before after : List Event} :
      Place root around (.node n) before after →
      (front : List Item) → (item : Item) → (back : List Item) →
      n.items = front ++ item :: back →
      Place root (n :: around) item
        (before ++ (n.opening ++ Item.eventsOf front))
        (Item.eventsOf back ++ n.closing ++ after)

/-- The innermost statement of nodes. -/
def owner? (around : List Node) : Option Statement :=
  around.findSome? Node.statement?

/-- The nodes inside of the innermost statement. -/
def withinOwner (around : List Node) : List Node :=
  around.takeWhile fun n => n.statement?.isNone

namespace Place

variable {root : Statement} {around : List Node} {item : Item} {before after : List Event}

/-- The walk goes through every place. -/
theorem walk_eq (place : Place root around item before after) :
    Walk.statement root = before ++ item.events ++ after := by
  induction place with
  | top front item back split =>
      change (Node.statement root).walk = _
      rw [Node.walk_statement, split]
      simp
  | @inside around n before after outer front item back split inductionHypothesis =>
      rw [inductionHypothesis, Item.events, n.walk_eq, split]
      simp

end Place

/-! ## What a statement defines -/

namespace Statement

/-- The nodes of a statement that are not inside of a statement in it. -/
inductive Owns (s : Statement) : Node → Prop
  | self : Owns s (.statement s)
  | node {n m : Node} : Owns s n → .node m ∈ n.items → m.statement? = none → Owns s m

/-- Whether a common table expression of a statement hides a table, where those of the statements
inside of it do not count. -/
def Defines (s : Statement) (table : String) : Prop :=
  ∃ q, s.Owns (.query q) ∧ ∃ c ∈ q.ctes, c.name.hides table = true

/-- What a survey learns from the items of a statement. -/
def effect (s : Statement) : Effect :=
  Item.effectOf (Node.statementItems s)

end Statement

namespace Item

/-- What is learned from items is learned from one of them, in each field of an effect. -/
theorem mem_effectOf
    {α : Type}
    (field : Effect → List α)
    (field_none : field .none = [])
    (field_append : ∀ first second, field (first.append second) = field first ++ field second)
    {items : List Item}
    {a : α} :
    a ∈ field (effectOf items) ↔ ∃ item ∈ items, a ∈ field item.effect := by
  rw [effectOf, Effect.mem_total field field_none field_append]
  simp

theorem mem_defined_effectOf
    {items : List Item}
    {name : Ident} :
    name ∈ (effectOf items).defined ↔ ∃ item ∈ items, name ∈ item.effect.defined :=
  mem_effectOf Effect.defined rfl fun _ _ => rfl

theorem part_ne_define (p : Part) (name : Ident) : part p ≠ .define name := by
  cases p <;> simp [part, expr]

theorem define_not_mem_exprCall (name : Ident) (function : ObjectName) (args : Arguments) :
    .define name ∉ exprCall function args := by
  unfold exprCall
  split <;> simp

theorem define_ne_source (name : Ident) (table : ObjectName) (args : Option (List Expr)) :
    .define name ≠ source table args := by
  unfold source
  split
  · split <;> simp
  · simp

theorem define_not_mem_join (name : Ident) (j : Join) : .define name ∉ join j := by
  cases j
  simp [join, expr]

end Item

namespace Node

/-- A name is defined at a query that has a common table expression of this name. -/
theorem exists_cte_of_define_mem_items
    {n : Node}
    {name : Ident}
    (member : .define name ∈ n.items) :
    ∃ q, n = .query q ∧ ∃ c ∈ q.ctes, c.name = name := by
  cases n with
  | query q =>
      cases q with
      | mk recursive definitions b tail =>
          refine ⟨_, rfl, ?_⟩
          simpa [items, Item.expr, Query.ctes] using member
  | statement s =>
      cases s <;> simp [items, statementItems, Item.expr, Item.part_ne_define] at member
  | _ inner =>
      cases inner <;>
        simp [items, Item.expr, Item.define_not_mem_exprCall, Item.define_ne_source,
          Item.define_not_mem_join] at member

theorem define_mem_items_of_mem_ctes
    {q : Query}
    {c : Cte}
    (member : c ∈ q.ctes) :
    .define c.name ∈ (query q).items := by
  cases q with
  | mk recursive definitions b tail =>
      simp only [items, List.mem_append, List.mem_map]
      exact .inl (.inl ⟨c, member, rfl⟩)

end Node

namespace Statement

/-- What a node of a statement defines is defined for the statement. -/
theorem Owns.defined_subset
    {s : Statement}
    {n : Node}
    (owns : s.Owns n) :
    (Item.effectOf n.items).defined ⊆ s.effect.defined := by
  induction owns with
  | self => exact fun _ member => member
  | @node n m owns member open_ inductionHypothesis =>
      intro name defined
      apply inductionHypothesis
      rw [Item.mem_defined_effectOf]
      refine ⟨_, member, ?_⟩
      rwa [Item.effect, m.effect_eq, Node.wrap_of_statement?_eq_none open_]

theorem Owns.exists_cte
    {s : Statement}
    {n : Node}
    {name : Ident}
    (owns : s.Owns n)
    (defined : name ∈ (Item.effectOf n.items).defined) :
    ∃ q, s.Owns (.query q) ∧ ∃ c ∈ q.ctes, c.name = name := by
  induction n using Node.items_induction with
  | step n inductionHypothesis =>
      obtain ⟨item, member, inItem⟩ := Item.mem_defined_effectOf.1 defined
      cases item with
      | define other =>
          obtain ⟨q, rfl, found⟩ := Node.exists_cte_of_define_mem_items member
          have same : name = other := by
            simpa [Item.effect, Effect.defining, Effect.none] using inItem
          exact ⟨q, owns, same ▸ found⟩
      | node m =>
          rw [Item.effect] at inItem
          cases opens : m.statement? with
          | none =>
              rw [m.effect_eq, Node.wrap_of_statement?_eq_none opens] at inItem
              exact inductionHypothesis m member (.node owns member opens) inItem
          | some inner =>
              obtain rfl := Node.eq_statement_of_statement? opens
              simp [Node.effect_eq, Node.wrap, Effect.ended] at inItem
      | _ => simp [Item.effect, Effect.calling, Effect.naming, Effect.none] at inItem

/-- The survey of a statement hides exactly the tables that its common table expressions hide. -/
theorem hides_effect_iff {s : Statement} {table : String} :
    s.effect.hides table = true ↔ s.Defines table := by
  rw [Effect.hides, List.any_eq_true]
  constructor
  · rintro ⟨name, defined, hides⟩
    obtain ⟨q, owns, c, member, rfl⟩ := Owns.self.exists_cte defined
    exact ⟨q, owns, c, member, hides⟩
  · rintro ⟨q, owns, c, member, hides⟩
    refine ⟨c.name, owns.defined_subset ?_, hides⟩
    rw [Item.mem_defined_effectOf]
    exact ⟨_, Node.define_mem_items_of_mem_ctes member,
      by simp [Item.effect, Effect.defining]⟩

end Statement

end Grammar
end SqlLineage
