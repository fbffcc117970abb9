import SqlLineage.Grammar.Walk

/-!
# The outline of a statement

A walk flattens a statement into events and forgets which query a table stands in. The outline keeps
that: each node of a statement has items, which are what a walk meets directly in it, and smaller
nodes. The walk through a node is the walk through its items in order, and a place in a statement is
an item together with the nodes around it.
-/

namespace SqlLineage
namespace Grammar

/-- A part of a statement that has items of its own. -/
inductive Node
  | expr (e : Expr)
  | access (a : Access)
  | arguments (args : Arguments)
  | query (q : Query)
  | body (b : Body)
  | tables (t : TableJoins)
  | factor (t : TableFactor)
  | statement (s : Statement)

/-- One item of a node. -/
inductive Item
  /-- A function or a procedure is called. -/
  | call (signature : String)
  /-- A common table expression is defined. -/
  | define (name : Ident)
  /-- A table is named. -/
  | table (name : ObjectName)
  /-- A table function is called in place of a table. -/
  | tableFunction (name : ObjectName) (arity : Nat)
  /-- A smaller node. -/
  | node (inner : Node)

namespace Cte

/-- The name that is defined. -/
def name : Cte → Ident
  | .mk name _ => name

/-- The query that gives the rows. -/
def query : Cte → Query
  | .mk _ query => query

end Cte

namespace Query

/-- The common table expressions in front of a query. -/
def ctes : Query → List Cte
  | .mk _ ctes _ _ => ctes

end Query

namespace Item

/-- An expression as an item. -/
def expr (e : Expr) : Item :=
  .node (.expr e)

/-- A call in an expression, unless the function belongs to the language. -/
def exprCall (name : ObjectName) (args : Arguments) : List Item :=
  if Walk.isBuiltin name then [] else [.call (Walk.signature name args.arity)]

/-- A name in `FROM`: that of a table function if arguments follow that are no hints. -/
def source (name : ObjectName) : Option (List Expr) → Item
  | some args => if Walk.areHints args then .table name else .tableFunction name args.length
  | none => .table name

/-- A joined table and the conditions of its join. -/
def join : Join → List Item
  | .mk joined conditions => .node (.factor joined) :: conditions.map expr

/-- A part of a statement as an item. -/
def part : Part → Item
  | .relation name => .table name
  | .expr e => expr e
  | .query q => .node (.query q)
  | .tables t => .node (.tables t)
  | .statement s => .node (.statement s)

end Item

namespace Node

/-- The items of a statement. -/
def statementItems : Statement → List Item
  | .query q => [.node (.query q)]
  | .insert target ps => target.toList.map .table ++ ps.map Item.part
  | .update table ps => .node (.tables table) :: ps.map Item.part
  | .delete _ ts ps => ts.map (fun t => .node (.tables t)) ++ ps.map Item.part
  | .merge target source ps =>
    .node (.factor target) :: .node (.factor source) :: ps.map Item.part
  | .createTable name ps => .table name :: ps.map Item.part
  | .createView _ ps => ps.map Item.part
  | .alterTable name ps => .table name :: ps.map Item.part
  | .drop _ => []
  | .call _ parameters args clauses =>
    .node (.arguments parameters) :: .node (.arguments args) :: clauses.map Item.expr
  | .execute _ args bound => args.map Item.expr ++ bound.map Item.expr
  | .explain ps => ps.map Item.part
  | .other ps => ps.map Item.part

/-- The items of a node, in the order in which a walk meets them. -/
def items : Node → List Item
  | expr (.name _) => []
  | expr .literal => []
  | expr (.wildcard _) => []
  | expr (.call name parameters args clauses) =>
    Item.exprCall name args ++
      .node (.arguments parameters) :: .node (.arguments args) :: clauses.map Item.expr
  | expr (.query q) => [.node (.query q)]
  | expr (.equality left right) => [Item.expr left, Item.expr right]
  | expr (.access root chain) => Item.expr root :: chain.map fun a => .node (.access a)
  | expr (.outerJoin column) => [Item.expr column]
  | expr (.tuple es) => es.map Item.expr
  | expr (.operation operands) => operands.map Item.expr
  | access (.field step) => [Item.expr step]
  | access (.element bounds) => bounds.map Item.expr
  | arguments .none => []
  | arguments (.query q) => [.node (.query q)]
  | arguments (.list es clauses) => es.map Item.expr ++ clauses.map Item.expr
  | query (.mk _ ctes b tail) =>
    ctes.map (fun c => .define c.name) ++ ctes.map (fun c => .node (.query c.query)) ++
      .node (.body b) :: tail.map Item.expr
  | body (.select projection ts filters) =>
    projection.map Item.expr ++ ts.map (fun t => .node (.tables t)) ++ filters.map Item.expr
  | body (.query q) => [.node (.query q)]
  | body (.combination left right) => [.node (.body left), .node (.body right)]
  | body (.values rows) => rows.map Item.expr
  | body (.statement s) => [.node (.statement s)]
  | body .table => []
  | tables (.mk table js) => .node (.factor table) :: js.flatMap Item.join
  | factor (.table name args options) =>
    Item.source name args :: ((args.getD []).map Item.expr ++ options.map Item.expr)
  | factor (.derived q) => [.node (.query q)]
  | factor (.lateral _ args) => args.map Item.expr
  | factor (.rows es) => es.map Item.expr
  | factor (.nested ts) => [.node (.tables ts)]
  | factor (.rearranged table es) => .node (.factor table) :: es.map Item.expr
  | statement s => statementItems s

/-- What a walk meets before the items of a node. -/
def opening : Node → List Event
  | statement s => Walk.beginning s
  | _ => []

/-- What a walk meets behind the items of a node. -/
def closing : Node → List Event
  | statement _ => [.leave]
  | _ => []

/-- The statement that a node is. -/
def statement? : Node → Option Statement
  | statement s => some s
  | _ => none

theorem eq_statement_of_statement?
    {n : Node}
    {s : Statement}
    (found : n.statement? = some s) :
    n = statement s := by
  cases n <;> simp_all [statement?]

/-- What a walk meets in a node. -/
def walk : Node → List Event
  | expr e => Walk.expr e
  | access a => Walk.access a
  | arguments args => Walk.arguments args
  | query q => Walk.query q
  | body b => Walk.body b
  | tables t => Walk.tables t
  | factor t => Walk.factor t
  | statement s => Walk.statement s

end Node

/-- What a walk meets at an item. -/
def Item.events : Item → List Event
  | .call signature => [.call signature]
  | .define name => [.define name]
  | .table name => [.relation name.dotted]
  | .tableFunction name arity =>
    [.tableFunction (Walk.signature name arity), .relation name.dotted]
  | .node inner => inner.walk

/-- What a walk meets at items. -/
def Item.eventsOf (items : List Item) : List Event :=
  items.flatMap Item.events

namespace Item

@[simp] theorem eventsOf_nil : eventsOf [] = [] := rfl

@[simp] theorem eventsOf_cons (item : Item) (items : List Item) :
    eventsOf (item :: items) = item.events ++ eventsOf items := rfl

@[simp] theorem eventsOf_append (front back : List Item) :
    eventsOf (front ++ back) = eventsOf front ++ eventsOf back := by
  simp [eventsOf]

end Item

/-! ## The walk follows the items -/

namespace Walk

theorem exprs_eq_eventsOf (es : List Expr) :
    exprs es = Item.eventsOf (es.map Item.expr) := by
  induction es with
  | nil => rfl
  | cons e es inductionHypothesis =>
      rw [exprs, inductionHypothesis]
      rfl

theorem accesses_eq_eventsOf (steps : List Access) :
    accesses steps = Item.eventsOf (steps.map fun a => .node (.access a)) := by
  induction steps with
  | nil => rfl
  | cons a steps inductionHypothesis =>
      rw [accesses, inductionHypothesis]
      rfl

theorem defined_eq_eventsOf (definitions : List Cte) :
    defined definitions = Item.eventsOf (definitions.map fun c => .define c.name) := by
  induction definitions with
  | nil => rfl
  | cons c definitions inductionHypothesis =>
      cases c
      rw [defined, inductionHypothesis]
      rfl

theorem ctes_eq_eventsOf (definitions : List Cte) :
    ctes definitions =
      Item.eventsOf (definitions.map fun c => .node (.query c.query)) := by
  induction definitions with
  | nil => rfl
  | cons c definitions inductionHypothesis =>
      cases c
      rw [ctes, inductionHypothesis]
      rfl

theorem tablesList_eq_eventsOf (ts : List TableJoins) :
    tablesList ts = Item.eventsOf (ts.map fun t => .node (.tables t)) := by
  induction ts with
  | nil => rfl
  | cons t ts inductionHypothesis =>
      rw [tablesList, inductionHypothesis]
      rfl

theorem joins_eq_eventsOf (js : List Join) :
    joins js = Item.eventsOf (js.flatMap Item.join) := by
  induction js with
  | nil => rfl
  | cons j js inductionHypothesis =>
      cases j with
      | mk joined conditions =>
          rw [joins, inductionHypothesis, exprs_eq_eventsOf]
          simp [Item.join, Item.events, Node.walk]

theorem parts_eq_eventsOf (ps : List Part) :
    parts ps = Item.eventsOf (ps.map Item.part) := by
  induction ps with
  | nil => rfl
  | cons p ps inductionHypothesis =>
      cases p <;>
        simp [parts, part, inductionHypothesis, Item.part, Item.expr, Item.events, Node.walk]

theorem optionalExprs_eq_eventsOf (args : Option (List Expr)) :
    optionalExprs args = Item.eventsOf ((args.getD []).map Item.expr) := by
  cases args with
  | none => rfl
  | some es => exact exprs_eq_eventsOf es

theorem exprCall_eq_eventsOf (name : ObjectName) (args : Arguments) :
    exprCall name args = Item.eventsOf (Item.exprCall name args) := by
  unfold exprCall Item.exprCall
  split <;> rfl

/-- A name in `FROM` comes with the mark of a table function exactly if it names one. -/
theorem tableCall_append_relation
    (name : ObjectName)
    (args : Option (List Expr))
    (rest : List Event) :
    tableCall name args ++ .relation name.dotted :: rest =
      (Item.source name args).events ++ rest := by
  cases args with
  | none => rfl
  | some es =>
      unfold tableCall Item.source
      by_cases hints : areHints es <;> simp [hints, Item.events]

end Walk

namespace Node

theorem walk_statement (s : Statement) :
    (statement s).walk =
      Walk.beginning s ++ Item.eventsOf (statementItems s) ++ [.leave] := by
  change Walk.statement s = _
  fun_cases Walk.statement s <;>
    simp [Walk.enclosed, statementItems, Item.events, walk, Walk.exprs_eq_eventsOf,
      Walk.parts_eq_eventsOf, Walk.tablesList_eq_eventsOf]

/-- The walk through a node is the walk through its items in order. -/
theorem walk_eq (n : Node) :
    n.walk = n.opening ++ Item.eventsOf n.items ++ n.closing := by
  cases n with
  | statement s => exact walk_statement s
  | _ inner =>
      cases inner <;>
        simp [walk, opening, closing, items, Item.expr, Item.events, Walk.expr, Walk.access,
          Walk.arguments, Walk.query, Walk.body, Walk.tables, Walk.factor, Walk.exprs_eq_eventsOf,
          Walk.accesses_eq_eventsOf, Walk.defined_eq_eventsOf, Walk.ctes_eq_eventsOf,
          Walk.tablesList_eq_eventsOf, Walk.joins_eq_eventsOf, Walk.optionalExprs_eq_eventsOf,
          Walk.exprCall_eq_eventsOf, Walk.tableCall_append_relation]

end Node

/-! ## Recursion on nodes -/

namespace Item

@[simp] theorem node_not_mem_exprCall
    (m : Node)
    (name : ObjectName)
    (args : Arguments) :
    .node m ∉ exprCall name args := by
  unfold exprCall
  split <;> simp

@[simp] theorem node_ne_source
    (m : Node)
    (name : ObjectName)
    (args : Option (List Expr)) :
    .node m ≠ source name args := by
  unfold source
  split
  · split <;> simp
  · simp

theorem sizeOf_lt_of_part
    {m : Node}
    {p : Part}
    (equal : part p = .node m) :
    sizeOf m < 1 + sizeOf p := by
  cases p with
  | relation name => simp [part] at equal
  | expr e =>
      obtain rfl : .expr e = m := by simpa [part, expr] using equal
      simp only [Node.expr.sizeOf_spec, Part.expr.sizeOf_spec]
      omega
  | query q =>
      obtain rfl : .query q = m := by simpa [part] using equal
      simp only [Node.query.sizeOf_spec, Part.query.sizeOf_spec]
      omega
  | tables t =>
      obtain rfl : .tables t = m := by simpa [part] using equal
      simp only [Node.tables.sizeOf_spec, Part.tables.sizeOf_spec]
      omega
  | statement s =>
      obtain rfl : .statement s = m := by simpa [part] using equal
      simp only [Node.statement.sizeOf_spec, Part.statement.sizeOf_spec]
      omega

theorem sizeOf_lt_of_mem_join
    {m : Node}
    {j : Join}
    (member : .node m ∈ join j) :
    sizeOf m < 1 + sizeOf j := by
  cases j with
  | mk joined conditions =>
      simp only [join, List.mem_cons, List.mem_map, expr, Item.node.injEq] at member
      rcases member with rfl | ⟨e, inside, rfl⟩
      · simp only [Node.factor.sizeOf_spec, Join.mk.sizeOf_spec]
        omega
      · have smaller := List.sizeOf_lt_of_mem inside
        simp only [Node.expr.sizeOf_spec, Join.mk.sizeOf_spec]
        omega

end Item

theorem Cte.sizeOf_query_lt (c : Cte) : sizeOf c.query < sizeOf c := by
  cases c with
  | mk name q =>
      simp only [Cte.query, Cte.mk.sizeOf_spec]
      omega

theorem sizeOf_getD_nil_le (args : Option (List Expr)) :
    sizeOf (args.getD []) ≤ sizeOf args := by
  cases args <;> simp

namespace Node

theorem sizeOf_lt_of_mem_statementItems
    {s : Statement}
    {m : Node}
    (member : .node m ∈ statementItems s) :
    sizeOf m < sizeOf (statement s) := by
  cases s <;> simp [statementItems, Item.expr] at member ⊢ <;>
    grind [→ List.sizeOf_lt_of_mem, → Item.sizeOf_lt_of_part]

/-- The nodes among the items of a node are smaller, so that what is said of a node may refer to what
is said of them. -/
theorem sizeOf_lt_of_mem_items
    {n m : Node}
    (member : .node m ∈ n.items) :
    sizeOf m < sizeOf n := by
  cases n with
  | statement s => exact sizeOf_lt_of_mem_statementItems member
  | expr e =>
      cases e <;> simp [items, Item.expr] at member ⊢ <;> grind [→ List.sizeOf_lt_of_mem]
  | access a =>
      cases a <;> simp [items, Item.expr] at member ⊢ <;> grind [→ List.sizeOf_lt_of_mem]
  | arguments args =>
      cases args <;> simp [items, Item.expr] at member ⊢ <;> grind [→ List.sizeOf_lt_of_mem]
  | query q =>
      cases q
      simp [items, Item.expr] at member ⊢
      grind [→ List.sizeOf_lt_of_mem, Cte.sizeOf_query_lt]
  | body b =>
      cases b <;> simp [items, Item.expr] at member ⊢ <;> grind [→ List.sizeOf_lt_of_mem]
  | tables t =>
      cases t
      simp [items] at member ⊢
      grind [→ List.sizeOf_lt_of_mem, → Item.sizeOf_lt_of_mem_join]
  | factor t =>
      cases t <;> simp [items, Item.expr] at member ⊢ <;>
        grind [→ List.sizeOf_lt_of_mem, sizeOf_getD_nil_le]

/-- A property of nodes that goes from the smaller nodes of a node to the node holds of all. -/
theorem items_induction
    {motive : Node → Prop}
    (step : ∀ n, (∀ m, .node m ∈ n.items → motive m) → motive n)
    (n : Node) :
    motive n :=
  step n fun m _ => items_induction step m
termination_by sizeOf n
decreasing_by exact sizeOf_lt_of_mem_items ‹_›

end Node

end Grammar
end SqlLineage
