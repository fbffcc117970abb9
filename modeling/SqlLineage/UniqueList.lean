/-!
# Lists without duplicates

A unique list keeps the order in which its members first came in. A member that comes in again
changes nothing, so the list is the same whether it grows member by member or list by list.
-/

namespace SqlLineage

/-- A list that holds each member once, in the order of first occurrence. -/
structure UniqueList (α : Type) where
  /-- The members. -/
  toList : List α
  /-- No member occurs twice. -/
  nodup : toList.Nodup

namespace UniqueList

variable {α : Type} [DecidableEq α]

instance : DecidableEq (UniqueList α) := fun a b =>
  decidable_of_iff (a.toList = b.toList) (by cases a; cases b; simp)

/-- The empty list. -/
def empty : UniqueList α :=
  ⟨[], List.nodup_nil⟩

instance : Inhabited (UniqueList α) :=
  ⟨empty⟩

/-- Whether `value` is a member. -/
def contains (list : UniqueList α) (value : α) : Bool :=
  value ∈ list.toList

/-- How many members there are. -/
def length (list : UniqueList α) : Nat :=
  list.toList.length

/-- Whether there are no members. -/
def isEmpty (list : UniqueList α) : Bool :=
  list.toList.isEmpty

/-- The list with `value` behind its members, unless it is a member already. -/
def insert (list : UniqueList α) (value : α) : UniqueList α :=
  if member : value ∈ list.toList then list
  else ⟨list.toList ++ [value], by
    have absent : ∀ a ∈ list.toList, a ≠ value := fun a ha same => member (same ▸ ha)
    simpa [List.nodup_append, list.nodup] using absent⟩

/-- The list with all of `values` behind its members, each unless it is a member already. -/
def extend (list : UniqueList α) (values : List α) : UniqueList α :=
  values.foldl insert list

/-- The members of a list, each at its first occurrence. -/
def ofList (values : List α) : UniqueList α :=
  empty.extend values

end UniqueList

end SqlLineage
