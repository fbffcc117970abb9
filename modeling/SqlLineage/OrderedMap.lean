/-!
# Maps in the order of their keys

A map is the list of its entries in increasing order of their keys. Keys that compare as equal are
one key, and the first of them stays.
-/

namespace SqlLineage

/-- A finite map from `κ` to `α`. -/
structure OrderedMap (κ α : Type) [Ord κ] where
  /-- The entries. -/
  toList : List (κ × α)
  /-- Each key is less than all keys behind it. -/
  sorted : toList.Pairwise fun a b => compare a.1 b.1 = .lt

namespace OrderedMap

variable {κ α : Type} [Ord κ]

instance [DecidableEq κ] [DecidableEq α] : DecidableEq (OrderedMap κ α) := fun a b =>
  decidable_of_iff (a.toList = b.toList) (by cases a; cases b; simp)

/-- The map without entries. -/
def empty : OrderedMap κ α :=
  ⟨[], List.Pairwise.nil⟩

instance : Inhabited (OrderedMap κ α) :=
  ⟨empty⟩

/-- Whether there are no entries. -/
def isEmpty (map : OrderedMap κ α) : Bool :=
  map.toList.isEmpty

/-- The keys in increasing order. -/
def keys (map : OrderedMap κ α) : List κ :=
  map.toList.map Prod.fst

/-- The value of `key`. -/
def get? (map : OrderedMap κ α) (key : κ) : Option α :=
  (map.toList.find? fun entry => compare entry.1 key == .eq).map Prod.snd

/-- The entries after the value of `key` was changed, or put in if there was none. -/
def updateList (key : κ) (change : Option α → α) : List (κ × α) → List (κ × α)
  | [] => [(key, change none)]
  | entry :: entries =>
    match compare key entry.1 with
    | .lt => (key, change none) :: entry :: entries
    | .eq => (entry.1, change (some entry.2)) :: entries
    | .gt => entry :: updateList key change entries

/-- A key of an updated list is the new one or was there before. -/
theorem mem_updateList {key : κ} {change : Option α → α} {entries : List (κ × α)} {x : κ × α}
    (member : x ∈ updateList key change entries) :
    x.1 = key ∨ ∃ y ∈ entries, y.1 = x.1 := by
  induction entries with
  | nil => simp_all [updateList]
  | cons entry entries ih =>
    simp only [updateList] at member
    split at member
    · rcases List.mem_cons.1 member with rfl | member
      · exact .inl rfl
      · exact .inr ⟨x, member, rfl⟩
    · rcases List.mem_cons.1 member with rfl | member
      · exact .inr ⟨entry, List.mem_cons_self, rfl⟩
      · exact .inr ⟨x, List.mem_cons_of_mem _ member, rfl⟩
    · rcases List.mem_cons.1 member with rfl | member
      · exact .inr ⟨x, List.mem_cons_self, rfl⟩
      · rcases ih member with same | ⟨y, inside, same⟩
        · exact .inl same
        · exact .inr ⟨y, List.mem_cons_of_mem _ inside, same⟩

/-- Updating keeps the keys in order. -/
theorem sorted_updateList [Std.TransOrd κ] {key : κ} {change : Option α → α}
    {entries : List (κ × α)} (sorted : entries.Pairwise fun a b => compare a.1 b.1 = .lt) :
    (updateList key change entries).Pairwise fun a b => compare a.1 b.1 = .lt := by
  induction entries with
  | nil => simp [updateList]
  | cons entry entries ih =>
    have ⟨first, rest⟩ := List.pairwise_cons.1 sorted
    simp only [updateList]
    split
    next less =>
      refine List.pairwise_cons.2 ⟨fun x member => ?_, sorted⟩
      rcases List.mem_cons.1 member with rfl | member
      · exact less
      · exact Std.TransCmp.lt_trans less (first x member)
    next => exact List.pairwise_cons.2 ⟨first, rest⟩
    next greater =>
      refine List.pairwise_cons.2 ⟨fun x member => ?_, ih rest⟩
      rcases mem_updateList member with same | ⟨y, inside, same⟩
      · rw [same]
        exact Std.OrientedCmp.lt_of_gt greater
      · rw [← same]
        exact first y inside

/-- The map after the value of `key` was changed, or put in if there was none. -/
def update [Std.TransOrd κ] (map : OrderedMap κ α) (key : κ) (change : Option α → α) :
    OrderedMap κ α :=
  ⟨updateList key change map.toList, sorted_updateList map.sorted⟩

/-- The map in which `key` has `value`. -/
def insert [Std.TransOrd κ] (map : OrderedMap κ α) (key : κ) (value : α) : OrderedMap κ α :=
  map.update key fun _ => value

end OrderedMap

end SqlLineage
