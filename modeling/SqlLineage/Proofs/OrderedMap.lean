import Mathlib.Data.List.Forall2
import SqlLineage.OrderedMap

/-!
# Values of ordered maps

An update changes the value of its own key and of no other. Keys that compare as equal have the same
value. The keys with a value are those of the entries. An update that lets values grow keeps all
entries in their order, and one that does not change a value changes nothing.
-/

namespace SqlLineage
namespace OrderedMap

variable {κ α : Type} [Ord κ]

/-- The value of `key` in a list of entries. -/
def valueIn (entries : List (κ × α)) (key : κ) : Option α :=
  (entries.find? fun entry => compare entry.1 key == .eq).map Prod.snd

theorem get?_eq_valueIn (map : OrderedMap κ α) (key : κ) :
    map.get? key = valueIn map.toList key := rfl

@[simp] theorem get?_empty (key : κ) : (empty : OrderedMap κ α).get? key = none := rfl

@[simp] theorem valueIn_nil (key : κ) : valueIn ([] : List (κ × α)) key = none := rfl

theorem valueIn_cons (entry : κ × α) (entries : List (κ × α)) (key : κ) :
    valueIn (entry :: entries) key =
      if compare entry.1 key = .eq then some entry.2 else valueIn entries key := by
  by_cases equal : compare entry.1 key = .eq <;> simp [valueIn, equal]

/-- The keys increase. -/
theorem pairwise_keys (map : OrderedMap κ α) :
    map.keys.Pairwise fun a b => compare a b = .lt :=
  List.pairwise_map.2 map.sorted

/-- A value is that of an entry. -/
theorem exists_mem_of_get?_eq_some
    {map : OrderedMap κ α}
    {key : κ}
    {value : α}
    (found : map.get? key = some value) :
    ∃ entry ∈ map.toList, compare entry.1 key = .eq ∧ entry.2 = value := by
  obtain ⟨entry, first, rfl⟩ := Option.map_eq_some_iff.1 found
  exact ⟨entry, List.mem_of_find?_eq_some first, by simpa using List.find?_some first, rfl⟩

variable [Std.TransOrd κ]

/-- Keys that compare as equal are one key. -/
theorem valueIn_congr
    (entries : List (κ × α))
    {key other : κ}
    (equal : compare key other = .eq) :
    valueIn entries key = valueIn entries other := by
  have sameTest : (fun entry : κ × α => compare entry.1 key == .eq) =
      fun entry => compare entry.1 other == .eq := by
    funext entry
    rw [Std.TransCmp.congr_right equal]
  rw [valueIn, valueIn, sameTest]

theorem get?_congr
    (map : OrderedMap κ α)
    {key other : κ}
    (equal : compare key other = .eq) :
    map.get? key = map.get? other :=
  valueIn_congr map.toList equal

/-- A key that is less than all keys of a list is not in it. -/
theorem valueIn_eq_none_of_lt
    {key : κ}
    {entries : List (κ × α)}
    (less : ∀ entry ∈ entries, compare key entry.1 = .lt) :
    valueIn entries key = none := by
  rw [valueIn, Option.map_eq_none_iff, List.find?_eq_none]
  intro entry member equal
  have greater := Std.OrientedCmp.gt_of_lt (less entry member)
  simp [greater] at equal

/-- A key that is less than the first one of a sorted list is not in it. -/
theorem valueIn_cons_eq_none_of_lt
    {key : κ}
    {entry : κ × α}
    {entries : List (κ × α)}
    (sorted : (entry :: entries).Pairwise fun a b => compare a.1 b.1 = .lt)
    (less : compare key entry.1 = .lt) :
    valueIn (entry :: entries) key = none := by
  refine valueIn_eq_none_of_lt fun later member => ?_
  rcases List.mem_cons.1 member with rfl | member
  · exact less
  · exact Std.TransCmp.lt_trans less ((List.pairwise_cons.1 sorted).1 later member)

/-- An update changes the value of its own key. -/
theorem valueIn_updateList_of_eq
    {key other : κ}
    (equal : compare key other = .eq)
    (change : Option α → α)
    {entries : List (κ × α)}
    (sorted : entries.Pairwise fun a b => compare a.1 b.1 = .lt) :
    valueIn (updateList key change entries) other = some (change (valueIn entries other)) := by
  rw [← valueIn_congr entries equal]
  induction entries with
  | nil => rw [updateList, valueIn_cons, if_pos equal, valueIn_nil]
  | cons entry entries inductionHypothesis =>
      obtain ⟨first, rest⟩ := List.pairwise_cons.1 sorted
      rw [updateList]
      split
      next less =>
        rw [valueIn_cons, if_pos equal, valueIn_cons_eq_none_of_lt sorted less]
      next found =>
        have symmetric := Std.OrientedCmp.eq_symm found
        rw [valueIn_cons, if_pos (Std.TransCmp.eq_trans symmetric equal), valueIn_cons,
          if_pos symmetric]
      next greater =>
        have notKey : compare entry.1 key ≠ .eq := by
          rw [Std.OrientedCmp.lt_of_gt greater]
          simp
        have notOther : compare entry.1 other ≠ .eq := by
          rwa [← Std.TransCmp.congr_right equal]
        rw [valueIn_cons, if_neg notOther, valueIn_cons, if_neg notKey, inductionHypothesis rest]

/-- An update leaves the values of other keys alone. -/
theorem valueIn_updateList_of_ne
    {key other : κ}
    (different : compare key other ≠ .eq)
    (change : Option α → α)
    (entries : List (κ × α)) :
    valueIn (updateList key change entries) other = valueIn entries other := by
  induction entries with
  | nil => rw [updateList, valueIn_cons, if_neg different]
  | cons entry entries inductionHypothesis =>
      rw [updateList]
      split
      next => rw [valueIn_cons, if_neg different]
      next found =>
        have notOther : compare entry.1 other ≠ .eq := by
          rwa [← Std.TransCmp.congr_left found]
        rw [valueIn_cons, if_neg notOther, valueIn_cons, if_neg notOther]
      next => rw [valueIn_cons, valueIn_cons, inductionHypothesis]

theorem get?_update
    (map : OrderedMap κ α)
    (key other : κ)
    (change : Option α → α) :
    (map.update key change).get? other =
      if compare key other = .eq then some (change (map.get? other)) else map.get? other := by
  rw [get?_eq_valueIn, get?_eq_valueIn, update]
  by_cases equal : compare key other = .eq
  · rw [if_pos equal, valueIn_updateList_of_eq equal change map.sorted]
  · rw [if_neg equal, valueIn_updateList_of_ne equal]

/-! ## Entries -/

/-- An entry of a sorted list has the value of its key. -/
theorem valueIn_of_mem
    {entries : List (κ × α)}
    (sorted : entries.Pairwise fun a b => compare a.1 b.1 = .lt)
    {entry : κ × α}
    (member : entry ∈ entries) :
    valueIn entries entry.1 = some entry.2 := by
  induction entries with
  | nil => simp at member
  | cons head entries inductionHypothesis =>
      obtain ⟨first, rest⟩ := List.pairwise_cons.1 sorted
      rw [valueIn_cons]
      rcases List.mem_cons.1 member with rfl | member
      · rw [if_pos Std.ReflOrd.compare_self]
      · rw [if_neg (by simp [first entry member]), inductionHypothesis rest member]

theorem get?_of_mem
    {map : OrderedMap κ α}
    {entry : κ × α}
    (member : entry ∈ map.toList) :
    map.get? entry.1 = some entry.2 :=
  valueIn_of_mem map.sorted member

/-- At most one entry of a sorted list has a key, and its value is that of the key. -/
theorem map_snd_filter_eq_valueIn
    {entries : List (κ × α)}
    (sorted : entries.Pairwise fun a b => compare a.1 b.1 = .lt)
    (key : κ) :
    (entries.filter fun entry => compare entry.1 key == .eq).map Prod.snd =
      (valueIn entries key).toList := by
  induction entries with
  | nil => rfl
  | cons entry entries inductionHypothesis =>
      obtain ⟨first, rest⟩ := List.pairwise_cons.1 sorted
      rw [List.filter_cons, valueIn_cons]
      by_cases equal : compare entry.1 key = .eq
      · have none_ : entries.filter (fun entry => compare entry.1 key == .eq) = [] := by
          rw [List.filter_eq_nil_iff]
          intro later member other
          have equalLater : compare later.1 key = .eq := by simpa using other
          have less := first later member
          rw [Std.TransCmp.congr_left equal, Std.OrientedCmp.eq_symm equalLater] at less
          cases less
        simp [equal, none_]
      · simp [equal, inductionHypothesis rest]

/-- A key has a value exactly if it compares as equal to the key of an entry. -/
theorem isSome_get?_iff
    {map : OrderedMap κ α}
    {key : κ} :
    (map.get? key).isSome ↔ ∃ other ∈ map.keys, compare other key = .eq := by
  rw [Option.isSome_iff_exists]
  constructor
  · rintro ⟨value, found⟩
    obtain ⟨entry, member, equal, _⟩ := exists_mem_of_get?_eq_some found
    exact ⟨entry.1, List.mem_map_of_mem member, equal⟩
  · rintro ⟨other, member, equal⟩
    obtain ⟨entry, present, rfl⟩ := List.mem_map.1 member
    exact ⟨entry.2, by rw [← get?_congr map equal, get?_of_mem present]⟩

/-- After updates of keys these have a value, and so have the keys that had one before. -/
theorem isSome_get?_foldl_update
    (change : Option α → α)
    (keys : List κ)
    (map : OrderedMap κ α)
    (key : κ) :
    ((keys.foldl (fun map other => map.update other change) map).get? key).isSome ↔
      (map.get? key).isSome ∨ ∃ other ∈ keys, compare other key = .eq := by
  induction keys generalizing map with
  | nil => simp
  | cons other keys inductionHypothesis =>
      rw [List.foldl_cons, inductionHypothesis, get?_update]
      by_cases equal : compare other key = .eq <;> simp [equal]

end OrderedMap

/-! ## Growth -/

namespace OrderedMap

variable {κ α : Type}

/-- The entry has the key of another one, and its value has grown. -/
def EntryGrowsTo (grows : α → α → Prop) (entry later : κ × α) : Prop :=
  entry.1 = later.1 ∧ grows entry.2 later.2

instance (grows : α → α → Prop) [Std.Refl grows] :
    Std.Refl (EntryGrowsTo grows : κ × α → κ × α → Prop) :=
  ⟨fun entry => ⟨rfl, Std.Refl.refl entry.2⟩⟩

instance (grows : α → α → Prop) [IsTrans α grows] :
    IsTrans (κ × α) (EntryGrowsTo grows) :=
  ⟨fun _ _ _ first second =>
    ⟨first.1.trans second.1, IsTrans.trans _ _ _ first.2 second.2⟩⟩

variable [Ord κ]

/-- The entries of a map are there in another one, in the same order and with the same keys, and the
values have grown. -/
def GrowsTo (grows : α → α → Prop) (map grown : OrderedMap κ α) : Prop :=
  List.SublistForall₂ (EntryGrowsTo grows) map.toList grown.toList

variable {grows : α → α → Prop}

instance [Std.Refl grows] :
    Std.Refl (GrowsTo grows : OrderedMap κ α → OrderedMap κ α → Prop) :=
  ⟨fun map => Std.Refl.refl map.toList⟩

instance [IsTrans α grows] : IsTrans (OrderedMap κ α) (GrowsTo grows) :=
  ⟨fun first second third =>
    IsTrans.trans first.toList second.toList third.toList⟩

theorem GrowsTo.exists_mem
    {map grown : OrderedMap κ α}
    (growsTo : map.GrowsTo grows grown)
    {entry : κ × α}
    (member : entry ∈ map.toList) :
    ∃ later ∈ grown.toList, EntryGrowsTo grows entry later := by
  rw [GrowsTo] at growsTo
  generalize map.toList = entries at growsTo member
  generalize grown.toList = later at growsTo ⊢
  induction growsTo with
  | nil => simp at member
  | @cons _ head _ _ related _ inductionHypothesis =>
      rcases List.mem_cons.1 member with rfl | member
      · exact ⟨head, List.mem_cons_self, related⟩
      · obtain ⟨found, inTail, grown⟩ := inductionHypothesis member
        exact ⟨found, List.mem_cons_of_mem _ inTail, grown⟩
  | cons_right _ inductionHypothesis =>
      obtain ⟨found, inTail, grown⟩ := inductionHypothesis member
      exact ⟨found, List.mem_cons_of_mem _ inTail, grown⟩

variable [Std.TransOrd κ]

/-- A value of a map has grown. -/
theorem GrowsTo.exists_get?
    {map grown : OrderedMap κ α}
    (growsTo : map.GrowsTo grows grown)
    {key : κ}
    {value : α}
    (found : map.get? key = some value) :
    ∃ later, grown.get? key = some later ∧ grows value later := by
  obtain ⟨entry, member, equal, rfl⟩ := exists_mem_of_get?_eq_some found
  obtain ⟨later, inGrown, sameKey, hasGrown⟩ := growsTo.exists_mem member
  refine ⟨later.2, ?_, hasGrown⟩
  rw [← get?_congr grown equal, sameKey, get?_of_mem inGrown]

/-- An update lets a map grow if it lets the value grow. -/
theorem growsTo_update
    [Std.Refl grows]
    {change : Option α → α}
    (changes : ∀ value, grows value (change (some value)))
    (map : OrderedMap κ α)
    (key : κ) :
    map.GrowsTo grows (map.update key change) := by
  have entries (entries : List (κ × α)) :
      List.SublistForall₂ (EntryGrowsTo grows) entries (updateList key change entries) := by
    induction entries with
    | nil => exact .nil
    | cons entry entries inductionHypothesis =>
        rw [updateList]
        split
        next => exact .cons_right (Std.Refl.refl _)
        next => exact .cons ⟨rfl, changes entry.2⟩ (Std.Refl.refl _)
        next => exact .cons (Std.Refl.refl _) inductionHypothesis
  exact entries map.toList

theorem updateList_eq_self
    {key : κ}
    {change : Option α → α}
    {entries : List (κ × α)}
    (sorted : entries.Pairwise fun a b => compare a.1 b.1 = .lt)
    {value : α}
    (found : valueIn entries key = some value)
    (unchanged : change (some value) = value) :
    updateList key change entries = entries := by
  induction entries with
  | nil => simp at found
  | cons entry entries inductionHypothesis =>
      obtain ⟨first, rest⟩ := List.pairwise_cons.1 sorted
      rw [updateList]
      split
      next less =>
        rw [valueIn_cons_eq_none_of_lt sorted less] at found
        cases found
      next equal =>
        rw [valueIn_cons, if_pos (Std.OrientedCmp.eq_symm equal)] at found
        obtain rfl := Option.some.inj found
        rw [unchanged]
      next greater =>
        have different : compare entry.1 key ≠ .eq := by
          rw [Std.OrientedCmp.lt_of_gt greater]
          simp
        rw [valueIn_cons, if_neg different] at found
        rw [inductionHypothesis rest found]

/-- An update that does not change the value of a key changes nothing. -/
theorem update_eq_self
    {map : OrderedMap κ α}
    {key : κ}
    {value : α}
    (found : map.get? key = some value)
    {change : Option α → α}
    (unchanged : change (some value) = value) :
    map.update key change = map := by
  obtain ⟨entries, sorted⟩ := map
  have same := updateList_eq_self sorted found unchanged
  simp only [update, same]

end OrderedMap
end SqlLineage
