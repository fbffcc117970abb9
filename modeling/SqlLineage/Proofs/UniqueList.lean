import Mathlib.Data.List.Induction
import SqlLineage.UniqueList

/-!
# Members of unique lists

What insertion and extension do to the members. Extending a list by members that it has already
changes nothing, so an extension may be repeated. The members of an extension are the members of the
list, and behind them the first occurrences of what is new.
-/

namespace SqlLineage
namespace UniqueList

variable {α : Type}

@[simp] theorem toList_empty : (empty : UniqueList α).toList = [] := rfl

variable [DecidableEq α]

theorem insert_of_mem
    {list : UniqueList α}
    {value : α}
    (member : value ∈ list.toList) :
    list.insert value = list := by
  simp [insert, member]

@[simp] theorem mem_insert
    {list : UniqueList α}
    {value other : α} :
    other ∈ (list.insert value).toList ↔ other ∈ list.toList ∨ other = value := by
  by_cases member : value ∈ list.toList
  · rw [insert_of_mem member]
    constructor
    · exact .inl
    · rintro (present | rfl)
      · exact present
      · exact member
  · simp [insert, member]

@[simp] theorem extend_nil (list : UniqueList α) : list.extend [] = list := rfl

@[simp] theorem extend_cons (list : UniqueList α) (value : α) (values : List α) :
    list.extend (value :: values) = (list.insert value).extend values := rfl

theorem extend_append (list : UniqueList α) (front back : List α) :
    list.extend (front ++ back) = (list.extend front).extend back :=
  List.foldl_append

@[simp] theorem mem_extend
    {list : UniqueList α}
    {values : List α}
    {other : α} :
    other ∈ (list.extend values).toList ↔ other ∈ list.toList ∨ other ∈ values := by
  induction values generalizing list with
  | nil => simp
  | cons value values inductionHypothesis =>
      rw [extend_cons, inductionHypothesis, mem_insert, List.mem_cons, or_assoc]

/-- Members that are there already change nothing. -/
theorem extend_of_subset
    {list : UniqueList α}
    {values : List α}
    (subset : values ⊆ list.toList) :
    list.extend values = list := by
  induction values with
  | nil => rfl
  | cons value values inductionHypothesis =>
      rw [extend_cons, insert_of_mem (subset List.mem_cons_self)]
      exact inductionHypothesis fun _ member => subset (List.mem_cons_of_mem _ member)

/-- An extension may be repeated. -/
theorem extend_extend_self (list : UniqueList α) (values : List α) :
    (list.extend values).extend values = list.extend values :=
  extend_of_subset fun _ member => mem_extend.2 (.inr member)

theorem toList_insert (list : UniqueList α) (value : α) :
    (list.insert value).toList =
      list.toList ++ if value ∈ list.toList then [] else [value] := by
  by_cases member : value ∈ list.toList <;> simp [insert, member]

/-- An extension puts the values that are no members yet behind the members, each at its first
occurrence. -/
theorem toList_extend (list : UniqueList α) (values : List α) :
    (list.extend values).toList =
      list.toList ++ values.eraseDups.filter fun value => value ∉ list.toList := by
  induction values using List.reverseRecOn with
  | nil => simp
  | append_singleton values value inductionHypothesis =>
      have last : (([value].removeAll values).eraseDups.filter fun value => value ∉ list.toList) =
          if value ∈ (list.extend values).toList then [] else [value] := by
        simp only [mem_extend]
        by_cases inValues : value ∈ values
        · simp [List.removeAll, inValues]
        · by_cases inList : value ∈ list.toList <;>
            simp [List.removeAll, List.eraseDups_cons, inValues, inList]
      rw [extend_append, extend_cons, extend_nil, toList_insert, ← last, inductionHypothesis,
        List.eraseDups_append, List.filter_append, List.append_assoc]

theorem prefix_extend (list : UniqueList α) (values : List α) :
    list.toList <+: (list.extend values).toList :=
  ⟨_, (toList_extend list values).symm⟩

/-- The members of a list are its values, each at its first occurrence. -/
theorem toList_ofList (values : List α) : (ofList values).toList = values.eraseDups := by
  simp [ofList, toList_extend]

/-- A list may be extended before its members extend another list. -/
theorem extend_toList_extend (found list : UniqueList α) (values : List α) :
    found.extend (list.extend values).toList = (found.extend list.toList).extend values := by
  induction values generalizing list with
  | nil => rfl
  | cons value values inductionHypothesis =>
      rw [extend_cons, extend_cons, inductionHypothesis, toList_insert, extend_append]
      split
      next member =>
        have present : value ∈ (found.extend list.toList).toList :=
          mem_extend.2 (.inr member)
        rw [insert_of_mem present, extend_nil]
      next => rfl

/-- The members of a list of values make up the same list. -/
theorem ofList_toList_ofList (values : List α) : ofList (ofList values).toList = ofList values :=
  extend_toList_extend empty empty values

end UniqueList
end SqlLineage
