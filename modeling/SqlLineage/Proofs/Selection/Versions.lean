import Mathlib.Data.Set.Defs
import SqlLineage.Version

/-!
# Where versions are in order

Of two versions one is the lower or both are equal, whichever of them comes first. Among three
versions the order can go round: two numbers are compared as numbers, but a number and another part
as texts. It is transitive on versions whose parts at each place are all numbers or all something
else, where a part that is missing is the number zero.
-/

namespace SqlLineage
namespace Version

/-! ## One part -/

instance : Std.OrientedCmp comparePart where
  eq_swap {a b} := by
    unfold comparePart
    cases Text.readWord a with
    | error fault => cases Text.readWord b <;> exact Std.OrientedOrd.eq_swap
    | ok m =>
        cases Text.readWord b with
        | error fault => exact Std.OrientedOrd.eq_swap
        | ok n => exact Std.OrientedOrd.eq_swap

/-- A part is a number. -/
def IsNumber (part : String) : Prop :=
  ∃ number, Text.readWord part = .ok number

instance (part : String) : Decidable (IsNumber part) :=
  match number : Text.readWord part with
  | .ok value => .isTrue ⟨value, number⟩
  | .error _ => .isFalse fun ⟨_, other⟩ => nomatch number.symm.trans other

theorem comparePart_of_numbers
    {a b : String}
    {m n : Nat}
    (first : Text.readWord a = .ok m)
    (second : Text.readWord b = .ok n) :
    comparePart a b = compare m n := by
  rw [comparePart, first, second]

theorem comparePart_of_not_numbers
    {a b : String}
    (texts : ¬(IsNumber a ∧ IsNumber b)) :
    comparePart a b = compare a b := by
  unfold comparePart
  split
  next m n first second => exact absurd ⟨⟨m, first⟩, ⟨n, second⟩⟩ texts
  next => rfl

/-- Parts are equal if they are the same text or the same number. -/
theorem comparePart_eq_eq_iff {a b : String} :
    comparePart a b = .eq ↔
      a = b ∨ ∃ number, Text.readWord a = .ok number ∧ Text.readWord b = .ok number := by
  by_cases numbers : IsNumber a ∧ IsNumber b
  · obtain ⟨⟨m, first⟩, n, second⟩ := numbers
    rw [comparePart_of_numbers first second, Std.compare_eq_iff_eq]
    constructor
    · rintro rfl
      exact .inr ⟨m, first, second⟩
    · rintro (rfl | ⟨number, isFirst, isSecond⟩)
      · exact Except.ok.inj (first.symm.trans second)
      · rw [first] at isFirst
        rw [second] at isSecond
        exact (Except.ok.inj isFirst).trans (Except.ok.inj isSecond).symm
  · rw [comparePart_of_not_numbers numbers, Std.compare_eq_iff_eq]
    constructor
    · exact .inl
    · rintro (rfl | ⟨number, first, second⟩)
      · rfl
      · exact absurd ⟨⟨number, first⟩, ⟨number, second⟩⟩ numbers

theorem comparePart_eq_trans
    {a b c : String}
    (first : comparePart a b = .eq)
    (second : comparePart b c = .eq) :
    comparePart a c = .eq := by
  rw [comparePart_eq_eq_iff] at first second ⊢
  rcases first with rfl | ⟨m, isFirst, between⟩
  · exact second
  · rcases second with rfl | ⟨n, between', isSecond⟩
    · exact .inr ⟨m, isFirst, between⟩
    · obtain rfl := Except.ok.inj (between.symm.trans between')
      exact .inr ⟨m, isFirst, isSecond⟩

/-! ## All parts -/

/-- The order of two lists is that of their first parts, and behind equal ones that of the others. -/
theorem compareParts_eq (as bs : List String) :
    compareParts as bs =
      (comparePart (as.headD "0") (bs.headD "0")).then (compareParts as.tail bs.tail) := by
  cases as with
  | cons a as =>
      cases bs with
      | nil => rw [compareParts, List.headD_cons, List.headD_nil, List.tail_cons, List.tail_nil]
      | cons b bs => rw [compareParts, List.headD_cons, List.headD_cons, List.tail_cons,
          List.tail_cons]
  | nil =>
      cases bs with
      | cons b bs => rw [compareParts, List.headD_cons, List.headD_nil, List.tail_cons,
          List.tail_nil]
      | nil =>
          have same : comparePart "0" "0" = .eq := Std.ReflCmp.compare_self
          rw [List.headD_nil, same, List.tail_nil]
          rfl

/-- What holds of lists without parts, and of lists of which it holds behind their first parts, holds
of all lists. -/
theorem parts_induction
    {motive : List String → List String → List String → Prop}
    (nil : motive [] [] [])
    (tail : ∀ as bs cs, motive as.tail bs.tail cs.tail → motive as bs cs)
    (as bs cs : List String) :
    motive as bs cs := by
  obtain ⟨bound, enough⟩ : ∃ bound, as.length ≤ bound ∧ bs.length ≤ bound ∧ cs.length ≤ bound :=
    ⟨as.length + bs.length + cs.length, by omega⟩
  induction bound generalizing as bs cs with
  | zero =>
      obtain ⟨noFirst, noSecond, noThird⟩ := enough
      rw [List.length_eq_zero_iff.1 (Nat.le_zero.1 noFirst),
        List.length_eq_zero_iff.1 (Nat.le_zero.1 noSecond),
        List.length_eq_zero_iff.1 (Nat.le_zero.1 noThird)]
      exact nil
  | succ bound inductionHypothesis =>
      apply tail
      apply inductionHypothesis
      simp only [List.length_tail]
      omega

instance : Std.OrientedCmp compareParts where
  eq_swap {as bs} := by
    induction as, bs, ([] : List String) using parts_induction with
    | nil =>
        rw [compareParts]
        rfl
    | tail as bs _ inductionHypothesis =>
        have heads (a b : String) : comparePart a b = (comparePart b a).swap :=
          Std.OrientedCmp.eq_swap
        rw [compareParts_eq as bs, compareParts_eq bs as, Ordering.swap_then, inductionHypothesis,
          heads]

theorem compareParts_eq_trans
    {as bs cs : List String}
    (first : compareParts as bs = .eq)
    (second : compareParts bs cs = .eq) :
    compareParts as cs = .eq := by
  induction as, bs, cs using parts_induction with
  | nil => exact first
  | tail as bs cs inductionHypothesis =>
      rw [compareParts_eq, Ordering.then_eq_eq] at first second ⊢
      exact ⟨comparePart_eq_trans first.1 second.1, inductionHypothesis first.2 second.2⟩

/-- The order of some texts does not go round. -/
def TransitiveOn (cmp : String → String → Ordering) (texts : Set String) : Prop :=
  ∀ a ∈ texts, ∀ b ∈ texts, ∀ c ∈ texts, (cmp a b).isLE → (cmp b c).isLE → (cmp a c).isLE

/-- Lists are in order if the parts at each place are. -/
theorem compareParts_isLE_trans
    {places : Nat → Set String}
    (transitive : ∀ place, TransitiveOn comparePart (places place))
    {as bs cs : List String}
    (inFirst : ∀ place, as.getD place "0" ∈ places place)
    (inSecond : ∀ place, bs.getD place "0" ∈ places place)
    (inThird : ∀ place, cs.getD place "0" ∈ places place)
    (first : (compareParts as bs).isLE)
    (second : (compareParts bs cs).isLE) :
    (compareParts as cs).isLE := by
  induction as, bs, cs using parts_induction generalizing places with
  | nil => exact first
  | tail as bs cs inductionHypothesis =>
      have head {parts : List String} (inPlaces : ∀ place, parts.getD place "0" ∈ places place) :
          parts.headD "0" ∈ places 0 := by
        have atFirst := inPlaces 0
        cases parts with
        | nil => exact atFirst
        | cons part parts => exact atFirst
      have tail {parts : List String} (inPlaces : ∀ place, parts.getD place "0" ∈ places place) :
          ∀ place, parts.tail.getD place "0" ∈ places (place + 1) := by
        intro place
        have later := inPlaces (place + 1)
        cases parts with
        | nil => exact later
        | cons part parts => exact later
      rw [compareParts_eq, Ordering.isLE_then_iff_and] at first second ⊢
      obtain ⟨firstHeads, firstTails⟩ := first
      obtain ⟨secondHeads, secondTails⟩ := second
      have heads := transitive 0 _ (head inFirst) _ (head inSecond) _ (head inThird)
        firstHeads secondHeads
      refine ⟨heads, ?_⟩
      by_cases less : comparePart (as.headD "0") (cs.headD "0") = .lt
      · exact .inl less
      · -- The first parts at both ends are equal, so that all three are.
        right
        have back : (comparePart (cs.headD "0") (as.headD "0")).isLE := by
          rw [← Std.OrientedCmp.isGE_iff_isLE]
          cases order : comparePart (as.headD "0") (cs.headD "0") with
          | lt => exact absurd order less
          | eq => rfl
          | gt => rfl
        have equalFirst := Std.OrientedCmp.isLE_antisymm firstHeads
          (transitive 0 _ (head inSecond) _ (head inThird) _ (head inFirst) secondHeads back)
        have equalSecond := Std.OrientedCmp.isLE_antisymm secondHeads
          (transitive 0 _ (head inThird) _ (head inFirst) _ (head inSecond) back firstHeads)
        rw [equalFirst] at firstTails
        rw [equalSecond] at secondTails
        exact inductionHypothesis (fun place => transitive (place + 1)) (tail inFirst)
          (tail inSecond) (tail inThird) (by simpa using firstTails) (by simpa using secondTails)

/-! ## Versions -/

instance : Std.OrientedCmp order where
  eq_swap {a b} := by
    have parts (as bs : List String) : compareParts as bs = (compareParts bs as).swap :=
      Std.OrientedCmp.eq_swap
    exact parts _ _

theorem order_eq_trans
    {a b c : String}
    (first : order a b = .eq)
    (second : order b c = .eq) :
    order a c = .eq :=
  compareParts_eq_trans first second

/-- Versions without dots are compared as one part. -/
theorem order_of_single
    {a b : String}
    (single : parts a = [a])
    (other : parts b = [b]) :
    order a b = comparePart a b := by
  rw [order, single, other, compareParts, compareParts, Ordering.then_eq]

/-- The part of a version at a place, which is zero if it is missing. -/
def part (version : String) (place : Nat) : String :=
  (parts version).getD place "0"

/-- At each place the parts of some versions are all numbers, or none of them is one. -/
def Uniform (versions : Set String) : Prop :=
  ∀ place, (∀ version ∈ versions, IsNumber (part version place)) ∨
    ∀ version ∈ versions, ¬IsNumber (part version place)

/-- The order is transitive on uniform versions. -/
theorem Uniform.transitiveOn
    {versions : Set String}
    (uniform : Uniform versions) :
    TransitiveOn order versions := by
  have transitive (place : Nat) :
      TransitiveOn comparePart {text | ∃ version ∈ versions, part version place = text} := by
    rintro _ ⟨a, inA, rfl⟩ _ ⟨b, inB, rfl⟩ _ ⟨c, inC, rfl⟩ first second
    rcases uniform place with numbers | texts
    · obtain ⟨m, isM⟩ := numbers a inA
      obtain ⟨n, isN⟩ := numbers b inB
      obtain ⟨k, isK⟩ := numbers c inC
      rw [comparePart_of_numbers isM isN] at first
      rw [comparePart_of_numbers isN isK] at second
      rw [comparePart_of_numbers isM isK]
      exact Std.TransCmp.isLE_trans first second
    · rw [comparePart_of_not_numbers fun numbers => texts a inA numbers.1] at first
      rw [comparePart_of_not_numbers fun numbers => texts b inB numbers.1] at second
      rw [comparePart_of_not_numbers fun numbers => texts a inA numbers.1]
      exact Std.TransCmp.isLE_trans first second
  intro a inA b inB c inC first second
  exact compareParts_isLE_trans transitive (fun _ => ⟨a, inA, rfl⟩) (fun _ => ⟨b, inB, rfl⟩)
    (fun _ => ⟨c, inC, rfl⟩) first second

/-- Versions are uniform if they are made of numbers. -/
theorem uniform_of_numbers
    {versions : Set String}
    (numbers : ∀ version ∈ versions, ∀ part ∈ parts version, IsNumber part) :
    Uniform versions := by
  intro place
  left
  intro version member
  rw [part, List.getD_eq_getElem?_getD]
  cases found : (parts version)[place]? with
  | none => exact ⟨0, rfl⟩
  | some text => exact numbers version member text (List.mem_of_getElem? found)

end Version
end SqlLineage
