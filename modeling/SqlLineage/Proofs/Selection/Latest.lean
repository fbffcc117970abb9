import Mathlib.Data.List.Induction
import SqlLineage.JobSelection
import SqlLineage.Proofs.OrderedMap
import SqlLineage.Proofs.Selection.Versions

/-!
# The latest version of each job

Of the jobs of a name one is kept, namely the one that a scan of them ends with. It is the highest of
them, in whatever order they are listed, exactly if the order of their versions does not go round.
-/

namespace SqlLineage
namespace JobSelection

/-! ## The jobs of one name -/

/-- The job that a scan for the highest version ends with. -/
def highest? (jobs : List Job) : Option Job :=
  jobs.foldl (fun kept job => some (newer kept job)) none

theorem highest?_concat (jobs : List Job) (job : Job) :
    highest? (jobs ++ [job]) = some (newer (highest? jobs) job) :=
  List.foldl_concat _ none job jobs

theorem newer_of_lt
    {kept job : Job}
    (lower : Version.order kept.version job.version = .lt) :
    newer (some kept) job = job :=
  if_pos lower

theorem newer_of_not_lt
    {kept job : Job}
    (notLower : Version.order kept.version job.version ≠ .lt) :
    newer (some kept) job = kept :=
  if_neg notLower

/-- A scan passes from a job to a higher one. -/
theorem highest?_cons_cons_of_lt
    {kept job : Job}
    (lower : Version.order kept.version job.version = .lt)
    (jobs : List Job) :
    highest? (kept :: job :: jobs) = highest? (job :: jobs) := by
  change (jobs.foldl _ (some (newer (some kept) job))) = _
  rw [newer_of_lt lower]
  rfl

/-- A scan stays at a job that is not lower than the next one. -/
theorem highest?_cons_cons_of_not_lt
    {kept job : Job}
    (notLower : Version.order kept.version job.version ≠ .lt)
    (jobs : List Job) :
    highest? (kept :: job :: jobs) = highest? (kept :: jobs) := by
  change (jobs.foldl _ (some (newer (some kept) job))) = _
  rw [newer_of_not_lt notLower]
  rfl

/-- A scan of any jobs ends with one of them. -/
theorem mem_of_highest?
    {jobs : List Job}
    {job : Job}
    (found : highest? jobs = some job) :
    job ∈ jobs := by
  induction jobs using List.reverseRecOn generalizing job with
  | nil => cases found
  | append_singleton jobs last inductionHypothesis =>
      rw [highest?_concat] at found
      obtain rfl := Option.some.inj found
      rw [List.mem_append, List.mem_singleton]
      cases before : highest? jobs with
      | none => exact .inr rfl
      | some kept =>
          by_cases lower : Version.order kept.version last.version = .lt
          · exact .inr (newer_of_lt lower)
          · rw [newer_of_not_lt lower]
            exact .inl (inductionHypothesis before)

theorem highest?_eq_none_iff {jobs : List Job} : highest? jobs = none ↔ jobs = [] := by
  constructor
  · intro nothing
    cases jobs using List.reverseRecOn with
    | nil => rfl
    | append_singleton jobs last =>
        rw [highest?_concat] at nothing
        cases nothing
  · rintro rfl
    rfl

/-- The version of a job is not lower than that of any listed job of its name. -/
def IsHighest (listed : List Job) (job : Job) : Prop :=
  ∀ other ∈ listed, other.name = job.name → Version.order job.version other.version ≠ .lt

/-- The versions of the listed jobs of a name. -/
def versionsOf (jobs : List Job) (name : String) : Set String :=
  {version | ∃ job ∈ jobs, job.name = name ∧ job.version = version}

/-- A scan of versions that are in order ends with the highest one. -/
theorem not_lt_of_highest?
    {jobs : List Job}
    (transitive : Version.TransitiveOn Version.order {version | ∃ job ∈ jobs, job.version = version})
    {job other : Job}
    (found : highest? jobs = some job)
    (member : other ∈ jobs) :
    Version.order job.version other.version ≠ .lt := by
  induction jobs using List.reverseRecOn generalizing job other with
  | nil => cases member
  | append_singleton jobs last inductionHypothesis =>
      have inFront {job : Job} (member : job ∈ jobs) :
          ∃ listed ∈ jobs ++ [last], listed.version = job.version :=
        ⟨job, List.mem_append_left _ member, rfl⟩
      have isLast : ∃ listed ∈ jobs ++ [last], listed.version = last.version :=
        ⟨last, List.mem_append_right _ List.mem_cons_self, rfl⟩
      have earlier : Version.TransitiveOn Version.order
          {version | ∃ job ∈ jobs, job.version = version} := by
        rintro _ ⟨a, inA, rfl⟩ _ ⟨b, inB, rfl⟩ _ ⟨c, inC, rfl⟩
        exact transitive _ (inFront inA) _ (inFront inB) _ (inFront inC)
      rw [highest?_concat] at found
      obtain rfl := Option.some.inj found
      cases before : highest? jobs with
      | none =>
          obtain rfl := highest?_eq_none_iff.1 before
          obtain rfl : other = last := by simpa using member
          have same : Version.order other.version other.version = .eq :=
            Std.ReflCmp.compare_self
          rw [newer, same]
          nofun
      | some kept =>
          have inKept := mem_of_highest? before
          by_cases lower : Version.order kept.version last.version = .lt
          · -- Nothing in front is higher than what was kept, which is lower than the last one.
            rw [newer_of_lt lower]
            rcases List.mem_append.1 member with member | member
            · have notHigher := inductionHypothesis earlier before member
              have upToKept : (Version.order other.version kept.version).isLE := by
                rw [Ordering.isLE_iff_ne_gt, Std.OrientedCmp.gt_iff_lt]
                exact notHigher
              have upToLast := transitive _ (inFront member) _ (inFront inKept) _ isLast upToKept
                (by rw [lower]; rfl)
              rw [Ordering.isLE_iff_ne_gt, Std.OrientedCmp.gt_iff_lt] at upToLast
              exact upToLast
            · obtain rfl := List.mem_singleton.1 member
              have same : Version.order other.version other.version = .eq :=
                Std.ReflCmp.compare_self
              rw [same]
              nofun
          · rw [newer_of_not_lt lower]
            rcases List.mem_append.1 member with member | member
            · exact inductionHypothesis earlier before member
            · obtain rfl := List.mem_singleton.1 member
              exact lower

/-! ## The jobs of all names -/

/-- The jobs of one name are scanned as if there were no others. -/
theorem get?_foldl_newer
    (jobs : List Job)
    (byName : OrderedMap String Job)
    (name : String) :
    (jobs.foldl (fun byName job => byName.update job.name (newer · job)) byName).get? name =
      (jobs.filter fun job => job.name = name).foldl (fun kept job => some (newer kept job))
        (byName.get? name) := by
  induction jobs generalizing byName with
  | nil => rfl
  | cons job jobs inductionHypothesis =>
      rw [List.foldl_cons, inductionHypothesis, OrderedMap.get?_update, List.filter_cons]
      by_cases named : job.name = name
      · simp [named]
      · have other : compare job.name name ≠ .eq := fun equal =>
          named (Std.compare_eq_iff_eq.1 equal)
        simp [named, other]

/-- Of each name the job is kept that a scan of its jobs ends with. -/
theorem filter_name_latest (jobs : List Job) (name : String) :
    ((latest jobs).filter fun job => job.name = name) =
      (highest? (jobs.filter fun job => job.name = name)).toList := by
  rw [latest]
  generalize scanned : jobs.foldl (fun (byName : OrderedMap String Job) job =>
    byName.update job.name (newer · job)) .empty = byName
  have value (key : String) :
      byName.get? key = highest? (jobs.filter fun job => job.name = key) := by
    rw [← scanned, get?_foldl_newer]
    rfl
  have sameName : ∀ entry ∈ byName.toList, entry.2.name = entry.1 := by
    intro entry member
    have found := OrderedMap.get?_of_mem member
    rw [value] at found
    simpa using (List.mem_filter.1 (mem_of_highest? found)).2
  have sameTest : byName.toList.filter ((fun job : Job => decide (job.name = name)) ∘ Prod.snd) =
      byName.toList.filter fun entry => compare entry.1 name == .eq := by
    apply List.filter_congr
    intro entry member
    rw [Function.comp_apply, sameName entry member]
    by_cases equal : entry.1 = name <;> simp [equal]
  rw [List.filter_map, sameTest, OrderedMap.map_snd_filter_eq_valueIn byName.sorted,
    ← OrderedMap.get?_eq_valueIn, value]

theorem filter_name_sorted_latest (jobs : List Job) (name : String) :
    ((sorted (latest jobs)).filter fun job => job.name = name) =
      (highest? (jobs.filter fun job => job.name = name)).toList := by
  have same := (List.mergeSort_perm (latest jobs) fun a b => (compare a b).isLE).filter
    fun job => decide (job.name = name)
  rw [filter_name_latest] at same
  cases found : highest? (jobs.filter fun job => job.name = name) with
  | none =>
      rw [found] at same
      exact List.perm_nil.1 same
  | some job =>
      rw [found] at same
      exact List.perm_singleton.1 same

/-! ## Selections -/

/-- The matching jobs of a name are all jobs of it, or there are none. -/
theorem filter_name_matching
    (regex : Regex)
    (listed : List Job)
    (name : String) :
    ((listed.filter fun job => regex.occursIn job.name).filter fun job => job.name = name) =
      if regex.occursIn name then listed.filter fun job => job.name = name else [] := by
  rw [List.filter_filter]
  split
  next occurs =>
    apply List.filter_congr
    intro job _
    by_cases named : job.name = name <;> simp [named, occurs]
  next absent =>
    rw [List.filter_eq_nil_iff]
    rintro job _ both
    simp only [Bool.and_eq_true, decide_eq_true_eq] at both
    exact absent (both.1 ▸ both.2)

section

variable {pattern : String}
variable {regex : Regex}

/-- What a selection of the latest jobs keeps of each name. -/
theorem exists_kept
    (parses : Regex.parse (anchored pattern) = .ok regex)
    (listed : List Job) :
    ∃ kept, select pattern true listed = .ok kept ∧
      ∀ name, (kept.filter fun job => job.name = name) =
        if regex.occursIn name then (highest? (listed.filter fun job => job.name = name)).toList
        else [] := by
  rw [select, parses]
  refine ⟨_, rfl, fun name => ?_⟩
  rw [if_pos rfl, filter_name_sorted_latest, filter_name_matching]
  split <;> rfl

theorem mem_kept_iff
    (parses : Regex.parse (anchored pattern) = .ok regex)
    {listed kept : List Job}
    (selects : select pattern true listed = .ok kept)
    (job : Job) :
    job ∈ kept ↔ regex.occursIn job.name ∧
      highest? (listed.filter fun other => other.name = job.name) = some job := by
  obtain ⟨kept', selects', ofName⟩ := exists_kept parses listed
  obtain rfl := Except.ok.inj (selects.symm.trans selects')
  have named : job ∈ kept ↔ job ∈ kept.filter fun other => other.name = job.name := by
    simp [List.mem_filter]
  rw [named, ofName]
  split
  next occurs => simp [occurs, Option.mem_toList, eq_comm]
  next absent => simp [absent]

/-- Of listed jobs that share a name the one is kept that a scan of them ends with. -/
theorem select_eq_singleton
    (parses : Regex.parse (anchored pattern) = .ok regex)
    {listed : List Job}
    {name : String}
    (occurs : regex.occursIn name = true)
    (share : ∀ job ∈ listed, job.name = name)
    {job : Job}
    (found : highest? listed = some job) :
    select pattern true listed = .ok [job] := by
  obtain ⟨kept, selects, ofName⟩ := exists_kept parses listed
  have allListed : (listed.filter fun other => other.name = name) = listed := by
    rw [List.filter_eq_self]
    intro other member
    simp [share other member]
  have allKept : (kept.filter fun other => other.name = name) = kept := by
    rw [List.filter_eq_self]
    intro other member
    have scanned := ((mem_kept_iff parses selects other).1 member).2
    have inListed := (List.mem_filter.1 (mem_of_highest? scanned)).1
    simp [share other inListed]
  have one := ofName name
  rw [allKept, if_pos occurs, allListed, found] at one
  rw [selects, one]
  rfl

/-- A selection that keeps the highest of any listed jobs needs versions that are in order: jobs whose
versions go round can be listed so that a lower one is kept. -/
theorem transitiveOn_of_isHighest
    (parses : Regex.parse (anchored pattern) = .ok regex)
    {jobs : List Job}
    (highest : ∀ listed ⊆ jobs, ∀ kept, select pattern true listed = .ok kept →
      ∀ job ∈ kept, IsHighest listed job)
    {name : String}
    (occurs : regex.occursIn name = true) :
    Version.TransitiveOn Version.order (versionsOf jobs name) := by
  -- What a scan of listed jobs of the name ends with is not lower than any of them.
  have scanned {listed : List Job} (within : listed ⊆ jobs) (share : ∀ job ∈ listed, job.name = name)
      {job : Job} (found : highest? listed = some job) {other : Job} (member : other ∈ listed) :
      Version.order job.version other.version ≠ .lt := by
    have selects := select_eq_singleton parses occurs share found
    have sameName : other.name = job.name := by
      rw [share other member, share job (mem_of_highest? found)]
    exact highest listed within [job] selects job List.mem_cons_self other member sameName
  rintro _ ⟨a, inA, nameA, rfl⟩ _ ⟨b, inB, nameB, rfl⟩ _ ⟨c, inC, nameC, rfl⟩ first second
  rw [Ordering.isLE_iff_ne_gt, Std.OrientedCmp.gt_iff_lt] at first second ⊢
  intro round
  have within {x y z : Job} (inX : x ∈ jobs) (inY : y ∈ jobs) (inZ : z ∈ jobs) :
      [x, y, z] ⊆ jobs := by
    simp [inX, inY, inZ]
  have share {x y z : Job} (nameX : x.name = name) (nameY : y.name = name)
      (nameZ : z.name = name) : ∀ job ∈ [x, y, z], job.name = name := by
    simp [nameX, nameY, nameZ]
  by_cases less : Version.order b.version c.version = .lt
  · -- Listed as `b, a, c`, the scan ends with `c`, which is lower than `a`.
    have found : highest? [b, a, c] = some c := by
      rw [highest?_cons_cons_of_not_lt first, highest?_cons_cons_of_lt less]
      rfl
    exact scanned (within inB inA inC) (share nameB nameA nameC) found (by simp) round
  · have equal : Version.order b.version c.version = .eq := by
      cases order : Version.order b.version c.version with
      | lt => exact absurd order less
      | eq => rfl
      | gt => exact absurd (Std.OrientedCmp.gt_iff_lt.1 order) second
    have lessFirst : Version.order a.version b.version = .lt := by
      cases order : Version.order a.version b.version with
      | lt => rfl
      | eq =>
          have same := Std.OrientedCmp.eq_symm (Version.order_eq_trans order equal)
          rw [same] at round
          cases round
      | gt => exact absurd (Std.OrientedCmp.gt_iff_lt.1 order) first
    -- Listed as `c, b, a`, the scan ends with `a`, which is lower than `b`.
    have found : highest? [c, b, a] = some a := by
      rw [highest?_cons_cons_of_not_lt second, highest?_cons_cons_of_lt round]
      rfl
    exact scanned (within inC inB inA) (share nameC nameB nameA) found (by simp) lessFirst

/-- **Of each selected name one job is kept, and it is the highest if versions are in order.** Two
versions compare the other way round in reverse. A selection of the latest jobs keeps, of each name
that the pattern matches, exactly one of the listed jobs. It keeps the highest of them, whichever of
some jobs are listed and in whatever order, exactly if the order is transitive on the versions of
each name among these jobs. -/
theorem select_keeps_highest_iff_transitive
    (parses : Regex.parse (anchored pattern) = .ok regex) :
    (∀ a b, Version.order b a = (Version.order a b).swap) ∧
      (∀ listed : List Job, ∃ kept, select pattern true listed = .ok kept ∧
        (∀ job ∈ kept, job ∈ listed ∧ regex.occursIn job.name) ∧
        ∀ job ∈ listed, regex.occursIn job.name →
          ∃ one, (kept.filter fun other => other.name = job.name) = [one]) ∧
      ∀ jobs : List Job,
        (∀ listed ⊆ jobs, ∀ kept, select pattern true listed = .ok kept →
          ∀ job ∈ kept, IsHighest listed job) ↔
        ∀ name, regex.occursIn name → Version.TransitiveOn Version.order (versionsOf jobs name) := by
  refine ⟨fun a b => Std.OrientedCmp.eq_swap, fun listed => ?_, fun jobs => ⟨?_, ?_⟩⟩
  · obtain ⟨kept, selects, ofName⟩ := exists_kept parses listed
    refine ⟨kept, selects, fun job member => ?_, fun job member occurs => ?_⟩
    · obtain ⟨occurs, found⟩ := (mem_kept_iff parses selects job).1 member
      exact ⟨(List.mem_filter.1 (mem_of_highest? found)).1, occurs⟩
    · rw [ofName, if_pos occurs]
      cases found : highest? (listed.filter fun other => other.name = job.name) with
      | some one => exact ⟨one, rfl⟩
      | none =>
          have noJobs := highest?_eq_none_iff.1 found
          rw [List.filter_eq_nil_iff] at noJobs
          exact absurd (by simp) (noJobs job member)
  · intro highest name occurs
    exact transitiveOn_of_isHighest parses highest occurs
  · intro transitive listed within kept selects job member other inListed sameName
    obtain ⟨occurs, found⟩ := (mem_kept_iff parses selects job).1 member
    refine not_lt_of_highest? ?_ found (List.mem_filter.2 ⟨inListed, by simpa using sameName⟩)
    have listedVersion {version : String} (ofListed : ∃ other ∈ listed.filter
        fun other => other.name = job.name, other.version = version) :
        version ∈ versionsOf jobs job.name := by
      obtain ⟨other, inFilter, isVersion⟩ := ofListed
      obtain ⟨inListed, named⟩ := List.mem_filter.1 inFilter
      exact ⟨other, within inListed, by simpa using named, isVersion⟩
    intro a inA b inB c inC
    exact transitive job.name occurs a (listedVersion inA) b (listedVersion inB) c
      (listedVersion inC)

end

/-- A job of some version. -/
def loadJob (version : String) : Job :=
  ⟨"load", version, ⟨"jobs/load_" ++ version ++ ".item.yaml"⟩⟩

theorem exists_regex_of_load :
    ∃ regex, Regex.parse (anchored ".*") = .ok regex ∧ regex.occursIn "load" = true := by
  have occurs : (match Regex.parse (anchored ".*") with
    | .ok regex => regex.occursIn "load"
    | .error _ => false) = true := by decide +kernel
  cases parsed : Regex.parse (anchored ".*") with
  | ok regex => exact ⟨regex, rfl, by simpa [parsed] using occurs⟩
  | error fault => simp [parsed] at occurs

/-- Of the versions 0.10, 1.0 and 0.9 one is kept, and it is the highest. -/
theorem select_keeps_highest_of_numbered_jobs :
    ∃ kept one, select ".*" true [loadJob "0.10", loadJob "1.0", loadJob "0.9"] = .ok kept ∧
      (kept.filter fun job => job.name = "load") = [one] ∧
      ∀ job ∈ kept, IsHighest [loadJob "0.10", loadJob "1.0", loadJob "0.9"] job := by
  obtain ⟨regex, parses, occurs⟩ := exists_regex_of_load
  obtain ⟨-, keepsOne, keepsHighest⟩ := select_keeps_highest_iff_transitive parses
  obtain ⟨kept, selects, -, ofName⟩ := keepsOne [loadJob "0.10", loadJob "1.0", loadJob "0.9"]
  obtain ⟨one, isOne⟩ := ofName (loadJob "1.0") (by simp) occurs
  refine ⟨kept, one, selects, isOne, (keepsHighest _).2 ?_ _ (List.Subset.refl _) kept selects⟩
  intro name _
  apply Version.Uniform.transitiveOn
  apply Version.uniform_of_numbers
  rintro _ ⟨job, member, -, rfl⟩
  have numbers : ∀ job ∈ [loadJob "0.10", loadJob "1.0", loadJob "0.9"],
      ∀ part ∈ Version.parts job.version, Version.IsNumber part := by decide +kernel
  exact numbers job member

/-- The order of versions goes round: 9 is lower than 10, which is lower than 10b as a text, and this
is lower than 9. So a lower version is kept if the jobs are listed in one order, and the highest in
another. -/
theorem lower_version_kept :
    Version.order "9" "10" = .lt ∧ Version.order "10" "10b" = .lt ∧
      Version.order "10b" "9" = .lt ∧
      Version.order "0a" "1" = .lt ∧ Version.order "01" "1" = .eq ∧
      select ".*" true [loadJob "01", loadJob "1", loadJob "0a"] = .ok [loadJob "0a"] ∧
      select ".*" true [loadJob "1", loadJob "01", loadJob "0a"] = .ok [loadJob "1"] := by
  obtain ⟨regex, parses, occurs⟩ := exists_regex_of_load
  have order {a b : String} {result : Ordering}
      (single : Version.parts a = [a] ∧ Version.parts b = [b] ∧ Version.comparePart a b = result) :
      Version.order a b = result :=
    (Version.order_of_single single.1 single.2.1).trans single.2.2
  have lower : Version.order "0a" "1" = .lt := order (by decide +kernel)
  have higher : Version.order "01" "0a" = .lt := order (by decide +kernel)
  have same : Version.order "01" "1" = .eq := order (by decide +kernel)
  have notLower : Version.order "1" "0a" = .gt := order (by decide +kernel)
  refine ⟨order (by decide +kernel), order (by decide +kernel), order (by decide +kernel), lower,
    same, ?_, ?_⟩
  · apply select_eq_singleton parses occurs (by decide +kernel)
    rw [highest?_cons_cons_of_not_lt, highest?_cons_cons_of_lt higher]
    · rfl
    · rw [loadJob, loadJob, same]
      nofun
  · apply select_eq_singleton parses occurs (by decide +kernel)
    rw [highest?_cons_cons_of_not_lt, highest?_cons_cons_of_not_lt]
    · rfl
    · rw [loadJob, loadJob, notLower]
      nofun
    · rw [loadJob, loadJob, Std.OrientedCmp.eq_symm same]
      nofun

end JobSelection
end SqlLineage
