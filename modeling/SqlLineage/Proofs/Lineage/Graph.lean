import Mathlib.Data.List.Sort
import Mathlib.Data.Set.Card
import Mathlib.Data.String.Basic
import SqlLineage.Graph
import SqlLineage.Proofs.Lineage.Accumulation

/-!
# The graph of a result

A graph of lineage grows edge by edge, and an edge between two nodes that have one already is left
out. The edges of a result lose nothing by this: their ends tell them apart, since an edge from a
table reads, an edge to a table writes and an edge to a function calls. So the nodes and edges of
the graph are counted by what the result lists, each name and each pair of names once.
-/

namespace SqlLineage

/-! ## What a result lists -/

namespace LineageResult

/-- A map lists a name under a job that is shown as `display`. -/
def Lists
    (map : OrderedMap Job (UniqueList String))
    (display name : String) : Prop :=
  ∃ job : Job, job.display = display ∧ name ∈ members map job

/-- The pairs of a display and a name that a map lists under it. -/
def listed (map : OrderedMap Job (UniqueList String)) : Set (String × String) :=
  {pair | Lists map pair.1 pair.2}

/-- What a result says of a node: a table is read or written, a job is shown so, and a function is
called. -/
def Names (result : LineageResult) : LineageNode → Prop
  | .table name =>
      ∃ display, Lists result.inputTables display name ∨ Lists result.outputTables display name
  | .job name => ∃ job ∈ result.jobs, job.display = name
  | .function name => ∃ display, Lists result.functions display name

/-- Jobs that compare as equal are shown alike. -/
theorem display_eq_of_compare_eq
    {job other : Job}
    (equal : compare job other = .eq) :
    job.display = other.display := by
  obtain ⟨sameName, rest⟩ := compareLex_eq_eq.1 equal
  obtain ⟨sameVersion, _⟩ := compareLex_eq_eq.1 rest
  have names : job.name = other.name := Std.compare_eq_iff_eq.1 sameName
  have versions : job.version = other.version := Std.compare_eq_iff_eq.1 sameVersion
  rw [Job.display, Job.display, names, versions]

/-- The entries of a map are what it lists. -/
theorem lists_iff_exists_entry
    {map : OrderedMap Job (UniqueList String)}
    {display name : String} :
    Lists map display name ↔
      ∃ entry ∈ map.toList, entry.1.display = display ∧ name ∈ entry.2.toList := by
  simp only [Lists, mem_members_iff]
  constructor
  · rintro ⟨job, shown, list, found, member⟩
    obtain ⟨entry, present, equal, rfl⟩ := OrderedMap.exists_mem_of_get?_eq_some found
    exact ⟨entry, present, (display_eq_of_compare_eq equal).trans shown, member⟩
  · rintro ⟨entry, present, shown, member⟩
    exact ⟨entry.1, shown, entry.2, OrderedMap.get?_of_mem present, member⟩

/-- The jobs of a result are shown as the displays under which a map lists anything. -/
theorem names_job_iff (merges : List (Job × JobLineage)) (display : String) :
    (ofMerges merges).Names (.job display) ↔
      ∃ name, Lists (ofMerges merges).inputTables display name ∨
        Lists (ofMerges merges).outputTables display name ∨
        Lists (ofMerges merges).functions display name := by
  -- An entry has a member, so that a job with an entry is listed with some name.
  have listedOf (map : LineageResult → OrderedMap Job (UniqueList String)) (job : Job)
      (lists : List (UniqueList String))
      (united : IsUnion ((map (ofMerges merges)).get? job) lists) :
      ((map (ofMerges merges)).get? job).isSome ↔
        ∃ name, name ∈ members (map (ofMerges merges)) job := by
    simp only [mem_members_iff, Option.isSome_iff_exists]
    constructor
    · rintro ⟨list, found⟩
      obtain ⟨name, member⟩ := List.exists_mem_of_ne_nil _ (united.ne_nil found)
      exact ⟨name, list, found, member⟩
    · rintro ⟨_, list, found, _⟩
      exact ⟨list, found⟩
  have inputs (job : Job) := listedOf (·.inputTables) job _
    (isUnion_get? (·.inputTables) (·.inputs) rfl (fun _ _ _ => rfl) merges job)
  have outputs (job : Job) := listedOf (·.outputTables) job _
    (isUnion_get? (·.outputTables) (·.outputs) rfl (fun _ _ _ => rfl) merges job)
  have functions (job : Job) := listedOf (·.functions) job _
    (isUnion_get? (·.functions) (·.functions) rfl (fun _ _ _ => rfl) merges job)
  have named (job : Job) := exists_mem_jobs_iff (ofMerges merges) job
  simp only [inputs, outputs, functions] at named
  constructor
  · rintro ⟨job, inJobs, rfl⟩
    rcases (named job).1 ⟨job, inJobs, Std.ReflOrd.compare_self⟩ with
      ⟨name, member⟩ | ⟨name, member⟩ | ⟨name, member⟩
    · exact ⟨name, .inl ⟨job, rfl, member⟩⟩
    · exact ⟨name, .inr (.inl ⟨job, rfl, member⟩)⟩
    · exact ⟨name, .inr (.inr ⟨job, rfl, member⟩)⟩
  · rintro ⟨name, ⟨job, rfl, member⟩ | ⟨job, rfl, member⟩ | ⟨job, rfl, member⟩⟩
    · obtain ⟨other, inJobs, equal⟩ := (named job).2 (.inl ⟨name, member⟩)
      exact ⟨other, inJobs, display_eq_of_compare_eq equal⟩
    · obtain ⟨other, inJobs, equal⟩ := (named job).2 (.inr (.inl ⟨name, member⟩))
      exact ⟨other, inJobs, display_eq_of_compare_eq equal⟩
    · obtain ⟨other, inJobs, equal⟩ := (named job).2 (.inr (.inr ⟨name, member⟩))
      exact ⟨other, inJobs, display_eq_of_compare_eq equal⟩

end LineageResult

namespace LineageGraph

open LineageResult (Lists listed)

/-! ## Growth by edges -/

/-- Adding edges adds their ends. -/
theorem nodes_foldl_addArrow (arrows : List LineageArrow) (graph : LineageGraph) :
    (arrows.foldl addArrow graph).nodes =
      graph.nodes.extend (arrows.flatMap fun arrow => [arrow.source, arrow.target]) := by
  induction arrows generalizing graph with
  | nil => rfl
  | cons arrow arrows inductionHypothesis =>
      rw [List.foldl_cons, inductionHypothesis, List.flatMap_cons, UniqueList.extend_append]
      rfl

/-- No two edges have the same ends. -/
def EndsTellApart (arrows : List LineageArrow) : Prop :=
  ∀ arrow ∈ arrows, ∀ other ∈ arrows,
    arrow.source = other.source → arrow.target = other.target → arrow = other

/-- An edge is left out only if it is there already. -/
theorem arrows_addArrow
    {graph : LineageGraph}
    {list : UniqueList LineageArrow}
    (same : graph.arrows = list.toList)
    {arrow : LineageArrow}
    (toldApart : ∀ other ∈ list.toList,
      other.source = arrow.source → other.target = arrow.target → other = arrow) :
    (graph.addArrow arrow).arrows = (list.insert arrow).toList := by
  have present_iff : (graph.arrows.any fun other =>
      other.source == arrow.source && other.target == arrow.target) = true ↔
        arrow ∈ list.toList := by
    simp only [same, List.any_eq_true, Bool.and_eq_true, beq_iff_eq]
    constructor
    · rintro ⟨other, member, sources, targets⟩
      exact toldApart other member sources targets ▸ member
    · intro member
      exact ⟨arrow, member, rfl, rfl⟩
  rw [UniqueList.toList_insert, addArrow]
  by_cases member : arrow ∈ list.toList
  · rw [if_pos (present_iff.2 member), if_pos member, same, List.append_nil]
  · rw [if_neg (mt present_iff.1 member), if_neg member, same]

/-- Edges that their ends tell apart are all kept, each once. -/
theorem arrows_foldl_addArrow
    {arrows : List LineageArrow}
    (toldApart : EndsTellApart arrows) :
    (arrows.foldl addArrow empty).arrows = (UniqueList.ofList arrows).toList := by
  induction arrows using List.reverseRecOn with
  | nil => rfl
  | append_singleton arrows arrow inductionHypothesis =>
      have kept := inductionHypothesis fun first inFront second inFront' =>
        toldApart first (List.mem_append_left _ inFront) second (List.mem_append_left _ inFront')
      rw [List.foldl_append, List.foldl_cons, List.foldl_nil, UniqueList.ofList,
        UniqueList.extend_append, UniqueList.extend_cons, UniqueList.extend_nil]
      refine arrows_addArrow kept fun other member => ?_
      have inFront : other ∈ arrows := by
        simpa [UniqueList.toList_ofList] using member
      exact toldApart other (List.mem_append_left _ inFront) arrow
        (List.mem_append_right _ (List.mem_singleton_self arrow))

/-! ## The edges of a result -/

/-- The edge that says that a job, shown as the first of a pair, reads a table. -/
def readArrow (pair : String × String) : LineageArrow :=
  ⟨.table pair.2, .job pair.1, .reads⟩

/-- The edge that says that a job, shown as the first of a pair, writes a table. -/
def writeArrow (pair : String × String) : LineageArrow :=
  ⟨.job pair.1, .table pair.2, .writes⟩

/-- The edge that says that a job, shown as the first of a pair, calls a function. -/
def callArrow (pair : String × String) : LineageArrow :=
  ⟨.job pair.1, .function pair.2, .calls⟩

theorem readArrow_injective : Function.Injective readArrow := by
  rintro ⟨display, table⟩ ⟨otherDisplay, otherTable⟩ same
  simpa [readArrow, and_comm] using same

theorem writeArrow_injective : Function.Injective writeArrow := by
  rintro ⟨display, table⟩ ⟨otherDisplay, otherTable⟩ same
  simpa [writeArrow] using same

theorem callArrow_injective : Function.Injective callArrow := by
  rintro ⟨display, function⟩ ⟨otherDisplay, otherFunction⟩ same
  simpa [callArrow] using same

/-- The edges that a map gives are those of the pairs that it lists. -/
theorem mem_flatMap_entries_iff
    (map : OrderedMap Job (UniqueList String))
    (make : String × String → LineageArrow)
    (arrow : LineageArrow) :
    (arrow ∈ map.toList.flatMap fun (job, names) =>
        names.toList.map fun name => make (job.display, name)) ↔
      arrow ∈ make '' listed map := by
  simp only [List.mem_flatMap, List.mem_map, Set.mem_image, Prod.exists, listed, Set.mem_ofPred_eq,
    LineageResult.lists_iff_exists_entry]
  constructor
  · rintro ⟨job, names, present, name, member, rfl⟩
    exact ⟨job.display, name, ⟨job, names, present, rfl, member⟩, rfl⟩
  · rintro ⟨_, name, ⟨job, names, present, rfl, member⟩, rfl⟩
    exact ⟨job, names, present, name, member, rfl⟩

theorem mem_arrowsOf_iff
    (result : LineageResult)
    (arrow : LineageArrow) :
    arrow ∈ arrowsOf result ↔
      arrow ∈ readArrow '' listed result.inputTables ∨
        arrow ∈ writeArrow '' listed result.outputTables ∨
        arrow ∈ callArrow '' listed result.functions := by
  rw [← mem_flatMap_entries_iff, ← mem_flatMap_entries_iff, ← mem_flatMap_entries_iff, arrowsOf,
    List.mem_append, List.mem_append, or_assoc]
  rfl

/-- The kinds of the ends say the kind of the edge. -/
theorem endsTellApart_arrowsOf (result : LineageResult) : EndsTellApart (arrowsOf result) := by
  intro arrow member other otherMember sources targets
  rw [mem_arrowsOf_iff] at member otherMember
  rcases member with ⟨pair, _, rfl⟩ | ⟨pair, _, rfl⟩ | ⟨pair, _, rfl⟩ <;>
    rcases otherMember with ⟨another, _, rfl⟩ | ⟨another, _, rfl⟩ | ⟨another, _, rfl⟩ <;>
    simp_all [readArrow, writeArrow, callArrow]

theorem arrows_ofResult (result : LineageResult) :
    (ofResult result).arrows = (UniqueList.ofList (arrowsOf result)).toList :=
  arrows_foldl_addArrow (endsTellApart_arrowsOf result)

theorem nodup_arrows_ofResult (result : LineageResult) : (ofResult result).arrows.Nodup := by
  rw [arrows_ofResult]
  exact (UniqueList.ofList (arrowsOf result)).nodup

theorem mem_arrows_ofResult_iff
    (result : LineageResult)
    (arrow : LineageArrow) :
    arrow ∈ (ofResult result).arrows ↔
      arrow ∈ readArrow '' listed result.inputTables ∨
        arrow ∈ writeArrow '' listed result.outputTables ∨
        arrow ∈ callArrow '' listed result.functions := by
  rw [arrows_ofResult, UniqueList.toList_ofList, List.mem_eraseDups, mem_arrowsOf_iff]

/-! ## The nodes of a result -/

/-- The nodes are the ends of the edges. -/
theorem mem_nodes_ofResult_iff
    (result : LineageResult)
    (node : LineageNode) :
    node ∈ (ofResult result).nodes.toList ↔
      ∃ arrow ∈ arrowsOf result, node = arrow.source ∨ node = arrow.target := by
  rw [ofResult, nodes_foldl_addArrow, UniqueList.mem_extend]
  simp [empty, List.mem_flatMap]

theorem mem_nodes_ofMerges_iff
    (merges : List (Job × JobLineage))
    (node : LineageNode) :
    node ∈ (ofResult (.ofMerges merges)).nodes.toList ↔
      (LineageResult.ofMerges merges).Names node := by
  rw [mem_nodes_ofResult_iff]
  simp only [mem_arrowsOf_iff, or_and_right, exists_or, Set.exists_mem_image, Prod.exists, listed,
    Set.mem_ofPred_eq, readArrow, writeArrow, callArrow]
  cases node with
  | table name => simp [LineageResult.Names, exists_or]
  | job name => simp [LineageResult.names_job_iff, exists_or]
  | function name => simp [LineageResult.Names]

/-! ## Counting -/

/-- The members of a list that come from three sets, without overlap, are as many as those of the
sets. -/
theorem length_eq_ncard_add
    {α β γ δ : Type}
    {list : List δ}
    (nodup : list.Nodup)
    {f : α → δ}
    {g : β → δ}
    {h : γ → δ}
    (injective : f.Injective ∧ g.Injective ∧ h.Injective)
    (apart : (∀ a b, f a ≠ g b) ∧ (∀ a c, f a ≠ h c) ∧ ∀ b c, g b ≠ h c)
    {s : Set α}
    {t : Set β}
    {u : Set γ}
    (mem_iff : ∀ value, value ∈ list ↔ value ∈ f '' s ∨ value ∈ g '' t ∨ value ∈ h '' u) :
    list.length = s.ncard + t.ncard + u.ncard := by
  classical
  have members : (list.toFinset : Set δ) = f '' s ∪ (g '' t ∪ h '' u) := by
    ext value
    simpa using mem_iff value
  have finite : (f '' s ∪ (g '' t ∪ h '' u)).Finite := by
    rw [← members]
    exact list.toFinset.finite_toSet
  obtain ⟨firstFinite, restFinite⟩ := Set.finite_union.1 finite
  obtain ⟨secondFinite, thirdFinite⟩ := Set.finite_union.1 restFinite
  have rest : Disjoint (g '' t) (h '' u) := by
    rw [Set.disjoint_left]
    rintro _ ⟨b, _, rfl⟩ ⟨c, _, same⟩
    exact apart.2.2 b c same.symm
  have first : Disjoint (f '' s) (g '' t ∪ h '' u) := by
    rw [Set.disjoint_left]
    rintro _ ⟨a, _, rfl⟩ (⟨b, _, same⟩ | ⟨c, _, same⟩)
    · exact apart.1 a b same.symm
    · exact apart.2.1 a c same.symm
  calc list.length
      = list.toFinset.card := (List.toFinset_card_of_nodup nodup).symm
    _ = (f '' s ∪ (g '' t ∪ h '' u)).ncard := by rw [← members, Set.ncard_coe_finset]
    _ = (f '' s).ncard + ((g '' t).ncard + (h '' u).ncard) := by
        rw [Set.ncard_union_eq first firstFinite restFinite,
          Set.ncard_union_eq rest secondFinite thirdFinite]
    _ = s.ncard + t.ncard + u.ncard := by
        rw [Set.ncard_image_of_injective _ injective.1, Set.ncard_image_of_injective _ injective.2.1,
          Set.ncard_image_of_injective _ injective.2.2, add_assoc]

theorem length_arrows_ofResult (result : LineageResult) :
    (ofResult result).arrows.length =
      (listed result.inputTables).ncard + (listed result.outputTables).ncard +
        (listed result.functions).ncard := by
  refine length_eq_ncard_add (nodup_arrows_ofResult result)
    ⟨readArrow_injective, writeArrow_injective, callArrow_injective⟩ ?_
    (mem_arrows_ofResult_iff result)
  simp [readArrow, writeArrow, callArrow]

theorem length_nodes_ofMerges (merges : List (Job × JobLineage)) :
    (ofResult (.ofMerges merges)).nodes.length =
      {name | (LineageResult.ofMerges merges).Names (.table name)}.ncard +
        {name | (LineageResult.ofMerges merges).Names (.job name)}.ncard +
        {name | (LineageResult.ofMerges merges).Names (.function name)}.ncard := by
  refine length_eq_ncard_add (ofResult (.ofMerges merges)).nodes.nodup
    ⟨fun _ _ same => LineageNode.table.inj same, fun _ _ same => LineageNode.job.inj same,
      fun _ _ same => LineageNode.function.inj same⟩ (by simp) fun node => ?_
  rw [mem_nodes_ofMerges_iff]
  cases node <;> simp

/-! ## Neighbours -/

/-- The names at the other ends of edges that are told apart by them come in increasing order. -/
theorem mergeSort_names
    {arrows : List LineageArrow}
    (nodup : arrows.Nodup)
    {make : String → LineageArrow}
    {name : LineageArrow → String}
    (name_make : ∀ display, name (make display) = display)
    {counts : String → Prop}
    (mem_iff : ∀ arrow, arrow ∈ arrows ↔ ∃ display, counts display ∧ arrow = make display) :
    (arrows.map name).mergeSort.Pairwise (· < ·) ∧
      ∀ display, display ∈ (arrows.map name).mergeSort ↔ counts display := by
  constructor
  · have sorted : (arrows.map name).mergeSort.Pairwise (· ≤ ·) :=
      List.pairwise_mergeSort' (· ≤ ·) (arrows.map name)
    have distinct : (arrows.map name).mergeSort.Nodup := by
      rw [(List.mergeSort_perm (arrows.map name) _).nodup_iff]
      refine nodup.map_on fun arrow member other otherMember same => ?_
      obtain ⟨display, _, rfl⟩ := (mem_iff arrow).1 member
      obtain ⟨another, _, rfl⟩ := (mem_iff other).1 otherMember
      rw [name_make, name_make] at same
      rw [same]
    exact (sorted.and distinct).imp fun le_ne => lt_of_le_of_ne le_ne.1 le_ne.2
  · intro display
    rw [List.mem_mergeSort, List.mem_map]
    constructor
    · rintro ⟨arrow, member, rfl⟩
      obtain ⟨found, counted, rfl⟩ := (mem_iff arrow).1 member
      rwa [name_make]
    · intro counted
      exact ⟨make display, (mem_iff _).2 ⟨display, counted, rfl⟩, name_make display⟩

/-- The edges that start at a table are those of its readers. -/
theorem mem_filter_source_iff
    (result : LineageResult)
    (table : String)
    (arrow : LineageArrow) :
    arrow ∈ ((ofResult result).arrows.filter fun arrow => arrow.source == .table table) ↔
      ∃ display, Lists result.inputTables display table ∧ arrow = readArrow (display, table) := by
  simp only [List.mem_filter, mem_arrows_ofResult_iff, beq_iff_eq]
  constructor
  · rintro ⟨⟨pair, inMap, rfl⟩ | ⟨pair, _, rfl⟩ | ⟨pair, _, rfl⟩, source⟩
    · obtain rfl := LineageNode.table.inj source
      exact ⟨pair.1, inMap, rfl⟩
    · cases source
    · cases source
  · rintro ⟨display, inMap, rfl⟩
    exact ⟨.inl ⟨(display, table), inMap, rfl⟩, rfl⟩

/-- The edges that end at a table are those of its writers. -/
theorem mem_filter_target_iff
    (result : LineageResult)
    (table : String)
    (arrow : LineageArrow) :
    arrow ∈ ((ofResult result).arrows.filter fun arrow => arrow.target == .table table) ↔
      ∃ display, Lists result.outputTables display table ∧ arrow = writeArrow (display, table) := by
  simp only [List.mem_filter, mem_arrows_ofResult_iff, beq_iff_eq]
  constructor
  · rintro ⟨⟨pair, _, rfl⟩ | ⟨pair, inMap, rfl⟩ | ⟨pair, _, rfl⟩, target⟩
    · cases target
    · obtain rfl := LineageNode.table.inj target
      exact ⟨pair.1, inMap, rfl⟩
    · cases target
  · rintro ⟨display, inMap, rfl⟩
    exact ⟨.inr (.inl ⟨(display, table), inMap, rfl⟩), rfl⟩

/-- The readers of a table are the displays under which it is listed as an input. -/
theorem readersOf_ofResult (result : LineageResult) (table : String) :
    ((ofResult result).readersOf table).Pairwise (· < ·) ∧
      ∀ display, display ∈ (ofResult result).readersOf table ↔
        Lists result.inputTables display table :=
  mergeSort_names ((nodup_arrows_ofResult result).filter _) (fun _ => rfl)
    (mem_filter_source_iff result table)

/-- The writers of a table are the displays under which it is listed as an output. -/
theorem writersOf_ofResult (result : LineageResult) (table : String) :
    ((ofResult result).writersOf table).Pairwise (· < ·) ∧
      ∀ display, display ∈ (ofResult result).writersOf table ↔
        Lists result.outputTables display table :=
  mergeSort_names ((nodup_arrows_ofResult result).filter _) (fun _ => rfl)
    (mem_filter_target_iff result table)

/-- **The graph of a result says what the result says.** The readers and the writers of a table are
the displays of the jobs that list it, in strictly increasing order. There is a node for each table
that is read or written, for each display of a job and for each function that is called, and an edge
for each pair of a display and a name that a map lists. None of these falls together with another,
so that nodes and edges are as many as these names and pairs. -/
theorem graph_says_result (merges : List (Job × JobLineage)) :
    let result := LineageResult.ofMerges merges
    let graph := ofResult result
    (∀ table,
      (graph.readersOf table).Pairwise (· < ·) ∧
        (∀ display, display ∈ graph.readersOf table ↔ Lists result.inputTables display table) ∧
        (graph.writersOf table).Pairwise (· < ·) ∧
        ∀ display, display ∈ graph.writersOf table ↔ Lists result.outputTables display table) ∧
      (∀ node, node ∈ graph.nodes.toList ↔ result.Names node) ∧
      graph.nodes.length =
        {name | result.Names (.table name)}.ncard + {name | result.Names (.job name)}.ncard +
          {name | result.Names (.function name)}.ncard ∧
      (∀ display name,
        (readArrow (display, name) ∈ graph.arrows ↔ Lists result.inputTables display name) ∧
          (writeArrow (display, name) ∈ graph.arrows ↔ Lists result.outputTables display name) ∧
          (callArrow (display, name) ∈ graph.arrows ↔ Lists result.functions display name)) ∧
      graph.arrows.length =
        (listed result.inputTables).ncard + (listed result.outputTables).ncard +
          (listed result.functions).ncard := by
  intro result graph
  refine ⟨fun table => ?_, mem_nodes_ofMerges_iff merges, length_nodes_ofMerges merges,
    fun display name => ?_, length_arrows_ofResult result⟩
  · obtain ⟨readersSorted, readers⟩ := readersOf_ofResult result table
    obtain ⟨writersSorted, writers⟩ := writersOf_ofResult result table
    exact ⟨readersSorted, readers, writersSorted, writers⟩
  · simp [graph, mem_arrows_ofResult_iff, readArrow, writeArrow, callArrow, listed]

end LineageGraph

end SqlLineage
