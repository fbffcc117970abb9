import SqlLineage.Proofs.Lineage.Graph

/-!
# Reading drawings

A reader of the DOT language takes a drawing apart into tokens and statements, knowing quoted texts
and nothing of lineage. It finds the nodes and edges of a graph again, whatever characters the names
hold, since a quoted name ends where its quotes end. So a drawing tells a graph, except that reading
and writing are drawn alike.
-/

namespace SqlLineage

/-! ## Names between quotes -/

namespace LineageGraph

/-- What a character of a name becomes between quotes. -/
def escapeChar : Char → List Char
  | '\\' => ['\\', '\\']
  | '"' => ['\\', '"']
  | c => [c]

/-- Both replacements are one pass over the name, as the first one brings in no quotes for the
second. -/
theorem toList_escape (name : String) :
    (escape name).toList = name.toList.flatMap escapeChar := by
  simp only [escape, replaceEach, String.toList_ofList, List.flatMap_assoc]
  apply List.flatMap_congr
  intro c _
  by_cases backslash : c = '\\'
  · subst backslash
    rfl
  · rw [if_neg backslash, List.flatMap_singleton]
    by_cases isQuote : c = '"'
    · subst isQuote
      rfl
    · rw [if_neg isQuote, escapeChar]
      · exact backslash
      · exact isQuote

theorem toList_quote (name : String) :
    (quote name).toList = '"' :: (name.toList.flatMap escapeChar ++ ['"']) := by
  rw [quote, String.toList_append, String.toList_append, toList_escape]
  rfl

end LineageGraph

/-! ## A reader of drawings -/

namespace Dot

/-- A token of a drawing. -/
inductive Token
  /-- A text in quotes. -/
  | quoted (text : String)
  /-- A word. -/
  | word (text : String)
  /-- Any other character. -/
  | sign (c : Char)
deriving DecidableEq, Repr

/-- Where a reader of tokens stands, with what it has read of the token there. -/
inductive Mode
  /-- Between tokens. -/
  | outside
  /-- In a word. -/
  | word (read : List Char)
  /-- In a text in quotes. -/
  | quoted (read : List Char)
  /-- In a text in quotes, behind a backslash. -/
  | escaped (read : List Char)
deriving DecidableEq, Repr

/-- What is read and where the reader stands behind a character between tokens. -/
def start (c : Char) : List Token × Mode :=
  if c == '"' then ([], .quoted [])
  else if c.isAlphanum || c == '_' then ([], .word [c])
  else if c.isWhitespace then ([], .outside)
  else ([.sign c], .outside)

/-- What is read and where the reader stands behind a character. In quotes, a backslash stands for
the character behind it. -/
def step : Mode → Char → List Token × Mode
  | .outside, c => start c
  | .word read, c =>
    if c.isAlphanum || c == '_' then ([], .word (read ++ [c]))
    else (.word (String.ofList read) :: (start c).1, (start c).2)
  | .quoted read, c =>
    if c == '\\' then ([], .escaped read)
    else if c == '"' then ([.quoted (String.ofList read)], .outside)
    else ([], .quoted (read ++ [c]))
  | .escaped read, c => ([], .quoted (read ++ [c]))

/-- What is read and where the reader stands behind characters. -/
def run : Mode → List Char → List Token × Mode
  | mode, [] => ([], mode)
  | mode, c :: cs =>
    ((step mode c).1 ++ (run (step mode c).2 cs).1, (run (step mode c).2 cs).2)

/-- The tokens of a text, in which all quotes are closed. -/
def tokens? (text : String) : Option (List Token) :=
  match run .outside text.toList with
  | (tokens, .outside) => some tokens
  | (tokens, .word read) => some (tokens ++ [.word (String.ofList read)])
  | _ => none

/-- A statement of a drawing. -/
inductive Statement
  /-- A setting of the whole drawing. -/
  | setting (key value : String)
  /-- A node with its attributes. -/
  | node (id : String) (attributes : List (String × String))
  /-- An edge with its attributes. -/
  | edge (source target : String) (attributes : List (String × String))
deriving DecidableEq, Repr

/-- The attributes that stand behind an opening bracket. -/
def attributes? : List Token → Option (List (String × String))
  | .word key :: .sign '=' :: .word value :: .sign ',' :: rest =>
    (attributes? rest).map ((key, value) :: ·)
  | .word key :: .sign '=' :: .quoted value :: .sign ',' :: rest =>
    (attributes? rest).map ((key, value) :: ·)
  | [.word key, .sign '=', .word value, .sign ']'] => some [(key, value)]
  | [.word key, .sign '=', .quoted value, .sign ']'] => some [(key, value)]
  | _ => none

/-- The statement of tokens. -/
def statement? : List Token → Option Statement
  | [.word key, .sign '=', .word value] => some (.setting key value)
  | .quoted id :: .sign '[' :: rest => (attributes? rest).map (.node id)
  | .quoted source :: .sign '-' :: .sign '>' :: .quoted target :: .sign '[' :: rest =>
    (attributes? rest).map (.edge source target)
  | _ => none

/-- The statements up to the brace that closes a drawing, each with a semicolon behind it, if `read`
comes before the rest of the first. -/
def body? (read : List Token) : List Token → Option (List Statement)
  | [] => none
  | .sign ';' :: rest =>
    (statement? read).bind fun statement => (body? [] rest).map (statement :: ·)
  | [.sign '\x7d'] => if read.isEmpty then some [] else none
  | token :: rest => body? (read ++ [token]) rest

/-- The statements of a drawing with directed edges. -/
def statements? (text : String) : Option (List Statement) :=
  (tokens? text).bind fun
    | .word "digraph" :: .word _ :: .sign '\x7b' :: rest => body? [] rest
    | _ => none

/-- The node with an identifier. -/
def nodeOfId? (id : String) : Option LineageNode :=
  let name := String.ofList ((id.toList.dropWhile (· != ':')).drop 1)
  match String.ofList (id.toList.takeWhile (· != ':')) with
  | "job" => some (.job name)
  | "table" => some (.table name)
  | "function" => some (.function name)
  | _ => none

/-- What a drawing shows. -/
structure Drawing where
  /-- The nodes. -/
  nodes : List LineageNode
  /-- The edges: the ends and the line. -/
  edges : List (LineageNode × LineageNode × String)
deriving DecidableEq, Repr

namespace Statement

/-- The identifier of the node that is declared. -/
def declaredId? : Statement → Option String
  | node id _ => some id
  | _ => none

/-- The edge that is declared. -/
def edge? : Statement → Option (LineageNode × LineageNode × String)
  | edge source target attributes => do
    return (← nodeOfId? source, ← nodeOfId? target, ← attributes.lookup "style")
  | _ => none

end Statement

/-- The identifiers that a drawing declares. -/
def declaredIds? (text : String) : Option (List String) :=
  (statements? text).map (·.filterMap Statement.declaredId?)

/-- What a text draws. -/
def drawing? (text : String) : Option Drawing := do
  return ⟨(← declaredIds? text).filterMap nodeOfId?,
    (← statements? text).filterMap Statement.edge?⟩

/-! ## Tokens -/

theorem run_append (mode : Mode) (front back : List Char) :
    run mode (front ++ back) =
      ((run mode front).1 ++ (run (run mode front).2 back).1, (run (run mode front).2 back).2) := by
  induction front generalizing mode with
  | nil => rfl
  | cons c front inductionHypothesis => simp [run, inductionHypothesis]

/-- A text is made of whole tokens. -/
def Spells (text : String) (tokens : List Token) : Prop :=
  run .outside text.toList = (tokens, .outside)

instance (text : String) (tokens : List Token) : Decidable (Spells text tokens) :=
  inferInstanceAs (Decidable (_ = _))

theorem Spells.append
    {front back : String}
    {first second : List Token}
    (spellsFront : Spells front first)
    (spellsBack : Spells back second) :
    Spells (front ++ back) (first ++ second) := by
  rw [Spells, String.toList_append, run_append, spellsFront, spellsBack]

theorem Spells.tokens?_eq
    {text : String}
    {tokens : List Token}
    (spells : Spells text tokens) :
    tokens? text = some tokens := by
  rw [tokens?, spells]

/-- Behind an opening quote, the escaped characters of a name are read to the name. -/
theorem run_quoted (read name : List Char) :
    run (.quoted read) (name.flatMap LineageGraph.escapeChar ++ ['"']) =
      ([.quoted (String.ofList (read ++ name))], .outside) := by
  induction name generalizing read with
  | nil => simp [run, step]
  | cons c name inductionHypothesis =>
      have whole : read ++ c :: name = read ++ [c] ++ name := by simp
      rw [List.flatMap_cons, List.append_assoc, run_append, whole]
      -- Whether it is escaped or not, the character is read and the reader stays in quotes.
      have one : run (.quoted read) (LineageGraph.escapeChar c) = ([], .quoted (read ++ [c])) := by
        unfold LineageGraph.escapeChar
        split
        next => rfl
        next => rfl
        next noBackslash noQuote =>
          simp only [run, step, beq_iff_eq, List.append_nil]
          rw [if_neg noBackslash, if_neg noQuote]
      rw [one]
      simp [inductionHypothesis]

theorem spells_quote (name : String) : Spells (LineageGraph.quote name) [.quoted name] := by
  rw [Spells, LineageGraph.toList_quote, run]
  change ([] ++ (run (.quoted []) _).1, (run (.quoted []) _).2) = _
  rw [run_quoted, List.nil_append, List.nil_append, String.ofList_toList]

end Dot

/-! ## The drawing of a graph -/

namespace LineageNode

/-- How a node is declared. -/
def declaration (node : LineageNode) : Dot.Statement :=
  .node node.id [("label", node.name), ("shape", node.shape)]

/-- The tokens of the line that declares a node. -/
def tokens (node : LineageNode) : List Dot.Token :=
  [.quoted node.id, .sign '[', .word "label", .sign '=', .quoted node.name, .sign ',',
    .word "shape", .sign '=', .word node.shape, .sign ']', .sign ';']

theorem spells_nodeLine (node : LineageNode) :
    Dot.Spells (LineageGraph.nodeLine node) node.tokens := by
  have indent : Dot.Spells "  " [] := rfl
  have label : Dot.Spells " [label=" [.sign '[', .word "label", .sign '='] := rfl
  have shapes : ∀ shape ∈ ["box", "cylinder", "ellipse"], Dot.Spells (", shape=" ++ shape ++ "];\n")
      [.sign ',', .word "shape", .sign '=', .word shape, .sign ']', .sign ';'] := by
    decide
  have shape := shapes node.shape (by cases node <;> simp [LineageNode.shape])
  have whole := (((indent.append (Dot.spells_quote node.id)).append label).append
    (Dot.spells_quote node.name)).append shape
  simpa only [LineageGraph.nodeLine, tokens, String.append_assoc, List.nil_append,
    List.cons_append] using whole

theorem body?_tokens (node : LineageNode) (rest : List Dot.Token) :
    Dot.body? [] (node.tokens ++ rest) = (Dot.body? [] rest).map (node.declaration :: ·) := rfl

theorem nodeOfId?_id (node : LineageNode) : Dot.nodeOfId? node.id = some node := by
  cases node <;> simp [Dot.nodeOfId?, id, kindWord, LineageNode.name]

theorem id_injective : Function.Injective id := by
  intro node other same
  have found := congrArg Dot.nodeOfId? same
  rw [nodeOfId?_id, nodeOfId?_id] at found
  exact Option.some.inj found

end LineageNode

namespace LineageArrow

/-- How an edge is declared. -/
def declaration (arrow : LineageArrow) : Dot.Statement :=
  .edge arrow.source.id arrow.target.id [("style", arrow.edge.line)]

/-- The tokens of the line that declares an edge. -/
def tokens (arrow : LineageArrow) : List Dot.Token :=
  [.quoted arrow.source.id, .sign '-', .sign '>', .quoted arrow.target.id, .sign '[',
    .word "style", .sign '=', .word arrow.edge.line, .sign ']', .sign ';']

/-- What a drawing shows of an edge. -/
def drawn (arrow : LineageArrow) : LineageNode × LineageNode × String :=
  (arrow.source, arrow.target, arrow.edge.line)

theorem spells_arrowLine (arrow : LineageArrow) :
    Dot.Spells (LineageGraph.arrowLine arrow) arrow.tokens := by
  have indent : Dot.Spells "  " [] := rfl
  have leads : Dot.Spells " -> " [.sign '-', .sign '>'] := rfl
  have lines : ∀ line ∈ ["solid", "dashed"], Dot.Spells (" [style=" ++ line ++ "];\n")
      [.sign '[', .word "style", .sign '=', .word line, .sign ']', .sign ';'] := by
    decide
  have line := lines arrow.edge.line (by cases arrow.edge <;> simp [LineageEdge.line])
  have whole := (((indent.append (Dot.spells_quote arrow.source.id)).append leads).append
    (Dot.spells_quote arrow.target.id)).append line
  simpa only [LineageGraph.arrowLine, tokens, String.append_assoc, List.nil_append,
    List.cons_append] using whole

theorem body?_tokens (arrow : LineageArrow) (rest : List Dot.Token) :
    Dot.body? [] (arrow.tokens ++ rest) = (Dot.body? [] rest).map (arrow.declaration :: ·) := rfl

theorem edge?_declaration (arrow : LineageArrow) :
    arrow.declaration.edge? = some arrow.drawn := by
  simp [declaration, Dot.Statement.edge?, LineageNode.nodeOfId?_id, drawn]

end LineageArrow

namespace Dot

/-- Lines that spell tokens spell them one after the other. -/
theorem spells_join
    {α : Type}
    {line : α → String}
    {tokens : α → List Token}
    (spells : ∀ item, Spells (line item) (tokens item))
    (items : List α) :
    Spells (String.join (items.map line)) (items.flatMap tokens) := by
  induction items with
  | nil => rfl
  | cons item items inductionHypothesis =>
      rw [List.map_cons, String.join_cons, List.flatMap_cons]
      exact (spells item).append inductionHypothesis

/-- Statements that are read one by one are read one after the other. -/
theorem body?_flatMap
    {α : Type}
    {tokens : α → List Token}
    {statement : α → Statement}
    (reads : ∀ item rest,
      body? [] (tokens item ++ rest) = (body? [] rest).map (statement item :: ·))
    (items : List α)
    (rest : List Token) :
    body? [] (items.flatMap tokens ++ rest) = (body? [] rest).map (items.map statement ++ ·) := by
  induction items with
  | nil => simp
  | cons item items inductionHypothesis =>
      rw [List.flatMap_cons, List.append_assoc, reads, inductionHypothesis, Option.map_map]
      rfl

end Dot

namespace LineageGraph

open LineageNode (nodeOfId?_id)

/-- A drawing declares the nodes and then the edges. -/
theorem statements?_toDot (graph : LineageGraph) :
    Dot.statements? graph.toDot =
      some (.setting "rankdir" "LR" ::
        (graph.nodes.toList.map LineageNode.declaration ++
          graph.arrows.map LineageArrow.declaration)) := by
  have opening : Dot.Spells "digraph lineage \x7b\n  rankdir=LR;\n" [.word "digraph",
      .word "lineage", .sign '\x7b', .word "rankdir", .sign '=', .word "LR", .sign ';'] := by
    decide
  have closing : Dot.Spells "\x7d\n" [.sign '\x7d'] := by decide
  have whole := ((opening.append (Dot.spells_join LineageNode.spells_nodeLine
    graph.nodes.toList)).append (Dot.spells_join LineageArrow.spells_arrowLine
    graph.arrows)).append closing
  have setting (rest : List Dot.Token) :
      Dot.body? [] (.word "rankdir" :: .sign '=' :: .word "LR" :: .sign ';' :: rest) =
        (Dot.body? [] rest).map (.setting "rankdir" "LR" :: ·) := rfl
  have read : Dot.body? [] (graph.nodes.toList.flatMap LineageNode.tokens ++
      (graph.arrows.flatMap LineageArrow.tokens ++ [.sign '\x7d'])) =
        some (graph.nodes.toList.map LineageNode.declaration ++
          graph.arrows.map LineageArrow.declaration) := by
    rw [Dot.body?_flatMap LineageNode.body?_tokens, Dot.body?_flatMap LineageArrow.body?_tokens]
    simp [Dot.body?]
  have tokens : Dot.tokens? graph.toDot = some _ := whole.tokens?_eq
  simp only [List.append_assoc, List.cons_append, List.nil_append] at tokens
  rw [Dot.statements?, tokens, Option.bind_some]
  exact (setting _).trans (congrArg (Option.map _) read)

/-- What is drawn alike by two edges: their ends, and whether they call. -/
def DrawnAlike (arrow other : LineageArrow) : Prop :=
  arrow.source = other.source ∧ arrow.target = other.target ∧
    (arrow.edge = .calls ↔ other.edge = .calls)

theorem drawnAlike_iff (arrow other : LineageArrow) :
    DrawnAlike arrow other ↔ arrow.drawn = other.drawn := by
  rw [DrawnAlike, LineageArrow.drawn, LineageArrow.drawn, Prod.mk.injEq, Prod.mk.injEq]
  refine and_congr_right fun _ => and_congr_right fun _ => ?_
  cases arrow.edge <;> cases other.edge <;> decide

theorem declaredIds?_toDot (graph : LineageGraph) :
    Dot.declaredIds? graph.toDot = some (graph.nodes.toList.map LineageNode.id) := by
  have nodes : (graph.nodes.toList.map LineageNode.declaration).filterMap
      Dot.Statement.declaredId? = graph.nodes.toList.map LineageNode.id := by
    rw [List.filterMap_map]
    exact List.filterMap_eq_map_iff_forall_eq_some.2 fun _ _ => rfl
  have edges : (graph.arrows.map LineageArrow.declaration).filterMap
      Dot.Statement.declaredId? = [] := by
    simp [LineageArrow.declaration, Dot.Statement.declaredId?]
  rw [Dot.declaredIds?, statements?_toDot, Option.map_some, List.filterMap_cons_none rfl,
    List.filterMap_append, nodes, edges, List.append_nil]

/-- A drawing shows the nodes and the edges of its graph, in their order. -/
theorem drawing?_toDot (graph : LineageGraph) :
    Dot.drawing? graph.toDot = some ⟨graph.nodes.toList, graph.arrows.map LineageArrow.drawn⟩ := by
  have nodes : (graph.nodes.toList.map LineageNode.id).filterMap Dot.nodeOfId? =
      graph.nodes.toList := by
    rw [List.filterMap_map]
    simpa using List.filterMap_eq_map_iff_forall_eq_some.2
      fun node (_ : node ∈ graph.nodes.toList) => node.nodeOfId?_id
  have noEdges : (graph.nodes.toList.map LineageNode.declaration).filterMap
      Dot.Statement.edge? = [] := by
    simp [LineageNode.declaration, Dot.Statement.edge?]
  have edges : (graph.arrows.map LineageArrow.declaration).filterMap Dot.Statement.edge? =
      graph.arrows.map LineageArrow.drawn := by
    rw [List.filterMap_map]
    exact List.filterMap_eq_map_iff_forall_eq_some.2 fun arrow _ => arrow.edge?_declaration
  rw [Dot.drawing?, declaredIds?_toDot, statements?_toDot, Option.bind_eq_bind, Option.bind_some,
    Option.bind_eq_bind, Option.bind_some, nodes, List.filterMap_cons_none rfl,
    List.filterMap_append, noEdges, edges]
  rfl

theorem forall₂_drawnAlike_iff (arrows others : List LineageArrow) :
    List.Forall₂ DrawnAlike arrows others ↔
      arrows.map LineageArrow.drawn = others.map LineageArrow.drawn := by
  rw [← List.forall₂_eq_eq_eq, List.forall₂_map_left_iff, List.forall₂_map_right_iff]
  simp only [← drawnAlike_iff]

/-- Graphs are drawn by the same text exactly if they have the same nodes and edges that are drawn
alike. -/
theorem toDot_eq_iff (graph other : LineageGraph) :
    graph.toDot = other.toDot ↔
      graph.nodes = other.nodes ∧ List.Forall₂ DrawnAlike graph.arrows other.arrows := by
  rw [forall₂_drawnAlike_iff]
  constructor
  · intro same
    have drawings := congrArg Dot.drawing? same
    rw [drawing?_toDot, drawing?_toDot, Option.some.injEq, Dot.Drawing.mk.injEq] at drawings
    obtain ⟨nodes, edges⟩ := drawings
    refine ⟨?_, edges⟩
    cases graphNodes : graph.nodes
    cases otherNodes : other.nodes
    simpa [graphNodes, otherNodes] using nodes
  · rintro ⟨nodes, edges⟩
    -- The line of an edge says no more than what is drawn of it.
    have lines (arrows : List LineageArrow) : arrows.map arrowLine =
        (arrows.map LineageArrow.drawn).map fun (source, target, line) =>
          "  " ++ quote source.id ++ " -> " ++ quote target.id ++ " [style=" ++ line ++ "];\n" := by
      rw [List.map_map]
      rfl
    have text (graph : LineageGraph) : graph.toDot =
        "digraph lineage \x7b\n  rankdir=LR;\n" ++ String.join (graph.nodes.toList.map nodeLine) ++
          String.join (graph.arrows.map arrowLine) ++ "\x7d\n" := rfl
    rw [text, text, lines, lines, nodes, edges]

/-! ## Graphs that are made of edges -/

/-- The graph that edges make, added one after the other. -/
def ofArrows (arrows : List LineageArrow) : LineageGraph :=
  arrows.foldl addArrow empty

/-- Two edges have the same ends. -/
def sameEnds (arrow other : LineageArrow) : Bool :=
  arrow.source == other.source && arrow.target == other.target

theorem sameEnds_comm (arrow other : LineageArrow) :
    sameEnds arrow other = sameEnds other arrow := by
  rw [sameEnds, sameEnds, BEq.comm (a := arrow.source), BEq.comm (a := arrow.target)]

/-- Edges are added behind those of a graph, the first between two nodes that have none. -/
theorem arrows_foldl_addArrow_eq (arrows : List LineageArrow) (graph : LineageGraph) :
    (arrows.foldl addArrow graph).arrows =
      graph.arrows ++ (arrows.filter fun arrow =>
        !graph.arrows.any (sameEnds · arrow)).eraseDupsBy sameEnds := by
  induction arrows generalizing graph with
  | nil => simp
  | cons arrow arrows inductionHypothesis =>
      have added : (graph.addArrow arrow).arrows =
          if graph.arrows.any (sameEnds · arrow) then graph.arrows
          else graph.arrows ++ [arrow] := rfl
      rw [List.foldl_cons, inductionHypothesis, added]
      by_cases present : graph.arrows.any (sameEnds · arrow) = true
      · rw [if_pos present, List.filter_cons_of_neg (by simp [present])]
      · have fresh (other : LineageArrow) :
            (!(graph.arrows ++ [arrow]).any (sameEnds · other)) =
              (decide (sameEnds other arrow = false) && !graph.arrows.any (sameEnds · other)) := by
          rw [List.any_append, List.any_cons, List.any_nil, Bool.or_false, Bool.not_or,
            Bool.and_comm, sameEnds_comm other arrow]
          cases sameEnds arrow other <;> rfl
        rw [if_neg present, List.filter_cons_of_pos (by simp [present]), List.eraseDupsBy_cons,
          List.filter_filter, List.append_assoc]
        simp only [fresh, List.cons_append, List.nil_append]

/-- An edge is kept if no edge in front of it has the same ends. -/
theorem arrows_ofArrows (arrows : List LineageArrow) :
    (ofArrows arrows).arrows = arrows.eraseDupsBy sameEnds := by
  rw [ofArrows, arrows_foldl_addArrow_eq]
  simp [empty]

theorem nodes_ofArrows (arrows : List LineageArrow) :
    (ofArrows arrows).nodes.toList =
      (arrows.flatMap fun arrow => [arrow.source, arrow.target]).eraseDups := by
  rw [ofArrows, nodes_foldl_addArrow]
  exact UniqueList.toList_ofList _

/-- **A drawing tells its graph.** Of a graph that edges make, one after the other, a reader of the
drawing finds the nodes with their kinds and names, in the order in which they first came in, and
the edges with their ends and lines, the first between two nodes in the order in which they came in.
So graphs that are drawn by the same text have the same nodes and the same edges, except that one
may read where the other writes; and each node is declared once, with an identifier that no other
node has. -/
theorem drawing_tells_graph (added : List LineageArrow) :
    Dot.drawing? (ofArrows added).toDot =
        some ⟨(added.flatMap fun arrow => [arrow.source, arrow.target]).eraseDups,
          (added.eraseDupsBy sameEnds).map LineageArrow.drawn⟩ ∧
      (ofArrows added).nodes.toList =
        (added.flatMap fun arrow => [arrow.source, arrow.target]).eraseDups ∧
      (ofArrows added).arrows = added.eraseDupsBy sameEnds ∧
      (∀ other : List LineageArrow, (ofArrows other).toDot = (ofArrows added).toDot ↔
        (ofArrows other).nodes = (ofArrows added).nodes ∧
          List.Forall₂ DrawnAlike (ofArrows other).arrows (ofArrows added).arrows) ∧
      ∃ ids, Dot.declaredIds? (ofArrows added).toDot = some ids ∧
        ∀ node ∈ (ofArrows added).nodes.toList, ids.count node.id = 1 ∧
          ∀ other : LineageNode, other.id = node.id → other = node := by
  have nodup : ((ofArrows added).nodes.toList.map LineageNode.id).Nodup :=
    (ofArrows added).nodes.nodup.map LineageNode.id_injective
  refine ⟨?_, nodes_ofArrows added, arrows_ofArrows added, fun other => ?_,
    _, declaredIds?_toDot (ofArrows added), fun node member => ⟨?_, fun other same => ?_⟩⟩
  · rw [drawing?_toDot, nodes_ofArrows, arrows_ofArrows]
  · exact toDot_eq_iff (ofArrows other) (ofArrows added)
  · exact List.count_eq_one_of_mem nodup (List.mem_map_of_mem member)
  · exact LineageNode.id_injective same

-- The name of the table looks like the end of a node and the beginning of an edge.
example :
    Dot.drawing? (ofArrows [⟨.table "a\" -> \"job:b", .job "c\\", .reads⟩]).toDot =
      some ⟨[.table "a\" -> \"job:b", .job "c\\"],
        [(.table "a\" -> \"job:b", .job "c\\", "solid")]⟩ := by
  decide +kernel

end LineageGraph
end SqlLineage
