import SqlLineage.Files.Access

/-!
# Trees of files

A directory with all that is below it, as a value. Paths lead from the directory through its entries;
a path that leaves the directory leads nowhere.
-/

namespace SqlLineage

/-- What is at a place of a tree. -/
inductive FileContent
  /-- A file with its bytes. -/
  | file (bytes : ByteArray)
  /-- A directory. -/
  | directory
  /-- A link to what another path, seen from the directory of the link, leads to. -/
  | link (path : Path)

/-- What kind of entry a content is. -/
def FileContent.kind : FileContent → FileKind
  | file _ => .file
  | directory => .directory
  | link _ => .link

/-- A directory with all that is below it. -/
structure FileTree where
  /-- The places below the directory with what is there; the first of a place counts. -/
  places : List (List String × FileContent)

namespace FileTree

/-- The directory without entries. -/
def empty : FileTree :=
  ⟨[]⟩

/-- What is at a place. -/
def content? (tree : FileTree) (place : List String) : Option FileContent :=
  if place.isEmpty then some .directory else tree.places.lookup place

/-- How many links a path may lead through. -/
def linkLimit : Nat :=
  40

/-- The place that steps lead to from the directory at `place`, if they lead through no more than
`links` links; a link at the end is followed if `follow` holds. -/
def locate (tree : FileTree) (follow : Bool) (links : Nat) (place : List String)
    (steps : List Path.Step) : Except FileFault (List String) :=
  match steps with
  | [] => .ok place
  | .root :: _ => .error .missing
  | .here :: steps => locate tree follow links place steps
  | .parent :: steps =>
    if place.isEmpty then .error .missing else locate tree follow links place.dropLast steps
  | .entry name :: steps =>
    match tree.content? (place ++ [name]) with
    | none => .error .missing
    | some (.file _) => if steps.isEmpty then .ok (place ++ [name]) else .error .notDirectory
    | some .directory => locate tree follow links (place ++ [name]) steps
    | some (.link path) =>
      if steps.isEmpty && !follow then .ok (place ++ [name])
      else
        match links with
        | 0 => .error .linkLoop
        | links + 1 =>
          if path.text.isEmpty then .error .missing
          else locate tree follow links place (path.steps ++ steps)
termination_by (links, steps.length)

/-- The steps of a path, with a last one to the directory itself if the path ends as only the path of
a directory does. -/
def stepsOf (path : Path) : List Path.Step :=
  match path.text.toList.reverse with
  | '/' :: _ => path.steps ++ [.here]
  | '.' :: '/' :: _ => path.steps ++ [.here]
  | _ => path.steps

/-- What a path leads to. -/
def find (tree : FileTree) (follow : Bool) (path : Path) :
    Except FileFault (List String × FileContent) := do
  if path.text.isEmpty then throw .missing
  let place ← tree.locate follow linkLimit [] (stepsOf path)
  match tree.content? place with
  | some content => return (place, content)
  | none => throw .missing

/-- The entries of the directory at a place. -/
def entriesAt (tree : FileTree) (place : List String) : List (String × FileKind) :=
  (tree.places.filterMap fun (other, _) =>
    if other.dropLast = place then other.getLast? else none).eraseDups.filterMap fun name =>
      (tree.content? (place ++ [name])).map fun content => (name, content.kind)

/-- The tree as a way to reach its files. -/
def access (tree : FileTree) : FileAccess Id where
  kind path := (tree.find false path).map (·.2.kind)
  target path := (tree.find true path).map (·.2.kind)
  entries path :=
    match tree.find true path with
    | .error reason => .error reason
    | .ok (place, .directory) => .ok (tree.entriesAt place)
    | .ok _ => .error .notDirectory
  text path :=
    match tree.find true path with
    | .error reason => .error reason
    | .ok (_, .file bytes) =>
      match String.fromUTF8? bytes with
      | some text => .ok text
      | none => .error .notText
    | .ok _ => .error .directory

/-- The tree with a directory at a place, if there is nothing yet. -/
def addDirectory (tree : FileTree) (place : List String) : FileTree :=
  if (tree.content? place).isSome then tree else ⟨(place, .directory) :: tree.places⟩

/-- The tree with a content at the end of steps from the directory at `place`, in directories that are
made where they are missing. -/
def addFrom (tree : FileTree) (content : FileContent) (place : List String) :
    List Path.Step → FileTree
  | [] => tree
  | [.entry name] =>
    match content with
    | .directory => tree.addDirectory (place ++ [name])
    | content => ⟨(place ++ [name], content) :: tree.places⟩
  | .entry name :: steps =>
    match tree.locate true linkLimit place [.entry name] with
    | .ok found => addFrom tree content found steps
    | .error _ => addFrom (tree.addDirectory (place ++ [name])) content (place ++ [name]) steps
  | .parent :: steps => addFrom tree content place.dropLast steps
  | _ :: steps => addFrom tree content place steps

/-- The tree with a content at a path. -/
def add (tree : FileTree) (path : Path) (content : FileContent) : FileTree :=
  tree.addFrom content [] path.steps

end FileTree

end SqlLineage
