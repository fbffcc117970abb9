/-!
# Paths

A path is kept as it was written, but two paths are ordered, and are the same, by their steps:
repeated and trailing separators do not count, nor does a dot behind the first step.
-/

namespace SqlLineage

/-- A path in a directory tree. -/
structure Path where
  /-- The path as it was written. -/
  text : String
deriving DecidableEq, Repr, Inhabited

namespace Path

/-- A step of a path. -/
inductive Step
  /-- To the root of all directories. -/
  | root
  /-- To the directory itself. -/
  | here
  /-- To the directory above. -/
  | parent
  /-- To an entry of the directory. -/
  | entry (name : String)
deriving DecidableEq, Repr

namespace Step

/-- The place of a kind of step among the kinds. -/
def rank : Step → Nat
  | root => 0
  | here => 1
  | parent => 2
  | entry _ => 3

/-- The name of the entry that a step leads to. -/
def name : Step → String
  | entry name => name
  | _ => ""

instance : Ord Step :=
  ⟨compareLex (compareOn rank) (compareOn name)⟩

instance : Std.TransOrd Step :=
  inferInstanceAs (Std.TransCmp (compareLex (compareOn rank) (compareOn name)))

end Step

/-- The pieces of a text between its slashes. -/
def pieces : List Char → List (List Char)
  | [] => [[]]
  | c :: cs =>
    if c = '/' then [] :: pieces cs
    else
      match pieces cs with
      | [] => [[c]]
      | piece :: others => (c :: piece) :: others

/-- The step that a piece between slashes stands for. -/
def step? (piece : List Char) : Option Step :=
  if piece = [] ∨ piece = ['.'] then none
  else if piece = ['.', '.'] then some .parent
  else some (.entry (String.ofList piece))

/-- The steps of a path. -/
def steps (path : Path) : List Step :=
  let cs := path.text.toList
  let first :=
    if cs.head? = some '/' then [Step.root]
    else if (pieces cs).head? = some ['.'] then [.here]
    else []
  first ++ (pieces cs).filterMap step?

instance : Ord Path :=
  ⟨compareOn steps⟩

instance : Std.TransOrd Path :=
  inferInstanceAs (Std.TransCmp (compareOn steps))

/-- The path to `name`, seen from the directory at `path`. -/
def join (path : Path) (name : String) : Path :=
  if name.toList.head? == some '/' || path.text.isEmpty then ⟨name⟩
  else if path.text.toList.getLast? == some '/' then ⟨path.text ++ name⟩
  else ⟨path.text ++ "/" ++ name⟩

/-- The name of the entry that a path leads to. -/
def fileName? (path : Path) : Option String :=
  match path.steps.getLast? with
  | some (.entry name) => some name
  | _ => none

end Path

end SqlLineage
