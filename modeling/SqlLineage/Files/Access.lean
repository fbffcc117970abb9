import SqlLineage.Path

/-!
# Access to files

What the program does with files is written once, for any way to reach them: a monad that asks a
machine, or none at all where the files are a value. A walk goes through a directory and all below
it, in the order of names, and does not follow links but at its start.
-/

namespace SqlLineage

/-- What an entry of a directory is. -/
inductive FileKind
  /-- A file. -/
  | file
  /-- A directory. -/
  | directory
  /-- A link to another place. -/
  | link
deriving DecidableEq, Repr

/-- Why a file or a directory cannot be read. -/
inductive FileFault
  /-- Nothing is there. -/
  | missing
  /-- It is a directory. -/
  | directory
  /-- It is in or is something that is no directory. -/
  | notDirectory
  /-- Links lead in a circle. -/
  | linkLoop
  /-- Its bytes are no text. -/
  | notText
  /-- Anything else, in the words of the machine. -/
  | other (reason : String)
deriving DecidableEq, Repr

/-- The reason for a user. -/
def FileFault.message : FileFault → String
  | missing => "No such file or directory (os error 2)"
  | notDirectory => "Not a directory (os error 20)"
  | directory => "Is a directory (os error 21)"
  | linkLoop => "Too many levels of symbolic links (os error 40)"
  | notText => "stream did not contain valid UTF-8"
  | other reason => reason

/-- Why a walk failed. -/
structure WalkFault where
  /-- Where it failed. -/
  place : Path
  /-- Why. -/
  reason : FileFault
deriving DecidableEq, Repr

/-- The reason for a user. -/
def WalkFault.message (fault : WalkFault) : String :=
  "IO error for operation on " ++ fault.place.text ++ ": " ++ fault.reason.message

/-- A way to reach files. -/
structure FileAccess (m : Type → Type) where
  /-- What is at a path, which may be a link. -/
  kind : Path → m (Except FileFault FileKind)
  /-- What is at the end of the links at a path. -/
  target : Path → m (Except FileFault FileKind)
  /-- The entries of a directory. -/
  entries : Path → m (Except FileFault (List (String × FileKind)))
  /-- The text of a file. -/
  text : Path → m (Except FileFault String)

namespace FileAccess

variable {m : Type → Type} [Monad m]

/-- Whether a path leads to anything. -/
def present (files : FileAccess m) (path : Path) : m Bool := do
  return (← files.target path).isOk

/-- Whether a path leads to a directory. -/
def isDirectory (files : FileAccess m) (path : Path) : m Bool := do
  match ← files.target path with
  | .ok .directory => return true
  | _ => return false

/-- How deep directories are looked through: no path that can be opened has more steps. -/
def depthLimit : Nat :=
  4096

/-- The files in a directory and below it. -/
def walkDirectory (files : FileAccess m) : Nat → Path → m (Except WalkFault (List Path))
  | 0, _ => return .ok []
  | depth + 1, path => do
    match ← files.entries path with
    | .error reason => return .error ⟨path, reason⟩
    | .ok entries =>
      let entries := entries.mergeSort fun a b => (compare a.1 b.1).isLE
      let found ← entries.mapM fun (name, kind) =>
        match kind with
        | .file => return .ok [path.join name]
        | .link => return .ok []
        | .directory => files.walkDirectory depth (path.join name)
      return (found.mapM id).map List.flatten

/-- The files that are at a path or below it. -/
def walk (files : FileAccess m) (root : Path) : m (Except WalkFault (List Path)) := do
  match ← files.kind root with
  | .error reason => return .error ⟨root, reason⟩
  | .ok .file => return .ok [root]
  | .ok .directory => files.walkDirectory depthLimit root
  | .ok .link =>
    match ← files.target root with
    | .error reason => return .error ⟨root, reason⟩
    | .ok .directory => files.walkDirectory depthLimit root
    | .ok _ => return .ok []

end FileAccess

end SqlLineage
