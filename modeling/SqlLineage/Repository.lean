import SqlLineage.Files.Access
import SqlLineage.JobFormat
import SqlLineage.JobSelection

/-!
# Repositories of jobs

A repository lists jobs and has their documents. It is a value: either the documents are given with
it, or they were read from files that are named for their jobs.
-/

namespace SqlLineage

/-- Where jobs and their documents are. -/
structure Repository where
  /-- All jobs. -/
  jobs : Except LineageError (List Job)
  /-- The document of a job. -/
  document : Job → Except LineageError JobDocument

namespace Repository

/-- The jobs that a pattern selects. -/
def select (repository : Repository) (pattern : String) (onlyLatest : Bool) :
    Except LineageError (List Job) := do
  JobSelection.select pattern onlyLatest (← repository.jobs)

/-- The repository of given documents; a job may be listed without one. -/
def ofDocuments (documents : OrderedMap Job (Option JobDocument)) : Repository where
  jobs := .ok documents.keys
  document job :=
    match documents.get? job with
    | some (some document) => .ok document
    | _ => .error (.unreadable job .absent)

/-- The job of a name and a version whose document is given. -/
def givenJob (name version : String) : Job :=
  ⟨name, version, ⟨"memory://" ++ name ++ "_" ++ version⟩⟩

end Repository

namespace JobFile

/-- The ends of the names of files that hold job documents. -/
def suffixes : List (List Char) :=
  [".item.yaml".toList, ".item.yml".toList]

/-- A text without its end, if it has it. -/
def withoutSuffix? (suffix cs : List Char) : Option (List Char) :=
  if suffix.isSuffixOf cs then some (cs.take (cs.length - suffix.length)) else none

/-- What is before and behind the last underscore. -/
def splitName? (cs : List Char) : Option (List Char × List Char) :=
  let version := (cs.reverse.takeWhile (· ≠ '_')).reverse
  if version.length < cs.length then some (cs.take (cs.length - version.length - 1), version)
  else none

/-- The job whose document is in the file at a path: its name and its version, which starts with a
digit, with an underscore between them, are the name of the file. -/
def job? (path : Path) : Option Job := do
  let fileName ← path.fileName?
  let stem ← suffixes.findSome? (withoutSuffix? · fileName.toList)
  let (name, version) ← splitName? stem
  let digit ← version.head?
  if name.isEmpty || !digit.isDigit then none
  else some ⟨String.ofList name, String.ofList version, path⟩

variable {m : Type → Type} [Monad m]

/-- The jobs whose documents are in files below a directory, in the order of a walk. -/
def jobs (files : FileAccess m) (root : Path) : m (Except LineageError (List Job)) := do
  match ← files.walk root with
  | .error fault => return .error (.unlisted root fault)
  | .ok paths => return .ok (paths.filterMap job?)

/-- The document in the file of a job. -/
def document (files : FileAccess m) (job : Job) : m (Except LineageError JobDocument) := do
  match ← files.text job.location with
  | .error reason => return .error (.unreadable job (.unreadable reason))
  | .ok text =>
    match JobDocument.ofText text with
    | .error error => return .error (.malformed job error)
    | .ok document => return .ok document

end JobFile

/-- The repository of the files below a directory, if files are a value. -/
def Repository.ofFiles (files : FileAccess Id) (root : Path) : Repository where
  jobs := JobFile.jobs files root
  document := JobFile.document files

end SqlLineage
