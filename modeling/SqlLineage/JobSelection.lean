import SqlLineage.LineageError
import SqlLineage.OrderedMap
import SqlLineage.Version

/-!
# Selection of jobs

Jobs are selected by a pattern that matches the whole of their name, and of the jobs of a name only
the one of the highest version may be wanted.
-/

namespace SqlLineage

namespace JobSelection

/-- The pattern of texts that another pattern matches as a whole. -/
def anchored (pattern : String) : String :=
  "^(?:" ++ pattern ++ ")$"

/-- The job of the higher version; of equal versions, the one that is kept so far. -/
def newer (kept : Option Job) (job : Job) : Job :=
  match kept with
  | some kept => if Version.order kept.version job.version = .lt then job else kept
  | none => job

/-- The job of the highest version for each name. -/
def latest (jobs : List Job) : List Job :=
  let byName := jobs.foldl (fun (byName : OrderedMap String Job) job =>
    byName.update job.name (newer · job)) .empty
  byName.toList.map Prod.snd

/-- The jobs in order. -/
def sorted (jobs : List Job) : List Job :=
  jobs.mergeSort fun a b => (compare a b).isLE

/-- The jobs whose names a pattern matches, in order; only the latest of each name if that is
wanted. -/
def select (pattern : String) (onlyLatest : Bool) (jobs : List Job) :
    Except LineageError (List Job) :=
  match Regex.parse (anchored pattern) with
  | .error fault => .error (.invalidPattern (anchored pattern) fault)
  | .ok regex =>
    let matching := jobs.filter fun job => regex.occursIn job.name
    .ok (sorted (if onlyLatest then latest matching else matching))

end JobSelection

end SqlLineage
