import SqlLineage.Config
import SqlLineage.Files.Access
import SqlLineage.Log

/-!
# Configuration files

The configuration of a project is in a file that the user names, or else in one of a fixed name in
the current directory. A file that is named has to be there; without it a project has the standard
configuration.
-/

namespace SqlLineage

namespace ConfigFile

variable {m : Type → Type} [Monad m]

/-- The name of the file in the current directory. -/
def standardName : String :=
  "lineage_project.yaml"

/-- A record of the part of the program that reads configurations. -/
def record (level : LogLevel) (message : String) (path : Path) : LogRecord :=
  ⟨level, "commands::config", message, [("path", path.text)]⟩

/-- The configuration in the file at a path that users see as `shown`. -/
def load (files : FileAccess m) (path shown : Path) :
    m (Except ConfigError Config × List LogRecord) := do
  match ← files.text path with
  | .error reason => return (.error (.unreadable shown reason.message), [])
  | .ok text =>
    match Config.ofText text with
    | .error error => return (.error (.invalid shown error), [])
    | .ok config => return (.ok config, [record .info "Loaded configuration" shown])

/-- The configuration of the project whose file is at `path`, or in the directory `current` if no
file is named. -/
def read (files : FileAccess m) (current : Path) (path : Option Path) :
    m (Except ConfigError Config × List LogRecord) := do
  match path with
  | some path =>
    if ← files.present path then load files path path
    else return (.error (.missing path), [])
  | none =>
    let shown := current.join standardName
    if ← files.present ⟨standardName⟩ then load files ⟨standardName⟩ shown
    else return (.ok .standard, [record .debug "No configuration file, using defaults" shown])

end ConfigFile

end SqlLineage
