import SqlLineage.Program
import SqlLineage.Report.Duration
import Std.Time.DateTime.Timestamp

/-!
# The command line

The program on a machine: its files, its clock, its environment and its streams.
-/

namespace SqlLineage

namespace Main

/-- The kind of an entry. -/
def kindOf : IO.FS.FileType → FileKind
  | .dir => .directory
  | .symlink => .link
  | _ => .file

/-- Why the machine could not do something. -/
def faultOf : IO.Error → FileFault
  | .noFileOrDirectory _ _ _ => .missing
  | error => .other (toString error)

/-- The result of an action, or why it failed. -/
def attempt {α : Type} (action : IO α) : IO (Except FileFault α) := do
  match ← action.toBaseIO with
  | .ok value => return .ok value
  | .error error => return .error (faultOf error)

/-- The text of a file. -/
def readText (path : Path) : IO (Except FileFault String) := do
  match ← attempt (System.mkFilePath [path.text]).metadata with
  | .error fault => return .error fault
  | .ok metadata =>
    if metadata.type == .dir then return .error .directory
    match ← attempt (IO.FS.readBinFile path.text) with
    | .error fault => return .error fault
    | .ok bytes =>
      match String.fromUTF8? bytes with
      | some text => return .ok text
      | none => return .error .notText

/-- The entries of a directory. -/
def readEntries (path : Path) : IO (Except FileFault (List (String × FileKind))) :=
  attempt do
    let entries ← (System.mkFilePath [path.text]).readDir
    entries.toList.mapM fun entry => do
      return (entry.fileName, kindOf (← entry.path.symlinkMetadata).type)

/-- The files of the machine. -/
def files : FileAccess IO where
  kind path := attempt do
    return kindOf (← (System.mkFilePath [path.text]).symlinkMetadata).type
  target path := attempt do
    return kindOf (← (System.mkFilePath [path.text]).metadata).type
  entries := readEntries
  text := readText

/-- The time of the machine. -/
def now : IO Report.Timestamp := do
  let time ← Std.Time.Timestamp.now
  return ⟨time.toSecondsSinceUnixEpoch.val,
    (time.toNanosecondsSinceUnixEpoch.val % 1000000000).toNat⟩

/-- Whether text is colored: if the environment asks for it, or at a terminal unless the environment
asks for plain text. -/
def wantsColor : IO Bool := do
  match ← IO.getEnv "CLICOLOR_FORCE" with
  | some value => if value != "0" then return true
  | none => pure ()
  if (← IO.getEnv "NO_COLOR").isSome then return false
  (← IO.getStdout).isTty

/-- The setting in which the program runs. -/
def setting : IO (Setting IO) := do
  let start ← IO.monoNanosNow
  let time ← now
  return {
    color := ← wantsColor
    silent := (← IO.getEnv "RUST_LOG") == some "off"
    directory := ⟨(← IO.currentDir).toString⟩
    logTime := time.render
    time := time
    elapsed := do return Report.duration ((← IO.monoNanosNow) - start) }

end Main

end SqlLineage

/-- Runs the program. -/
def main (arguments : List String) : IO UInt32 := do
  let outcome ← SqlLineage.Program.run SqlLineage.Main.files (← SqlLineage.Main.setting) arguments
  IO.print outcome.output
  IO.eprint outcome.errors
  return outcome.exitCode.toUInt32
