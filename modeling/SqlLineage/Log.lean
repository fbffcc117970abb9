/-!
# The log

What the program does is told in records. A record is shown on one line: when it was made, how much
it matters, which part of the program made it, what happened, and to what.
-/

namespace SqlLineage

/-- How much a record matters. -/
inductive LogLevel
  /-- Something failed. -/
  | error
  /-- Something was left out. -/
  | warning
  /-- Something was finished. -/
  | info
  /-- A step on the way. -/
  | debug
deriving DecidableEq, Repr

namespace LogLevel

/-- The name of a level, in five places. -/
def label : LogLevel → String
  | error => "ERROR"
  | warning => " WARN"
  | info => " INFO"
  | debug => "DEBUG"

/-- Whether records of a level are shown: all of them if the program is to be verbose, and else those
that tell of something that went wrong. -/
def isShown (verbose : Bool) : LogLevel → Bool
  | error => true
  | warning => true
  | info => verbose
  | debug => verbose

end LogLevel

/-- A record of the log. -/
structure LogRecord where
  /-- How much it matters. -/
  level : LogLevel
  /-- The part of the program that made it. -/
  part : String
  /-- What happened. -/
  message : String
  /-- To what it happened: names and values. -/
  fields : List (String × String)
deriving DecidableEq, Repr

/-- The record as it is shown at a time. -/
def LogRecord.render (time : String) (record : LogRecord) : String :=
  time ++ " " ++ record.level.label ++ " job_lineage::" ++ record.part ++ ": " ++ record.message ++
    String.join (record.fields.map fun (name, value) => " " ++ name ++ "=" ++ value)

end SqlLineage
