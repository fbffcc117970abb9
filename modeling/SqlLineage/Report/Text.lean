import SqlLineage.Report.Json
import SqlLineage.Report.Style

/-!
# The report for people

A result is written job by job, with headings that may be colored.
-/

namespace SqlLineage

namespace Report

/-- A heading and the tables of each job. -/
def summarySection (title : String) (map : OrderedMap Job (UniqueList String)) : String :=
  title ++ " #############\n" ++ String.join (map.toList.map fun (job, tables) =>
    "Job: " ++ job.display ++ "\n" ++
      String.join (tables.toList.map fun table => "\t" ++ table ++ "\n"))

/-- The tables that are read and then those that are written. -/
def summary (result : LineageResult) : String :=
  summarySection "Input tables" result.inputTables ++
    summarySection "Output tables" result.outputTables

/-- A title and its items, if there are any. -/
def itemLines (title : String) (items : List String) : String :=
  if items.isEmpty then ""
  else "  " ++ title ++ ":\n" ++ String.join (items.map fun item => "    • " ++ item ++ "\n")

/-- The tables of components, if the job has components. -/
def componentLines (color : Bool) (components : List (String × List String)) : String :=
  if components.isEmpty then ""
  else "  Components:\n" ++ String.join (components.map fun (id, tables) =>
    "    " ++ Style.cyan.apply color id ++ ": " ++ String.intercalate ", " tables ++ "\n")

/-- The lineage of a job. -/
def jobText (color : Bool) (result : LineageResult) (job : Job) : String :=
  "\nJob: " ++ Style.bold.apply color job.display ++ "\n" ++
    itemLines "Reads" (LineageResult.members result.inputTables job) ++
    itemLines "Writes" (LineageResult.members result.outputTables job) ++
    itemLines "Calls" (LineageResult.members result.functions job) ++
    componentLines color (result.components job.name)

/-- The lineage of all jobs. -/
def text (color : Bool) (result : LineageResult) : String :=
  "\n--- " ++ Style.green.apply color "Job Lineage" ++ " ---\n" ++
    String.join (result.jobs.map (jobText color result))

/-- How a search ended, as a warning if jobs failed. -/
def statsLine (color : Bool) (stats : SearchStats) : String :=
  let style := if stats.jobsFailed = 0 then Style.green else .yellow
  style.apply color s!"Searched {stats.jobsFound} jobs, {stats.jobsFailed} failed"

/-- The name of the program in large letters. -/
def bannerText : String :=
  "\n   _       _       _ _\n" ++
  "  (_) ___ | |__   | (_)_ __   ___  __ _  __ _  ___\n" ++
  "  | |/ _ \\| '_ \\  | | | '_ \\ / _ \\/ _` |/ _` |/ _ \\\n" ++
  "  | | (_) | |_) | | | | | | |  __/ (_| | (_| |  __/\n" ++
  " _/ |\\___/|_.__/  |_|_|_| |_|\\___|\\__,_|\\__, |\\___|\n" ++
  "|__/                                    |___/\n    "

/-- The name of the program in large letters, colored if that is wanted. -/
def banner (color : Bool) : String :=
  Style.brightCyan.apply color bannerText

end Report

end SqlLineage
