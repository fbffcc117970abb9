import SqlLineage.CommandLine.Arguments
import SqlLineage.Report.Style

/-!
# Help

The help of the program lists its commands and options, and the help of a command lists the options
that may stand behind it, its own and the shared ones in the order in which they were declared.
-/

namespace SqlLineage

namespace CommandLine

namespace Help

/-- The title of a part of the help. -/
def heading (color : Bool) (title : String) : String :=
  Report.Style.heading.apply color (title ++ ":")

/-- Text that is to be typed as it is shown. -/
def literal (color : Bool) (text : String) : String :=
  Report.Style.bold.apply color text

/-- An entry of a table: what it is about, once with styles and once without, and the text for
it. -/
structure Entry where
  /-- What it is about, as it is shown. -/
  shown : String
  /-- How many characters that takes. -/
  width : Nat
  /-- The text for it. -/
  purpose : String

/-- The lines of entries, whose texts stand below each other. -/
def table (entries : List Entry) : String :=
  let width := (entries.map Entry.width).foldl max 0
  String.join (entries.map fun entry =>
    "  " ++ entry.shown ++ String.ofList (List.replicate (width - entry.width + 2) ' ') ++
      entry.purpose ++ "\n")

/-- How the value of an option is shown behind it. -/
def valueText : OptionValue → String
  | .switch => ""
  | .text shown => " <" ++ shown ++ ">"
  | .path shown => " <" ++ shown ++ ">"

/-- The forms of an option. -/
def forms (color : Bool) (option : OptionSpec) : String :=
  let short := match option.letter with
    | some letter => literal color ("-" ++ String.singleton letter) ++ ", "
    | none => "    "
  short ++ literal color ("--" ++ option.name) ++ valueText option.value

/-- The entry of an option. -/
def optionEntry (color : Bool) (option : OptionSpec) : Entry :=
  let standard := match option.standard with
    | some value => " [default: " ++ value ++ "]"
    | none => ""
  ⟨forms color option, (forms false option).length, option.purpose ++ standard⟩

/-- The letter by which options that were declared at the same place are ordered. -/
def orderKey (option : OptionSpec) : String :=
  match option.letter with
  | some letter => String.singleton letter
  | none => option.name

/-- The options of a command among the shared ones: both are in the order of their declaration, and
of two at the same place that of the lesser letter comes first. -/
def interleave : List OptionSpec → List OptionSpec → List OptionSpec
  | [], others => others
  | options, [] => options
  | option :: options, other :: others =>
    (if orderKey option < orderKey other then [option, other] else [other, option]) ++
      interleave options others

/-- The help with a purpose, a usage behind the word for it, and further parts. -/
def page (color : Bool) (purpose usage : String) (parts : List String) : String :=
  purpose ++ "\n\n" ++ heading color "Usage" ++ " " ++ usage ++ "\n" ++
    String.join (parts.map fun part => "\n" ++ part)

/-- The part of the help with options. -/
def optionPart (color : Bool) (options : List OptionSpec) : String :=
  heading color "Options" ++ "\n" ++ table (options.map (optionEntry color))

/-- The help of the program. -/
def program (color : Bool) : String :=
  let entries := (commands.map fun command => (command.name, command.purpose)) ++
    [(helpCommand, helpPurpose)]
  page color programPurpose (literal color programName ++ " [OPTIONS] <COMMAND>")
    [heading color "Commands" ++ "\n" ++ table (entries.map fun (name, purpose) =>
        ⟨literal color name, name.length, purpose⟩),
      optionPart color (sharedOptions ++ [helpOption, versionOption])]

/-- The help of a command. -/
def ofCommand (color : Bool) (command : CommandSpec) : String :=
  page color command.purpose (literal color (programName ++ " " ++ command.name) ++ " [OPTIONS]")
    [optionPart color (interleave command.options sharedOptions ++ [helpOption])]

/-- The help of the command for help. -/
def ofHelp (color : Bool) : String :=
  page color helpPurpose (literal color (programName ++ " " ++ helpCommand) ++ " [COMMAND]...")
    [heading color "Arguments" ++ "\n" ++
      table [⟨"[COMMAND]...", "[COMMAND]...".length, "Print help for the subcommand(s)"⟩]]

/-- The help that is asked for by the name of a command, or of the program. -/
def text (color : Bool) (command : Option String) : String :=
  match command with
  | none => program color
  | some name =>
    match commands.find? (·.name == name) with
    | some command => ofCommand color command
    | none => ofHelp color

end Help

end CommandLine

end SqlLineage
