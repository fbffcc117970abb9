import SqlLineage.CommandLine.Spec

/-!
# Reading arguments

Options may stand in front of the command and behind it, with their values in the same argument or
in the next one; short options may share a dash. The first argument that asks for help or does not
fit ends the reading.
-/

namespace SqlLineage

namespace CommandLine

/-- Why arguments do not fit. -/
inductive UsageError
  /-- Nothing is known by this name. -/
  | unexpected (argument : String)
  /-- An option has no value. -/
  | noValue (name : String)
  /-- A switch has a value. -/
  | needlessValue (name : String)
  /-- A path is empty. -/
  | emptyValue (name : String)
  /-- An option is given twice. -/
  | repeated (name : String)
  /-- There is no command. -/
  | noCommand
deriving DecidableEq, Repr

/-- The message for a user. -/
def UsageError.message : UsageError → String
  | unexpected argument => "error: unexpected argument '" ++ argument ++ "' found"
  | noValue name => "error: a value is required for '--" ++ name ++ "' but none was supplied"
  | needlessValue name =>
    "error: unexpected value for '--" ++ name ++ "' found; no more were expected"
  | emptyValue name => "error: a value is required for '--" ++ name ++ "' but none was supplied"
  | repeated name => "error: the argument '--" ++ name ++ "' cannot be used multiple times"
  | noCommand => "error: '" ++ programName ++ "' requires a subcommand but one was not provided"

/-- Why the reading of arguments ends before their end. -/
inductive Stop
  /-- The help of a command is asked for, or that of the program if there is no command. -/
  | help (command : Option String)
  /-- The version is asked for. -/
  | version
  /-- The arguments do not fit. -/
  | misuse (error : UsageError)
deriving DecidableEq, Repr

/-- Options with their values. -/
structure Given where
  /-- The names of the switches. -/
  switches : List String
  /-- The names and values of the other options. -/
  values : List (String × String)
deriving DecidableEq, Repr, Inhabited

namespace Given

/-- No options. -/
def empty : Given :=
  ⟨[], []⟩

/-- Whether a switch is given. -/
def has (given : Given) (option : OptionSpec) : Bool :=
  given.switches.contains option.name

/-- The value of an option. -/
def value? (given : Given) (option : OptionSpec) : Option String :=
  given.values.lookup option.name

end Given

/-- A place on the command line: of the program, or behind the name of a command. -/
structure Level where
  /-- The command. -/
  command : Option CommandSpec
  /-- The options. -/
  options : List OptionSpec

namespace Level

/-- The level of the program. -/
def program : Level :=
  ⟨none, sharedOptions ++ [helpOption, versionOption]⟩

/-- The level behind the name of a command. -/
def ofCommand (command : CommandSpec) : Level :=
  ⟨some command, command.options ++ sharedOptions ++ [helpOption]⟩

/-- The option of a name. -/
def named? (level : Level) (name : List Char) : Option OptionSpec :=
  level.options.find? fun option => option.name.toList == name

/-- The option of a letter. -/
def lettered? (level : Level) (letter : Char) : Option OptionSpec :=
  level.options.find? fun option => option.letter == some letter

/-- The options with a switch. -/
def switch (level : Level) (given : Given) (option : OptionSpec) : Except Stop Given :=
  if option = helpOption then .error (.help (level.command.map (·.name)))
  else if option = versionOption then .error .version
  else if given.has option then .error (.misuse (.repeated option.name))
  else .ok { given with switches := option.name :: given.switches }

/-- The options with the value of an option. -/
def store (given : Given) (option : OptionSpec) (value : String) : Except Stop Given :=
  if (given.value? option).isSome then .error (.misuse (.repeated option.name))
  else
    match option.value with
    | .path _ =>
      if value.isEmpty then .error (.misuse (.emptyValue option.name))
      else .ok { given with values := (option.name, value) :: given.values }
    | _ => .ok { given with values := (option.name, value) :: given.values }

/-- The options with an argument behind two dashes, and the option whose value is in the next
argument. -/
def readLong (level : Level) (given : Given) (argument : List Char) :
    Except Stop (Given × Option OptionSpec) :=
  let name := argument.takeWhile (· ≠ '=')
  let attached := argument.dropWhile (· ≠ '=')
  match level.named? name with
  | none => .error (.misuse (.unexpected ("--" ++ String.ofList argument)))
  | some option =>
    match option.value, attached with
    | .switch, [] => (level.switch given option).map fun given => (given, none)
    | .switch, _ => .error (.misuse (.needlessValue option.name))
    | _, [] => .ok (given, some option)
    | _, _ :: value => (store given option (String.ofList value)).map fun given => (given, none)

/-- The options with the letters behind one dash, and the option whose value is in the next
argument. -/
def readShort (level : Level) (given : Given) :
    List Char → Except Stop (Given × Option OptionSpec)
  | [] => .ok (given, none)
  | letter :: rest =>
    match level.lettered? letter with
    | none => .error (.misuse (.unexpected ("-" ++ String.singleton letter)))
    | some option =>
      match option.value, rest with
      | .switch, rest => do
        let given ← level.switch given option
        level.readShort given rest
      | _, [] => .ok (given, some option)
      | _, '=' :: value => (store given option (String.ofList value)).map fun given => (given, none)
      | _, value => (store given option (String.ofList value)).map fun given => (given, none)

/-- The options that arguments give, up to the name of a command, and what comes behind it.
`pending` is the option whose value is in the first argument. -/
def read (level : Level) (given : Given) (pending : Option OptionSpec) :
    List String → Except Stop (Given × Option (String × List String))
  | [] =>
    match pending with
    | some option => .error (.misuse (.noValue option.name))
    | none => .ok (given, none)
  | argument :: rest =>
    match argument.toList, pending with
    | ['-', '-'], none =>
      match rest with
      | [] => .ok (given, none)
      | other :: _ => .error (.misuse (.unexpected other))
    | '-' :: _ :: _, some option => .error (.misuse (.noValue option.name))
    | '-' :: '-' :: long, none => do
      let (given, pending) ← level.readLong given long
      level.read given pending rest
    | '-' :: letter :: letters, none => do
      let (given, pending) ← level.readShort given (letter :: letters)
      level.read given pending rest
    | _, some option => do
      let given ← store given option argument
      level.read given none rest
    | _, none =>
      if level.command.isNone then .ok (given, some (argument, rest))
      else .error (.misuse (.unexpected argument))

end Level

/-- What the arguments of the command for help ask for. -/
def helpStop : List String → Stop
  | [] => .help none
  | [name] =>
    if name = helpCommand ∨ commands.any (·.name == name) then .help (some name)
    else .misuse (.unexpected name)
  | first :: second :: _ =>
    if first = helpCommand ∨ commands.any (·.name == first) then .misuse (.unexpected second)
    else .misuse (.unexpected first)

/-- The command that arguments name, and the options in front of it and behind it. -/
def readArguments (arguments : List String) : Except Stop (CommandSpec × Given × Given) := do
  let (before, named) ← Level.program.read .empty none arguments
  match named with
  | none => throw (.misuse .noCommand)
  | some (name, rest) =>
    if name = helpCommand then throw (helpStop rest)
    match commands.find? (·.name == name) with
    | none => throw (.misuse (.unexpected name))
    | some command =>
      let (behind, _) ← (Level.ofCommand command).read .empty none rest
      return (command, before, behind)

end CommandLine

end SqlLineage
