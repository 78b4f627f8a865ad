import ScriptedRobot.Lifecycle.Mode
import ScriptedRobot.Number.IntegerText

/-! # Command line

The arguments of the program. An option with a value takes it after an equals sign, from the rest
of a group of short options, or from the next argument, unless that looks like an option. A value
is examined when the option is complete, that is, when the next option starts or the arguments
end; an unknown argument is reported before that. -/

namespace ScriptedRobot.CommandLine

/-- How the command line is written. -/
def usage : String :=
  "Usage: luabot [options]\n\n" ++
  "  -m, --mode MODE        teleop, autonomous, test or disabled\n" ++
  "  -p, --program PROGRAM  the program to run\n" ++
  "  -t, --ticks TICKS      how many ticks to run for\n" ++
  "      --period MS        the length of a tick\n" ++
  "  -s, --scripts DIR      where scripts are\n" ++
  "      --fast             do not wait between ticks\n" ++
  "  -v, --verbose          report more, also if given again\n" ++
  "      --log-file FILE    where reports go as well\n" ++
  "      --config FILE      a file with settings\n" ++
  "      --list-programs    list the programs\n" ++
  "      --show-config      list the sources of settings\n"

/-- What the command line asks for. -/
structure Request where
  mode : Mode := .teleop
  program : Option String := none
  ticks : Option Nat := none
  period : Option Int32 := none
  scripts : Option String := none
  fast : Bool := false
  verbosity : Nat := 0
  logFile : Option String := none
  config : Option String := none
  listPrograms : Bool := false
  showConfig : Bool := false
  deriving Repr, DecidableEq

/-- Why no request was read. -/
inductive Refusal where
  | helpRequested
  | versionRequested
  | unknownArgument
  | invalidValue
  | valueValidation
  | argumentConflict
  | tooManyValues
  deriving Repr, DecidableEq

/-- The refusal as one word. -/
def Refusal.label : Refusal → String
  | .helpRequested => "DisplayHelp"
  | .versionRequested => "DisplayVersion"
  | .unknownArgument => "UnknownArgument"
  | .invalidValue => "InvalidValue"
  | .valueValidation => "ValueValidation"
  | .argumentConflict => "ArgumentConflict"
  | .tooManyValues => "TooManyValues"

/-- The exit status: asking for help or for the version is no failure. -/
def Refusal.exitStatus : Refusal → Nat
  | .helpRequested | .versionRequested => 0
  | _ => 2

/-- The options that take a value. -/
inductive ValueOption where
  | mode
  | program
  | ticks
  | period
  | scripts
  | logFile
  | config
  deriving Repr, DecidableEq

/-- The options without a value. -/
inductive Switch where
  | fast
  | verbose
  | listPrograms
  | showConfig
  | help
  | version
  deriving Repr, DecidableEq

/-- An option of either kind. -/
inductive Known where
  | takesValue (option : ValueOption)
  | switch (switch : Switch)
  deriving Repr, DecidableEq

/-- The option with a long name. -/
def Known.ofLong? : String → Option Known
  | "mode" => some (.takesValue .mode)
  | "program" => some (.takesValue .program)
  | "ticks" => some (.takesValue .ticks)
  | "period" => some (.takesValue .period)
  | "scripts" => some (.takesValue .scripts)
  | "log-file" => some (.takesValue .logFile)
  | "config" => some (.takesValue .config)
  | "fast" => some (.switch .fast)
  | "verbose" => some (.switch .verbose)
  | "list-programs" => some (.switch .listPrograms)
  | "show-config" => some (.switch .showConfig)
  | "help" => some (.switch .help)
  | "version" => some (.switch .version)
  | _ => none

/-- The option with a one-letter name. -/
def Known.ofShort? : Char → Option Known
  | 'm' => some (.takesValue .mode)
  | 'p' => some (.takesValue .program)
  | 't' => some (.takesValue .ticks)
  | 's' => some (.takesValue .scripts)
  | 'v' => some (.switch .verbose)
  | 'h' => some (.switch .help)
  | 'V' => some (.switch .version)
  | _ => none

/-- The modes that can be asked for. The case of letters matters here. -/
def modeOfArgument? : String → Option Mode
  | "teleop" => some .teleop
  | "autonomous" => some .autonomous
  | "test" => some .test
  | "disabled" => some .disabled
  | _ => none

/-- A request being read: what was asked for so far, which options with a value were complete,
and the option still open with its value, if it was given. -/
structure Progress where
  request : Request := {}
  given : List ValueOption := []
  pending : Option (ValueOption × Option String) := none
  /-- After a double dash nothing is an option. -/
  onlyPositional : Bool := false
  deriving Repr

namespace Progress

/-- Store the value of an option that was not given before. -/
def store (progress : Progress) (option : ValueOption) (value : String) :
    Except Refusal Progress := do
  if progress.given.contains option then throw .argumentConflict
  let request := progress.request
  let request ← match option with
    | .mode =>
      match modeOfArgument? value with
      | some mode => pure { request with mode }
      | none => throw .invalidValue
    | .program => pure { request with program := some value }
    | .ticks =>
      match Number.readNaturalBelow? Number.longWordCount value with
      | some ticks => pure { request with ticks := some ticks }
      | none => throw .valueValidation
    | .period =>
      match Number.readInt32? value with
      | some period => pure { request with period := some period }
      | none => throw .valueValidation
    | .scripts =>
      if value.isEmpty then throw .invalidValue else pure { request with scripts := some value }
    | .logFile =>
      if value.isEmpty then throw .invalidValue else pure { request with logFile := some value }
    | .config =>
      if value.isEmpty then throw .invalidValue else pure { request with config := some value }
  return { progress with request, given := option :: progress.given }

/-- Complete the option that is still open. -/
def resolve (progress : Progress) : Except Refusal Progress :=
  match progress.pending with
  | none => .ok progress
  | some (_, none) => .error .invalidValue
  | some (option, some value) => { progress with pending := none }.store option value

/-- Complete the open option, then turn a switch on. A switch that is not counted may be turned on
only once. -/
def turnOn (progress : Progress) (switch : Switch) : Except Refusal Progress := do
  let progress ← progress.resolve
  let request := progress.request
  match switch with
  | .help => throw .helpRequested
  | .version => throw .versionRequested
  | .verbose =>
    let verbosity := min 255 (request.verbosity + 1)
    return { progress with request := { request with verbosity } }
  | .fast =>
    if request.fast then throw .argumentConflict
    return { progress with request := { request with fast := true } }
  | .listPrograms =>
    if request.listPrograms then throw .argumentConflict
    return { progress with request := { request with listPrograms := true } }
  | .showConfig =>
    if request.showConfig then throw .argumentConflict
    return { progress with request := { request with showConfig := true } }

/-- Complete the open option, then start another one. A value attached to it completes it. -/
def start (progress : Progress) (option : ValueOption) (attached : Option String) :
    Except Refusal Progress := do
  let progress ← progress.resolve
  match attached with
  | some value => progress.store option value
  | none => return { progress with pending := some (option, none) }

/-- Read `--name` or `--name=value`. -/
def long (progress : Progress) (name : String) (attached : Option String) :
    Except Refusal Progress :=
  match Known.ofLong? name, attached with
  | none, _ => .error .unknownArgument
  | some (.takesValue option), _ => progress.start option attached
  | some (.switch _), some _ => .error .tooManyValues
  | some (.switch switch), none => progress.turnOn switch

/-- Read a group of short options. The first one that takes a value takes the rest of the group,
without an equals sign before it. -/
def short (progress : Progress) : List Char → Except Refusal Progress
  | [] => .ok progress
  | letter :: rest =>
    match Known.ofShort? letter with
    | none => .error .unknownArgument
    | some (.switch switch) => do
      let progress ← progress.turnOn switch
      progress.short rest
    | some (.takesValue option) =>
      match rest with
      | [] => progress.start option none
      | '=' :: value => progress.start option (some (String.ofList value))
      | value => progress.start option (some (String.ofList value))

/-- Take an argument that is not an option as the value of the open option. -/
def value (progress : Progress) (argument : String) : Except Refusal Progress :=
  match progress.pending with
  | some (option, none) => .ok { progress with pending := some (option, some argument) }
  | _ => .error .unknownArgument

/-- Read one argument. -/
def argument (progress : Progress) (argument : String) : Except Refusal Progress :=
  if progress.onlyPositional then .error .unknownArgument
  else
    match argument.toList with
    | ['-', '-'] => .ok { progress with onlyPositional := true }
    | '-' :: '-' :: rest =>
      let name := rest.takeWhile (· != '=')
      match rest.drop name.length with
      | [] => progress.long (String.ofList name) none
      | _ :: attached => progress.long (String.ofList name) (some (String.ofList attached))
    | ['-'] => progress.value argument
    | '-' :: rest => progress.short rest
    | _ => progress.value argument

end Progress

/-- Read a whole command line, without the name of the program. -/
def parse (arguments : List String) : Except Refusal Request := do
  let progress ← arguments.foldlM Progress.argument {}
  return (← progress.resolve).request

end ScriptedRobot.CommandLine
