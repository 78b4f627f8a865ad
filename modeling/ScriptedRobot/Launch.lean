import ScriptedRobot.CommandLine
import ScriptedRobot.Console
import ScriptedRobot.Control.Activation
import ScriptedRobot.Engine.Loader
import ScriptedRobot.Setup.Layers

/-! # Launching the robot

One run of the program: the command line is read, the setup loaded, the engine started, and one
activation of a mode is driven on simulated hardware. What a run prints, how it ends and which
files it leaves is a function of its arguments and of what surrounds it. -/

namespace ScriptedRobot

/-- The version of the program. -/
def version : String := "0.4.0"

/-- What is left of a run. -/
structure Outcome where
  status : Nat := 0
  output : String := ""
  error : Option String := none
  files : Files
  /-- What was reported, as far as the run got beyond its preparations. -/
  journal : Array Event := #[]

namespace Launch

/-- Why a run ends before its time. -/
inductive Abort where
  /-- The path of the log file does not end in a name. -/
  | logPath (path : String)
  /-- The log file cannot be opened. -/
  | logFile
  | setup (failure : Setup.Failure)
  | engine (raised : Script.Value)
  | period (milliseconds : Int32)

/-- What is reported about an early end. -/
def Abort.message? : Abort → Option String
  | .logPath path => some ("invalid log file path: " ++ path)
  | .logFile => none
  | .setup failure => some failure.message
  | .engine raised => some (Engine.complaint raised)
  | .period milliseconds =>
    some ("control period must be positive, got " ++ toString milliseconds.toInt ++ " ms")

/-- The exit status of an early end. A log file that cannot be opened is a crash. -/
def Abort.status : Abort → Nat
  | .logFile => 101
  | _ => 1

/-- Open the log file, which makes it. -/
def openLog (path? : Option String) (files : Files) : Except Abort Files :=
  match path? with
  | none => .ok files
  | some path =>
    if (Path.fileName? path).isNone then .error (.logPath path)
    else
      match files.touch? path with
      | some files => .ok files
      | none => .error .logFile

/-- Where scripts are searched for, if that was asked for or configured. -/
def searchPath? (request : CommandLine.Request) (setup : Setup.HostSetup) : Option String :=
  request.scripts <|> setup.scripts.searchPath

/-- Start the engine and load the configuration of the robot. It goes on without one. -/
def startEngine (searchPath? : Option String) (candidates : List String) (marker : String)
    (files : Files) : Except Abort Host :=
  let host := Engine.start { scripts := { files } }
  match Engine.setSearchPath (searchPath?.getD "") host with
  | (.error raised, _) => .error (.engine raised)
  | (.ok (), host) => .ok (Engine.bootstrap candidates marker host).2

/-- Publish or retract subsystems one after the other, up to the first that fails. -/
def forAll (action : Subsystem → Host → Except Script.Value Unit × Host) :
    List Subsystem → Host → Except Abort Host
  | [], host => .ok host
  | subsystem :: rest, host =>
    match action subsystem host with
    | (.ok (), host) => forAll action rest host
    | (.error raised, _) => .error (.engine raised)

/-- What scripts configure of the run itself. -/
def configured {α : Type} (reading : Configuration.Lookup (Script.Run Rig) → Script.Run Rig α)
    (fallback : α) (host : Host) : α × Host :=
  Engine.ask (reading Configuration.Global.lookup) fallback host

/-- How long a tick is: as asked for, as set up, or as the robot is configured. -/
def choosePeriod (asked setUp : Option Int32) (host : Host) : Except Abort (Int32 × Host) :=
  let (period, host) := match asked <|> setUp with
    | some period => (period, host)
    | none => configured Configuration.Lookup.enginePeriod 0 host
  if period ≤ 0 then .error (.period period) else .ok (period, host)

/-- A robot on simulated hardware, with a shooter as configured and a pad that sweeps. -/
def assemble (host : Host) : Host :=
  let (settings, host) := Engine.scripting.settings host
  { host with rig := { shooter := .new settings, pad := .sweeping 50 } }

/-- The banner of a run. -/
def banner (period : Int32) (host : Host) : Console.Banner × Host :=
  let (runtime, host) := Engine.ask Engine.version "" host
  let (teamName, host) := configured Configuration.Lookup.teamName "" host
  let (teamNumber, host) := configured Configuration.Lookup.teamNumber 0 host
  ({ version, runtime, teamName, teamNumber := teamNumber.toInt
     searchDirectory := host.scripts.searchDirectory, period := period.toInt }, host)

/-- The summary of an activation, with the rig as it was left. -/
def summary (activation : Control.Activation) (report : Control.Report) (rig : Rig) :
    Console.Summary where
  mode := activation.mode
  program := activation.program
  ticks := report.ticks
  allStopTicks := report.allStopTicks
  error := report.error
  shooter := rig.shooter.phase.label
  driveSpeed := rig.drivetrain.speed
  driveRotation := rig.drivetrain.rotation
  primaryVolts := rig.volts.primary
  secondaryVolts := rig.volts.secondary

/-- The activation that a request asks for. -/
def activationOf (request : CommandLine.Request) (setup : Setup.HostSetup) (period : Int32) :
    Control.Activation where
  mode := request.mode
  program := request.program <|> setup.programs.programFor? request.mode
  period := period
  ticks := request.ticks.getD setup.control.ticks

/-- A run that got beyond its preparations: what it printed, what was reported, and whether it
came to its end. -/
structure Progress where
  output : String
  journal : Array Event
  ending : Except Abort Unit := .ok ()

/-- Retract the rig at the end of a run. -/
def retire (output : String) (host : Host) : Progress :=
  match forAll Engine.unbind Subsystem.all.reverse host with
  | .ok host => { output, journal := host.journal }
  | .error abort => { output, journal := host.journal, ending := .error abort }

/-- Drive one activation on an engine that is ready: the rig is bound before and retracted
after it. -/
def activate (request : CommandLine.Request) (setup : Setup.HostSetup) (host : Host) :
    Except Abort Progress := do
  let (period, host) ← choosePeriod request.period setup.control.period host
  let host ← forAll Engine.bind Subsystem.all (assemble host)
  let (banner, host) := banner period host
  let activation := activationOf request setup period
  let (report, host) := activation.run Engine.scripting host
  let output := banner.text false ++ "\n" ++ (summary activation report host.rig).text false ++ "\n"
  return retire output host

/-- List the programs. -/
def listPrograms (host : Host) : Progress :=
  let (programs, host) := Engine.listPrograms host
  { output := Console.programList false host.scripts.searchDirectory programs ++ "\n"
    journal := host.journal }

/-- Carry out a request that needs an engine. -/
def carryOut (request : CommandLine.Request) (surroundings : Setup.Surroundings) (files : Files) :
    Except Abort Progress := do
  let setup ← (Setup.load { surroundings with files } request.config).mapError Abort.setup
  let candidates := setup.scripts.candidates files.workingDirectory surroundings.launchedFrom
  let host ← startEngine (searchPath? request setup) candidates setup.scripts.marker files
  if request.listPrograms then return listPrograms host
  else activate request setup host

/-- The outcome of a run that was ended early. -/
def aborted (abort : Abort) (files : Files) : Outcome :=
  { status := abort.status, error := abort.message?, files }

/-- The outcome of a run that got beyond its preparations. -/
def Progress.outcome (progress : Progress) (files : Files) : Outcome :=
  let outcome : Outcome := match progress.ending with
    | .ok () => { files }
    | .error abort => aborted abort files
  { outcome with output := progress.output, journal := progress.journal }

/-- Answer a request. -/
def answer (request : CommandLine.Request) (surroundings : Setup.Surroundings) : Outcome :=
  let files := surroundings.files
  if request.showConfig then
    { output := Console.configurationSources (Setup.sources surroundings request.config) ++ "\n"
      files }
  else
    match openLog request.logFile files with
    | .error abort => aborted abort files
    | .ok files =>
      match carryOut request surroundings files with
      | .error abort => aborted abort files
      | .ok progress => progress.outcome files

/-- What a command line without a request makes the program print. -/
def replyTo : CommandLine.Refusal → String
  | .versionRequested => "luabot " ++ version ++ "\n"
  | .helpRequested => CommandLine.usage
  | _ => ""

/-- Run the program. A command line without a request ends the run at once. -/
def run (arguments : List String) (surroundings : Setup.Surroundings) : Outcome :=
  match CommandLine.parse arguments with
  | .ok request => answer request surroundings
  | .error refusal =>
    { status := refusal.exitStatus, output := replyTo refusal, files := surroundings.files }

end Launch

end ScriptedRobot
