import ScriptedRobot.Deployed.Configuration
import ScriptedRobot.Launch
import ScriptedRobot.Script.Source

/-! # Command line

The program with the scripts it comes with. What surrounds a run is gathered here, and what the run
leaves is written out; all that happens in between is `ScriptedRobot.Launch.run`. -/

namespace ScriptedRobot

open Setup (Surroundings Variable)

/-- The scripts that the program comes with, in the directory where they are deployed. -/
def deployedFiles (workingDirectory : String) : Files :=
  let directory := ({} : Setup.ScriptSetup).deployDirectory
  Deployed.files.foldl
    (fun files (name, chunk) =>
      Files.write files (Path.join directory name) (.file (.script chunk)))
    { workingDirectory }

/-- The names of the variables that can set something. -/
def variableNames : List String :=
  let sectionNames (label : String) (keys : List String) : List String :=
    keys.map fun key => (Variable.nameStart ++ label ++ "__" ++ key).toUpper
  sectionNames "scripts" (Setup.scriptFields.map Setup.Field.key) ++
    sectionNames "control" (Setup.controlFields.map Setup.Field.key) ++
    sectionNames "programs" (Setup.programFields.map Setup.Field.key)

/-- The variables that are set. -/
def gatherVariables : IO (List Variable) := do
  variableNames.filterMapM fun name => do
    return (← IO.getEnv name).map fun value => { name, value }

/-- The directory with the configuration of all programs of the user. -/
def configurationDirectory : IO String := do
  match ← IO.getEnv "XDG_CONFIG_HOME", ← IO.getEnv "HOME" with
  | some directory, _ => return directory
  | none, some home => return Path.join home ".config"
  | none, none => return "/"

/-- Take in the file at a path, if there is one. -/
def gatherFile (files : Files) (path : String) : IO Files := do
  try return files.write path (.file (Script.Source.fileContent (← IO.FS.readFile path)))
  catch
    | .noFileOrDirectory .. => return files
    | _ => return files.write path (.file .unreadable)

/-- What surrounds a run with some arguments. -/
def gather (arguments : List String) : IO Surroundings := do
  let directory := (← IO.currentDir).toString
  let launchedFrom := ((← IO.appPath).parent.map toString).getD "/"
  let surroundings : Surroundings := {
    files := deployedFiles directory
    environment := ← gatherVariables
    configurationDirectory := ← configurationDirectory
    launchedFrom }
  let explicit? := (CommandLine.parse arguments).toOption.bind (·.config)
  let files ← (surroundings.filePaths explicit?).foldlM gatherFile surroundings.files
  return { surroundings with files }

/-- Write the log of a run to the console and to its log file. -/
def writeLog (request : CommandLine.Request) (outcome : Outcome) : IO Unit := do
  let log := String.join ((logLines request.verbosity outcome.journal).map (· ++ "\n"))
  IO.eprint log
  if let some path := request.logFile then
    if outcome.files.isFile path then
      IO.FS.createDirAll (Path.parent path)
      IO.FS.writeFile path log

end ScriptedRobot

open ScriptedRobot in
/-- Runs the program. -/
def main (arguments : List String) : IO UInt32 := do
  let outcome := Launch.run arguments (← gather arguments)
  IO.print outcome.output
  match CommandLine.parse arguments with
  | .ok request => writeLog request outcome
  | .error refusal =>
    if refusal.exitStatus ≠ 0 then
      IO.eprintln ("error: " ++ refusal.label ++ "\n" ++ CommandLine.usage)
  if let some message := outcome.error then IO.eprintln ("Error: " ++ message)
  return UInt32.ofNat outcome.status
