import ScriptedRobot.Console
import ScriptedRobot.Files
import ScriptedRobot.Setup.Misfit
import ScriptedRobot.Setup.Variable
import ScriptedRobot.Toml.Document

/-! # Layers of settings

The setup comes from layers that lie over each other: the user's own file, the file of the
project, a file that is named explicitly, and the variables of the environment. For every key the
highest layer that sets it decides, and the default where none does. -/

namespace ScriptedRobot.Setup

/-- What surrounds a run. -/
structure Surroundings where
  files : Files := {}
  environment : List Variable := []
  /-- The directory with the configuration of all programs of the user. -/
  configurationDirectory : String := "/"
  /-- The directory that the program was launched from. -/
  launchedFrom : String := "/"

/-- Why there is no setup. -/
inductive Failure where
  /-- A file cannot be read, or is not written in TOML. -/
  | unreadable
  | misfit (misfit : Misfit)
  | unusable (reason : Unusable)

/-- What is reported about a missing setup. -/
def Failure.message : Failure → String
  | .unreadable => "failed to load configuration: a file cannot be read"
  | .misfit found =>
    "failed to load configuration: " ++ found.message ++ " for key \"" ++
      ".".intercalate found.path ++ "\""
  | .unusable reason => reason.message

/-- The file of the project, seen from the working directory. -/
def projectFile : String := "luabot.toml"

/-- The user's own file. -/
def Surroundings.globalFile (surroundings : Surroundings) : String :=
  Path.join surroundings.configurationDirectory "luabot/config.toml"

/-- The layer of a file. A path that leads to no file gives an empty one, and is not tried from the
directories above. -/
def fileLayer (files : Files) (path : String) : Except Failure Settings :=
  match files.content? path with
  | none => .ok []
  | some (.text content _) =>
    match Toml.parse? content with
    | some settings => .ok settings
    | none => .error .unreadable
  | some _ => .error .unreadable

/-- Layers of settings over each other, the lowest first. -/
def merge (layers : List Settings) : Settings :=
  layers.foldl overEntries []

/-- The setup of merged layers, if it can be used. -/
def setupOf (layers : List Settings) : Except Failure HostSetup := do
  let setup ← (HostSetup.ofSettings (merge layers)).mapError Failure.misfit
  setup.validate.mapError Failure.unusable
  return setup

/-- The files that may hold settings, the lowest layer first. -/
def Surroundings.filePaths (surroundings : Surroundings) (explicit? : Option String) :
    List String :=
  [surroundings.globalFile, projectFile] ++ explicit?.toList

/-- The setup from all layers. -/
def load (surroundings : Surroundings) (explicit? : Option String) : Except Failure HostSetup := do
  let layers ← (surroundings.filePaths explicit?).mapM (fileLayer surroundings.files)
  setupOf (layers ++ [Variable.settings surroundings.environment])

/-- The setup from a single file. -/
def loadFile (surroundings : Surroundings) (path : String) : Except Failure HostSetup := do
  setupOf [← fileLayer surroundings.files path]

/-- The files that may hold settings, the highest layer first, and whether they are there. -/
def sources (surroundings : Surroundings) (explicit? : Option String) :
    List Console.ConfigurationSource :=
  let source (label path : String) : Console.ConfigurationSource :=
    { label, path, found := surroundings.files.contains path }
  explicit?.toList.map (source "Explicit") ++
    [source "Project" projectFile, source "Global" surroundings.globalFile]

end ScriptedRobot.Setup
