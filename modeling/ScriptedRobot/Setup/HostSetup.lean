import ScriptedRobot.Lifecycle.Mode
import ScriptedRobot.Path
import ScriptedRobot.Text.Blank

/-! # Setup of the host

What the host is told besides the program to run: where scripts are, how fast and how long the
control loop runs, and which program belongs to which mode. -/

namespace ScriptedRobot.Setup

/-- Where scripts are looked for. -/
structure ScriptSetup where
  /-- The directory of the scripts. Without it the candidates are searched. -/
  searchPath : Option String := none
  deployDirectory : String := "/home/lvuser/deploy"
  operatingDirectory : Option String := none
  launchDirectory : Option String := none
  /-- The file that marks a directory of scripts. -/
  marker : String := "config.lua"
  deriving Repr, DecidableEq

/-- How the control loop runs. -/
structure ControlSetup where
  /-- The milliseconds from one tick to the next, if the robot's own configuration does not
  decide. -/
  period : Option Int32 := none
  ticks : Nat := 250
  deriving Repr, DecidableEq

/-- The program of each scripted mode. An empty name stands for no program. -/
structure ProgramSetup where
  teleop : String := "teleop.bot"
  autonomous : String := "autonomous.bot"
  selfTest : String := "test.bot"
  deriving Repr, DecidableEq

/-- The whole setup. -/
structure HostSetup where
  scripts : ScriptSetup := {}
  control : ControlSetup := {}
  programs : ProgramSetup := {}
  deriving Repr, DecidableEq

instance : Inhabited HostSetup := ⟨{}⟩

/-- The directories that are searched for the marker, in order. The working directory and the one
the program was launched from stand in for directories that are not set. -/
def ScriptSetup.candidates (setup : ScriptSetup) (workingDirectory launchedFrom : String) :
    List String :=
  [setup.deployDirectory,
    Path.join (setup.operatingDirectory.getD workingDirectory) "robot",
    Path.join (setup.launchDirectory.getD launchedFrom) "robot"]

/-- The program of a mode. -/
def ProgramSetup.programFor? (setup : ProgramSetup) (mode : Mode) : Option String :=
  let name := match mode with
    | .teleop => setup.teleop
    | .autonomous => setup.autonomous
    | .test => setup.selfTest
    | .disabled | .disconnected => ""
  if name.isEmpty then none else some name

/-- Why a setup cannot be used. -/
inductive Unusable where
  | period (milliseconds : Int32)
  | noTicks
  | noMarker
  deriving Repr, DecidableEq

/-- The reason as one word. -/
def Unusable.label : Unusable → String
  | .period _ => "InvalidPeriod"
  | .noTicks => "ZeroTicks"
  | .noMarker => "EmptyMarker"

/-- The reason as a sentence. -/
def Unusable.message : Unusable → String
  | .period milliseconds =>
    "control.period_ms must be positive, got " ++ toString milliseconds.toInt
  | .noTicks => "control.ticks must be at least 1"
  | .noMarker => "scripts.marker must not be empty"

/-- Accept a setup with a positive period, at least one tick and a marker that is not blank. -/
def HostSetup.validate (setup : HostSetup) : Except Unusable Unit :=
  match setup.control.period.filter (· ≤ 0) with
  | some period => .error (.period period)
  | none =>
    if setup.control.ticks = 0 then .error .noTicks
    else if (Text.trim setup.scripts.marker).isEmpty then .error .noMarker
    else .ok ()

end ScriptedRobot.Setup
