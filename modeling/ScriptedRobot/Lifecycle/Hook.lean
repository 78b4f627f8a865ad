/-! # Lifecycle hooks

The named, optional callbacks a robot program may define, and how the control loop treats the
result of a call. The set is closed: a program's descriptor is searched for these names only. -/

namespace ScriptedRobot

/-- How the caller treats a failed call. -/
inductive CallStyle where
  /-- A failure is reported to the caller. -/
  | mustSucceed
  /-- A failure is logged and reported as an outcome. -/
  | fireAndForget
  deriving Repr, DecidableEq

/-- The style as one capitalised word. -/
def CallStyle.label : CallStyle → String
  | .mustSucceed => "MustSucceed"
  | .fireAndForget => "FireAndForget"

/-- A named callback of a robot program. Programs may use the generic names in every mode, the
three names of a mode, or both. -/
inductive Hook where
  | init
  | prepare
  | run
  | cleanup
  | teleopInit
  | teleop
  | teleopExit
  | autonomousInit
  | autonomous
  | autonomousExit
  | testInit
  | test
  | testExit
  deriving Repr, DecidableEq

namespace Hook

/-- Every hook, in the order in which a descriptor is searched. -/
def all : List Hook :=
  [.init, .prepare, .run, .cleanup, .teleopInit, .teleop, .teleopExit, .autonomousInit,
    .autonomous, .autonomousExit, .testInit, .test, .testExit]

/-- The key of the hook in a descriptor. -/
def name : Hook → String
  | .init => "init"
  | .prepare => "prepare"
  | .run => "run"
  | .cleanup => "cleanup"
  | .teleopInit => "teleop_init"
  | .teleop => "teleop"
  | .teleopExit => "teleop_exit"
  | .autonomousInit => "autonomous_init"
  | .autonomous => "autonomous"
  | .autonomousExit => "autonomous_exit"
  | .testInit => "test_init"
  | .test => "test"
  | .testExit => "test_exit"

/-- The name of the hook as one capitalised word. -/
def label : Hook → String
  | .init => "Init"
  | .prepare => "Prepare"
  | .run => "Run"
  | .cleanup => "Cleanup"
  | .teleopInit => "TeleopInit"
  | .teleop => "Teleop"
  | .teleopExit => "TeleopExit"
  | .autonomousInit => "AutonomousInit"
  | .autonomous => "Autonomous"
  | .autonomousExit => "AutonomousExit"
  | .testInit => "TestInit"
  | .test => "Test"
  | .testExit => "TestExit"

/-- The position of the hook in `all`. -/
def index : Hook → Nat
  | .init => 0
  | .prepare => 1
  | .run => 2
  | .cleanup => 3
  | .teleopInit => 4
  | .teleop => 5
  | .teleopExit => 6
  | .autonomousInit => 7
  | .autonomous => 8
  | .autonomousExit => 9
  | .testInit => 10
  | .test => 11
  | .testExit => 12

/-- Whether the hook is called on every tick and not at the border of a phase. -/
def isPeriodic : Hook → Bool
  | .run | .teleop | .autonomous | .test => true
  | _ => false

/-- Periodic steps are called on a best-effort basis; all other calls must succeed. -/
def callStyle (hook : Hook) : CallStyle :=
  if hook.isPeriodic then .fireAndForget else .mustSucceed

/-- The hook with a given name. -/
def ofName? (name : String) : Option Hook :=
  all.find? fun hook => hook.name == name

/-- The complaint about a text that names no hook. -/
def unknownMessage (text : String) : String :=
  "Unknown lifecycle hook: " ++ text

theorem mem_all (hook : Hook) : hook ∈ all := by
  cases hook <;> decide

theorem ofName?_name (hook : Hook) : ofName? hook.name = some hook := by
  cases hook <;> decide

theorem getElem?_all_index (hook : Hook) : all[hook.index]? = some hook := by
  cases hook <;> rfl

end Hook

end ScriptedRobot
