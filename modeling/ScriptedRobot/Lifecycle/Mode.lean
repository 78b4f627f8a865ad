import ScriptedRobot.Lifecycle.Hook

/-! # Operating modes

The field selects one of five modes. Three of them are driven by a robot program and have their
own three hooks; in the other two the robot stands still. -/

namespace ScriptedRobot

/-- The operating mode of the robot. -/
inductive Mode where
  | disconnected
  | autonomous
  | teleop
  | disabled
  | test
  deriving Repr, DecidableEq

/-- Before the field selects a mode the robot is disconnected. -/
instance : Inhabited Mode := ⟨.disconnected⟩

namespace Mode

/-- The written name of the mode. -/
def name : Mode → String
  | .disconnected => "disconnected"
  | .autonomous => "autonomous"
  | .teleop => "teleop"
  | .disabled => "disabled"
  | .test => "test"

/-- Whether a robot program drives the mode. -/
def isScripted : Mode → Bool
  | .autonomous | .teleop | .test => true
  | .disconnected | .disabled => false

/-- The hook called once when the mode is entered. -/
def enterHook? : Mode → Option Hook
  | .autonomous => some .autonomousInit
  | .teleop => some .teleopInit
  | .test => some .testInit
  | .disconnected | .disabled => none

/-- The hook called on every tick. -/
def periodicHook? : Mode → Option Hook
  | .autonomous => some .autonomous
  | .teleop => some .teleop
  | .test => some .test
  | .disconnected | .disabled => none

/-- The hook called once when the mode is left. -/
def exitHook? : Mode → Option Hook
  | .autonomous => some .autonomousExit
  | .teleop => some .teleopExit
  | .test => some .testExit
  | .disconnected | .disabled => none

/-- How steps are called: only test mode reports a failure to the caller. -/
def periodicStyle : Mode → CallStyle
  | .test => .mustSucceed
  | _ => .fireAndForget

/-- Read a mode, whatever the case of its ASCII letters. The text in lower case is returned when
it names no mode. -/
def parse (text : String) : Except String Mode :=
  let lowered := text.map Char.toLower
  match lowered with
  | "disconnected" => .ok .disconnected
  | "autonomous" | "auto" => .ok .autonomous
  | "teleop" => .ok .teleop
  | "disabled" => .ok .disabled
  | "test" => .ok .test
  | _ => .error lowered

/-- The complaint about a text that names no mode. -/
def unknownMessage (text : String) : String :=
  "Unknown bot mode: " ++ text

end Mode

end ScriptedRobot
