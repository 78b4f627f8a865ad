import ScriptedRobot.Journal
import ScriptedRobot.Number.Decimal

/-! # Simulated drivetrain

A drivetrain that remembers the commands it received. A command that differs from the one before
is reported. -/

namespace ScriptedRobot.Hardware

/-- A speed and a rotation. -/
structure Command where
  speed : Float
  rotation : Float
  deriving Repr, DecidableEq

/-- To stand still. -/
def Command.still : Command := ⟨0.0, 0.0⟩

/-- The commands received, the latest first. -/
structure Drivetrain where
  received : List Command := []
  deriving Repr

namespace Drivetrain

/-- The last command; a new drivetrain stands still. -/
def last (drivetrain : Drivetrain) : Command :=
  drivetrain.received.headD .still

/-- The speed of the last command. -/
def speed (drivetrain : Drivetrain) : Float :=
  drivetrain.last.speed

/-- The rotation of the last command. -/
def rotation (drivetrain : Drivetrain) : Float :=
  drivetrain.last.rotation

/-- The number of commands. -/
def commands (drivetrain : Drivetrain) : Nat :=
  drivetrain.received.length

/-- Receive a command. -/
def drive (drivetrain : Drivetrain) (speed rotation : Float) : Drivetrain × List Event :=
  let changed := speed != drivetrain.speed || rotation != drivetrain.rotation
  let report : Event := ⟨.trace, .bot,
    "drive speed=" ++ Number.fixed 3 speed ++ " rotation=" ++ Number.fixed 3 rotation⟩
  (⟨⟨speed, rotation⟩ :: drivetrain.received⟩, if changed then [report] else [])

/-- Stopping is a command to stand still. -/
def stop (drivetrain : Drivetrain) : Drivetrain × List Event :=
  drivetrain.drive 0.0 0.0

/-- Whether the last command was to stand still. -/
def isStopped (drivetrain : Drivetrain) : Bool :=
  drivetrain.speed == 0.0 && drivetrain.rotation == 0.0

end Drivetrain

end ScriptedRobot.Hardware
