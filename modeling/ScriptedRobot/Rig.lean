import ScriptedRobot.Hardware.Drivetrain
import ScriptedRobot.Hardware.Pad
import ScriptedRobot.Shooter.Sequence

/-! # The rig

Everything that a control tick moves or reads: the shooter and the volts on its wheels, the
drivetrain, the operator's pad, and the snapshot that programs read in place of the pad. -/

namespace ScriptedRobot

/-- The parts of the rig that scripts can use. -/
inductive Subsystem where
  | shooter
  | drivetrain
  | gamepad
  deriving Repr, DecidableEq

/-- The module that a subsystem appears as to scripts. -/
def Subsystem.name : Subsystem → String
  | .shooter => "shooter"
  | .drivetrain => "drivetrain"
  | .gamepad => "gamepad"

/-- Every subsystem. -/
def Subsystem.all : List Subsystem :=
  [.shooter, .drivetrain, .gamepad]

/-- The subsystems and devices of a robot. -/
structure Rig where
  shooter : Shooter.Sequence := .new default
  /-- The volts last applied to the wheels of the shooter. -/
  volts : Shooter.Volts := .off
  drivetrain : Hardware.Drivetrain := {}
  snapshot : Gamepad.Snapshot := .neutral
  pad : Hardware.Pad := .neutral
  /-- The subsystems whose lock a failing task left behind. Scripts are refused, while the control
  loop goes on. -/
  poisoned : List Subsystem := []

instance : Inhabited Rig := ⟨{}⟩

namespace Rig

/-- Command the drivetrain to stand still. -/
def stopDrive (rig : Rig) : Rig × List Event :=
  let (drivetrain, events) := rig.drivetrain.stop
  ({ rig with drivetrain }, events)

/-- One tick of the shooter. -/
def tickShooter (rig : Rig) : Rig :=
  let (volts, shooter) := rig.shooter.process
  { rig with volts, shooter }

/-- Change the shooter. -/
def changeShooter (rig : Rig) (change : Shooter.Sequence → Shooter.Sequence) : Rig :=
  { rig with shooter := change rig.shooter }

/-- The report of an axis that changed. -/
def axisEvent (snapshot : Gamepad.Snapshot) (axis : Nat) : Event :=
  ⟨.trace, .bot, "axis " ++ toString axis ++ " = " ++ Number.fixed 3 (snapshot.axis axis)⟩

/-- Copy the pad into the snapshot, with a report of every axis that changed. Without a pad the
snapshot is neutral. -/
def readPad (rig : Rig) : Rig × List Event :=
  if rig.pad.connected then
    let (snapshot, pad) := rig.pad.read rig.snapshot
    ({ rig with snapshot, pad },
      (snapshot.changedAxes rig.snapshot).map (axisEvent snapshot))
  else ({ rig with snapshot := .neutral }, [])

end Rig

end ScriptedRobot
