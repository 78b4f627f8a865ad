import ScriptedRobot.Capability.Grant
import ScriptedRobot.Rig
import ScriptedRobot.Script.Argument

/-! # Capabilities of the rig

What scripts can do with each subsystem: command the shooter and ask for its phase, drive, and
read the snapshot of the operator's pad. Arguments are taken before anything happens, so that a
call either acts once or fails and changes nothing. -/

namespace ScriptedRobot.Capability

open Script (Value Neutral ArgumentFault)

/-- The complaint of a subsystem whose lock was left behind. -/
def poisonMessage (subsystem : Subsystem) : String :=
  subsystem.name ++ " lock poisoned: poisoned lock: another task failed inside"

/-- A capability of a subsystem: take the arguments, and act unless the subsystem is poisoned. -/
def ofSubsystem {α : Type} (subsystem : Subsystem) (symbol : String) (neutral : Neutral)
    (takeArguments : List Value → Except ArgumentFault α)
    (act : α → Rig → List Value × Rig × List Event) : Capability Rig where
  symbol := symbol
  neutral := neutral
  perform arguments rig :=
    match takeArguments arguments with
    | .error fault => (.fails fault.message, rig, [])
    | .ok taken =>
      if rig.poisoned.contains subsystem then (.fails (poisonMessage subsystem), rig, [])
      else
        let (values, rig, events) := act taken rig
        (.returns values, rig, events)

/-- No arguments are needed. -/
def noArguments (_ : List Value) : Except ArgumentFault Unit :=
  .ok ()

/-- A command to the shooter. -/
def shooterCommand (symbol : String) (change : Shooter.Sequence → Shooter.Sequence) :
    Capability Rig :=
  ofSubsystem .shooter symbol .nothing noArguments fun _ rig => ([], rig.changeShooter change, [])

/-- A question to the shooter. -/
def shooterQuestion (symbol : String) (answer : Shooter.Sequence → Bool) : Capability Rig :=
  ofSubsystem .shooter symbol .no noArguments fun _ rig =>
    ([.boolean (answer rig.shooter)], rig, [])

/-- What scripts can do with the shooter. -/
def shooterCapabilities : List (Capability Rig) := [
  shooterCommand "load" .load,
  shooterCommand "intake" .intake,
  shooterCommand "shoot" .shoot,
  shooterCommand "stop" .stop,
  shooterQuestion "is_idle" Shooter.Sequence.isIdle,
  shooterQuestion "is_loading" Shooter.Sequence.isLoading,
  shooterQuestion "is_shooting" Shooter.Sequence.isShooting]

/-- A drive command within the range from minus one to one; what is not a number counts as
zero. -/
def normalized (value : Float) : Float :=
  if value.isNaN then 0.0
  else if value < -1.0 then -1.0
  else if 1.0 < value then 1.0
  else value

/-- A speed and a rotation, which may be missing. -/
def driveArguments (arguments : List Value) : Except ArgumentFault (Float × Float) := do
  let speed ← (Value.argument arguments 0).toFloat
  let rotation ← (Value.argument arguments 1).toOption Value.toFloat
  return (speed, rotation.getD 0.0)

/-- A command to the drivetrain. -/
def driveCommand : Capability Rig :=
  ofSubsystem .drivetrain "drive" .nothing driveArguments fun (speed, rotation) rig =>
    let (drivetrain, events) := rig.drivetrain.drive (normalized speed) (normalized rotation)
    ([], { rig with drivetrain }, events)

/-- What scripts can do with the drivetrain. -/
def drivetrainCapabilities : List (Capability Rig) := [
  driveCommand,
  ofSubsystem .drivetrain "stop" .nothing noArguments fun _ rig =>
    let (rig, events) := rig.stopDrive
    ([], rig, events)]

/-- A reading of the snapshot at a number. -/
def reading (symbol : String) (neutral : Neutral) (read : Gamepad.Snapshot → Int → Value) :
    Capability Rig :=
  ofSubsystem .gamepad symbol neutral (fun arguments => (Value.argument arguments 0).toInteger)
    fun index rig => ([read rig.snapshot index.toInt], rig, [])

/-- What scripts can read off the operator's pad. -/
def gamepadCapabilities : List (Capability Rig) := [
  reading "axis" .zero fun snapshot index => .number (snapshot.axis index),
  reading "button" .no fun snapshot index => .boolean (snapshot.button index),
  reading "pov" .zero fun snapshot index =>
    .number (Number.ofInt (snapshot.directionPad index).toInt)]

/-- What scripts can do with a subsystem. -/
def capabilitiesOf : Subsystem → List (Capability Rig)
  | .shooter => shooterCapabilities
  | .drivetrain => drivetrainCapabilities
  | .gamepad => gamepadCapabilities

/-- The symbols that are retracted with a subsystem. -/
def symbolsOf : Subsystem → List String
  | .shooter => ["load", "intake", "shoot", "stop", "is_idle", "is_loading", "is_shooting"]
  | .drivetrain => ["drive", "stop"]
  | .gamepad => ["axis", "button", "pov"]

/-- Whatever a subsystem publishes is retracted with it. -/
theorem symbolsOf_eq_map (subsystem : Subsystem) :
    symbolsOf subsystem = (capabilitiesOf subsystem).map Capability.symbol := by
  cases subsystem <;> rfl

end ScriptedRobot.Capability
