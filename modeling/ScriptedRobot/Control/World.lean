import ScriptedRobot.Lifecycle.Hook
import ScriptedRobot.Lifecycle.ScriptError
import ScriptedRobot.Rig

/-! # The world of the control loop

What the control loop acts on: the rig, the journal, and the scripts, of which it knows only how
to load a program and how to run a callback. A callback may change the whole world. -/

namespace ScriptedRobot.Control

/-- The rig and the journal, with scripts in a state of type `ε`. -/
structure World (ε : Type) where
  scripts : ε
  rig : Rig := {}
  journal : Array Event := #[]

namespace World

variable {ε : Type}

/-- Report an event. -/
def note (world : World ε) (severity : Severity) (source : Source) (message : String) : World ε :=
  { world with journal := world.journal.push ⟨severity, source, message⟩ }

/-- Act on the rig. -/
def act (world : World ε) (action : Rig → Rig × List Event) : World ε :=
  let (rig, events) := action world.rig
  { world with rig, journal := world.journal ++ events }

/-- Change the rig silently. -/
def changeRig (world : World ε) (change : Rig → Rig) : World ε :=
  { world with rig := change world.rig }

end World

/-- Why a callback failed. The cause may be unknown. -/
structure CallFailure where
  kind : Option ErrorKind
  message : String

/-- A program: its callbacks, of type `π`, in the order of `Hook.all`, and its current error. The
error is empty and without a cause while there is none. -/
structure Program (π : Type) where
  name : String
  callbacks : List (Hook × π) := []
  error : String := ""
  kind : Option ErrorKind := none

/-- How scripts are driven: loading a program, running a callback, reading the configured
settings of the shooter, and tidying up. -/
structure Scripting (ε π : Type) where
  load : String → World ε → Program π × World ε
  run : π → World ε → Except CallFailure Unit × World ε
  settings : World ε → Shooter.Settings × World ε
  collect : World ε → World ε

end ScriptedRobot.Control
