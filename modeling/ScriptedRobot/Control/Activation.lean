import ScriptedRobot.Control.Controller

/-! # Activations

One activation of a mode as a whole: the mode is entered, ticked a number of times, and left. Its
report counts the ticks and gives the first error, be it of the start, of a tick or of the end. -/

namespace ScriptedRobot.Control

variable {ε π : Type}

/-- Tick a number of times. -/
def Controller.tickTimes (scripting : Scripting ε π) :
    Nat → Controller π → World ε → Controller π × World ε
  | 0, controller, world => (controller, world)
  | count + 1, controller, world =>
    let (_, controller, world) := controller.periodic scripting world
    controller.tickTimes scripting count world

/-- The outcomes of a number of ticks. -/
def Controller.outcomes (scripting : Scripting ε π) :
    Nat → Controller π → World ε → List TickOutcome
  | 0, _, _ => []
  | count + 1, controller, world =>
    let (outcome, controller, world) := controller.periodic scripting world
    outcome :: controller.outcomes scripting count world

/-- An activation to be run. -/
structure Activation where
  mode : Mode
  program : Option String
  /-- The milliseconds from one tick to the next. -/
  period : Int32
  ticks : Nat

/-- What happened in an activation. -/
structure Report where
  ticks : Nat
  allStopTicks : Nat
  error : Option String
  deriving Repr, DecidableEq

namespace Activation

/-- Enter the mode. A failure is kept by the controller. -/
def start (activation : Activation) (scripting : Scripting ε π) (world : World ε) :
    Controller π × World ε :=
  (Controller.new activation.period |>.enter scripting activation.mode activation.program world).2

/-- Enter the mode and tick it. -/
def drive (activation : Activation) (scripting : Scripting ε π) (world : World ε) :
    Controller π × World ε :=
  let (controller, world) := activation.start scripting world
  controller.tickTimes scripting activation.ticks world

/-- The first error: the one that the controller keeps, or else that of leaving. -/
def firstError (kept : Option String) (left : Except ScriptError Unit) : Option String :=
  match kept, left with
  | some message, _ => some message
  | none, .error error => some error.message
  | none, .ok () => none

/-- Run an activation from its start to its end. -/
def run (activation : Activation) (scripting : Scripting ε π) (world : World ε) :
    Report × World ε :=
  let (controller, world) := activation.drive scripting world
  let (left, _, world) := controller.exit scripting world
  ({ ticks := controller.ticks
     allStopTicks := controller.allStopTicks
     error := firstError controller.errorText? left }, world)

end Activation

end ScriptedRobot.Control
