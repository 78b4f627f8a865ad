import ScriptedRobot.Control.Program
import ScriptedRobot.Lifecycle.Mode
import ScriptedRobot.Ticker

/-! # Mode controller

The controller activates a mode, ticks it, and leaves it. One activation runs one program: first
the hooks of its start, then one step per tick, at last the hooks of its end. The first failure is
*latched*: it ends the activation's scripts, and from then on every tick is an all-stop. A tick is
an all-stop too without a pad, without a program, and in a mode that no program drives. -/

namespace ScriptedRobot.Control

/-- What a tick did with the robot. -/
inductive TickOutcome where
  /-- A program was in control. -/
  | scripted
  /-- The drivetrain was stopped. -/
  | allStop
  deriving Repr, DecidableEq

/-- The outcome as one word. -/
def TickOutcome.label : TickOutcome → String
  | .scripted => "Scripted"
  | .allStop => "AllStop"

/-- The current activation. -/
structure Controller (π : Type) where
  /-- The length of a tick in milliseconds. -/
  period : Int32
  /-- When to report that the loop is alive. -/
  ticker : Ticker
  mode : Mode := .disconnected
  program : Option (Program π) := none
  /-- The failure that ended the scripts of the activation. -/
  latched : Option ScriptError := none
  padConnected : Bool := false
  /-- Ticks in the activation. -/
  ticks : Nat := 0
  /-- All-stop ticks in the activation. -/
  allStopTicks : Nat := 0

namespace Controller

variable {ε π : Type}

/-- No mode is active. -/
def new (period : Int32) : Controller π where
  period := period
  ticker := .new "alive" 5 period

/-- The error to show: the latched one, or else that of the program. -/
def errorText? (controller : Controller π) : Option String :=
  match controller.latched with
  | some error => some error.message
  | none => (controller.program.filter Program.hasError).map Program.error

/-- The configured settings with the controller's own period. Settings that cannot be used are
reported and replaced. -/
def usableSettings (period : Int32) (configured : Shooter.Settings) :
    Shooter.Settings × List Event :=
  let settings := { configured with period }
  match settings.fault? with
  | none => (settings, [])
  | some fault =>
    ({ period }, [⟨.warning, .shooter, fault.message ++ ", using defaults"⟩])

/-- Prepare the shooter for a new activation. -/
def resetShooter (scripting : Scripting ε π) (controller : Controller π) (world : World ε) :
    World ε :=
  let (configured, world) := scripting.settings world
  let (settings, events) := usableSettings controller.period configured
  world.act fun rig => (rig.changeShooter fun shooter => shooter.reset settings, events)

/-- The hooks that start a program in a mode. -/
def startHooks (mode : Mode) : List Hook :=
  [.init, .prepare] ++ mode.enterHook?.toList

/-- The hooks that end a program in a mode. -/
def endHooks (mode : Mode) : List Hook :=
  mode.exitHook?.toList ++ [.cleanup]

/-- Load a program and start it. -/
def startProgram (scripting : Scripting ε π) (name : String) (controller : Controller π)
    (world : World ε) : Except ScriptError Unit × Controller π × World ε :=
  let (program, world) := scripting.load name world
  match program.kind with
  | some kind =>
    let error : ScriptError := ⟨kind, program.error⟩
    (.error error, { controller with program := some program, latched := some error },
      world.note .error .scripts ("failed to load " ++ name ++ ": " ++ error.message))
  | none =>
    let world := world.note .info .scripts ("loaded program " ++ program.name)
    match program.invokeAll scripting (startHooks controller.mode) world with
    | (.ok (), program, world) => (.ok (), { controller with program := some program }, world)
    | (.error error, program, world) =>
      (.error error, { controller with program := some program, latched := some error }, world)

/-- The activation of a mode before anything of it has happened. -/
def activate (controller : Controller π) (mode : Mode) : Controller π :=
  { controller with mode, latched := none, program := none, ticks := 0, allStopTicks := 0 }

/-- Start the program of a mode that is driven by one. -/
def startMode (scripting : Scripting ε π) (programName : Option String)
    (controller : Controller π) (world : World ε) :
    Except ScriptError Unit × Controller π × World ε :=
  if controller.mode.isScripted then
    match programName with
    | some name => controller.startProgram scripting name world
    | none =>
      (.ok (), controller,
        world.note .warning .bot ("no program configured for " ++ controller.mode.name ++ " mode"))
  else (.ok (), controller, world)

/-- Activate a mode. A failure is latched and returned, and the activation goes on without
scripts. -/
def enter (scripting : Scripting ε π) (mode : Mode) (programName : Option String)
    (controller : Controller π) (world : World ε) :
    Except ScriptError Unit × Controller π × World ε :=
  let world := world.note .info .bot ("entering " ++ mode.name ++ " mode")
  let controller := controller.activate mode
  let world := controller.resetShooter scripting world
  let (result, controller, world) := controller.startMode scripting programName world
  (result, controller, scripting.collect world)

/-- Count a tick, and report that the loop is alive when that is due. -/
def countTick (controller : Controller π) (world : World ε) : Controller π × World ε :=
  let ticks := controller.ticks + 1
  let (due, ticker) := controller.ticker.tick
  let world := match due with
    | some count =>
      world.note .debug .bot (ticker.message ++ " (" ++ toString count ++ ") mode=" ++
        controller.mode.name ++ " ticks=" ++ toString ticks)
    | none => world
  ({ controller with ticks, ticker }, world)

/-- Read the pad; a pad that was plugged in or out is reported. -/
def pollPad (controller : Controller π) (world : World ε) : Controller π × World ε :=
  let connected := world.rig.pad.connected
  let world :=
    if connected == controller.padConnected then world
    else if connected then world.note .info .bot "gamepad connected"
    else world.note .warning .bot "gamepad disconnected"
  ({ controller with padConnected := connected }, world.act Rig.readPad)

/-- The hook of a step: the mode's own if the program has it, and the general one if not. -/
def stepHook (mode : Mode) (program : Program π) : Hook :=
  match mode.periodicHook? with
  | some hook => if program.hasHook hook then hook else .run
  | none => .run

/-- One step of the program. A failure is latched. -/
def runStep (scripting : Scripting ε π) (controller : Controller π) (world : World ε) :
    TickOutcome × Controller π × World ε :=
  match controller.program with
  | none => (.allStop, controller, world)
  | some program =>
    let hook := stepHook controller.mode program
    match program.call scripting hook controller.mode.periodicStyle world with
    | (.ok .failed, program, world) =>
      (.allStop,
        { controller with
          program := some program
          latched := some ⟨program.kind.getD .runtime, program.error⟩ },
        world)
    | (.ok _, program, world) => (.scripted, { controller with program := some program }, world)
    | (.error error, program, world) =>
      (.allStop, { controller with program := some program, latched := some error },
        program.noteFailure hook error world)

/-- Whether a program may run on this tick. -/
def isInControl (controller : Controller π) : Bool :=
  controller.mode.isScripted && controller.padConnected && controller.latched.isNone

/-- Stop the drivetrain on a tick that no program controls. -/
def stopUnless (outcome : TickOutcome) (controller : Controller π) (world : World ε) :
    Controller π × World ε :=
  match outcome with
  | .scripted => (controller, world)
  | .allStop =>
    ({ controller with allStopTicks := controller.allStopTicks + 1 }, world.act Rig.stopDrive)

/-- One control tick. The shooter advances once whatever the outcome. -/
def periodic (scripting : Scripting ε π) (controller : Controller π) (world : World ε) :
    TickOutcome × Controller π × World ε :=
  let (controller, world) := controller.countTick world
  let (controller, world) := controller.pollPad world
  let (outcome, controller, world) :=
    if controller.isInControl then controller.runStep scripting world
    else (.allStop, controller, world)
  let (controller, world) := controller.stopUnless outcome world
  (outcome, controller, world.changeRig Rig.tickShooter)

/-- End the program of an activation that has not failed. -/
def endProgram (scripting : Scripting ε π) (controller : Controller π) (world : World ε) :
    Except ScriptError Unit × World ε :=
  match controller.program, controller.latched with
  | some program, none =>
    let (result, _, world) := program.invokeAll scripting (endHooks controller.mode) world
    (result, world)
  | _, _ => (.ok (), world)

/-- Leave the mode: end the program, and stop the drivetrain and the shooter. -/
def exit (scripting : Scripting ε π) (controller : Controller π) (world : World ε) :
    Except ScriptError Unit × Controller π × World ε :=
  let world := world.note .info .bot ("leaving " ++ controller.mode.name ++ " mode")
  let (result, world) := controller.endProgram scripting world
  let world := world.act Rig.stopDrive
  let world := world.changeRig fun rig => rig.changeShooter Shooter.Sequence.stop
  (result, { controller with program := none, mode := .disconnected }, scripting.collect world)

end Controller

end ScriptedRobot.Control
