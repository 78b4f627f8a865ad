import ScriptedRobot.Proofs.Control.Activity

/-! # Shots in an activation

The operator gives a snapshot for every tick, or unplugs the pad. A tick starts a shot if the
shooter is idle when the tick begins and shooting when the program has made its step. At the end of
the tick it may be idle again, for a shot may last no longer than one tick.

A session is driven by a callback if a program without an error is loaded whose step it is. As long
as the callback completes, the session stays driven by it (`IsDriven.tick_plugged`,
`IsDriven.tick_unplugged`). -/

namespace ScriptedRobot.Control

open Gamepad (Snapshot)

variable {ε π : Type} {scripting : Scripting ε π}

/-! ## Completed hooks -/

namespace Program

variable {program : Program π} {hook : Hook} {world after : World ε}

theorem invoke_of_undefined (usable : program.kind = none)
    (undefined : program.callbacks.lookup hook = none) :
    program.invoke scripting hook world = (.ok .skipped, program.cleared, world) := by
  unfold invoke isUnusable
  rw [usable, undefined]
  rfl

theorem invoke_of_completed (usable : program.kind = none) {callback : π}
    (defined : program.callbacks.lookup hook = some callback)
    (ran : scripting.run callback world = (.ok (), after)) :
    program.invoke scripting hook world = (.ok .completed, program.cleared, after) := by
  unfold invoke isUnusable
  rw [usable, defined]
  dsimp only
  rw [ran]
  rfl

/-- The callbacks of some hooks, as far as there are any, complete one after the other. -/
inductive Completes (scripting : Scripting ε π) (callbacks : List (Hook × π)) :
    List Hook → World ε → World ε → Prop where
  | nil {world : World ε} : Completes scripting callbacks [] world world
  | undefined {hook : Hook} {hooks : List Hook} {world after : World ε}
      (undefined : callbacks.lookup hook = none)
      (rest : Completes scripting callbacks hooks world after) :
      Completes scripting callbacks (hook :: hooks) world after
  | defined {hook : Hook} {hooks : List Hook} {callback : π} {world between after : World ε}
      (defined : callbacks.lookup hook = some callback)
      (ran : scripting.run callback world = (.ok (), between))
      (rest : Completes scripting callbacks hooks between after) :
      Completes scripting callbacks (hook :: hooks) world after

theorem exists_invokeAll {callbacks : List (Hook × π)} {hooks : List Hook}
    (completes : Completes scripting callbacks hooks world after) (usable : program.kind = none)
    (same : program.callbacks = callbacks) :
    ∃ ended, program.invokeAll scripting hooks world = (.ok (), ended, after) ∧
      ended.kind = none ∧ ended.callbacks = callbacks := by
  induction completes generalizing program with
  | nil => exact ⟨program, rfl, usable, same⟩
  | undefined undefined _ ih =>
      unfold invokeAll
      rw [invoke_of_undefined usable (same ▸ undefined)]
      exact ih rfl same
  | defined defined ran _ ih =>
      unfold invokeAll
      rw [invoke_of_completed usable (same ▸ defined) ran]
      exact ih rfl same

end Program

/-! ## The operator -/

/-- The pad that gives a snapshot, or is unplugged. -/
def padFor : Option Snapshot → Hardware.Pad
  | some snapshot => { input := .held snapshot }
  | none => { connected := false, input := .held .neutral }

namespace Session

/-- The session with the pad that the operator gives for the next tick. -/
def given (input : Option Snapshot) (session : Session ε π) : Session ε π :=
  { session with world := session.world.changeRig fun rig => { rig with pad := padFor input } }

/-- A session after ticks for which the operator gives the pad. -/
def operated (scripting : Scripting ε π) (inputs : List (Option Snapshot))
    (session : Session ε π) : Session ε π :=
  inputs.foldl (fun session input => ((session.given input).tick scripting).2) session

/-- Whether the next tick starts a shot. -/
def startsShot (scripting : Scripting ε π) (input : Option Snapshot) (session : Session ε π) :
    Bool :=
  session.world.rig.shooter.isIdle &&
    ((session.given input).midTick scripting).2.2.rig.shooter.isShooting

/-- The number of ticks that start a shot. -/
def shots (scripting : Scripting ε π) : List (Option Snapshot) → Session ε π → Nat
  | [], _ => 0
  | input :: rest, session =>
    (session.startsShot scripting input).toNat +
      ((session.given input).tick scripting).2.shots scripting rest

theorem operated_concat (inputs : List (Option Snapshot)) (input : Option Snapshot)
    (session : Session ε π) : session.operated scripting (inputs ++ [input]) =
      (((session.operated scripting inputs).given input).tick scripting).2 :=
  List.foldl_append

theorem shots_append (earlier later : List (Option Snapshot)) (session : Session ε π) :
    session.shots scripting (earlier ++ later) = session.shots scripting earlier +
      (session.operated scripting earlier).shots scripting later := by
  induction earlier generalizing session with
  | nil => exact (Nat.zero_add _).symm
  | cons input rest ih =>
      rw [List.cons_append, shots, shots, ih, Nat.add_assoc]
      rfl

theorem shots_concat (inputs : List (Option Snapshot)) (input : Option Snapshot)
    (session : Session ε π) : session.shots scripting (inputs ++ [input]) =
      session.shots scripting inputs +
        ((session.operated scripting inputs).startsShot scripting input).toNat :=
  shots_append inputs [input] session

/-! ## Sessions that are driven -/

/-- A program without an error is loaded, and a callback is its step. -/
structure IsDriven (own : OwnHooks) (callback : π) (session : Session ε π) : Prop where
  mode : session.controller.mode.ownHooks? = some own
  latched : session.controller.latched = none
  program : ∃ program, session.controller.program = some program ∧ program.kind = none ∧
    program.callbacks.lookup own.step = some callback

/-- The world when a mode is entered and the shooter has been reset. -/
def readied (scripting : Scripting ε π) (mode : Mode) (session : Session ε π) : World ε :=
  (session.controller.activate mode).resetShooter scripting
    (session.world.note .info .bot ("entering " ++ mode.name ++ " mode"))

/-- The world when a program has been loaded, and the first hook is to be called. -/
def begun (scripting : Scripting ε π) (mode : Mode) (name : String) (session : Session ε π) :
    World ε :=
  let (program, loaded) := scripting.load name (session.readied scripting mode)
  loaded.note .info .scripts ("loaded program " ++ program.name)

theorem begun_eq {session : Session ε π} {mode : Mode} {name : String} {program : Program π}
    {loaded : World ε}
    (load : scripting.load name (session.readied scripting mode) = (program, loaded)) :
    session.begun scripting mode name =
      loaded.note .info .scripts ("loaded program " ++ program.name) := by
  unfold begun
  rw [load]

/-- A mode is entered when its program is loaded and the hooks of its start complete. -/
theorem exists_enter {session : Session ε π} {mode : Mode} {own : OwnHooks} {name : String}
    {program : Program π} {loaded after : World ε} {callback : π}
    (scripted : mode.ownHooks? = some own)
    (load : scripting.load name (session.readied scripting mode) = (program, loaded))
    (usable : program.kind = none)
    (completes : Program.Completes scripting program.callbacks [.init, .prepare, own.start]
      (loaded.note .info .scripts ("loaded program " ++ program.name)) after)
    (step : program.callbacks.lookup own.step = some callback) :
    ∃ entered, session.enter scripting mode (some name) = (.ok (), entered) ∧
      entered.world = scripting.collect after ∧ entered.IsDriven own callback := by
  obtain ⟨ended, invoked, usableEnded, same⟩ := Program.exists_invokeAll completes usable rfl
  have isScripted : mode.isScripted = true := by
    rw [mode.isScripted_eq, scripted]
    rfl
  have hooks : Controller.startHooks mode = [.init, .prepare, own.start] :=
    Mode.startHooks_eq scripted
  have started : (session.controller.activate mode).startMode scripting (some name)
      (session.readied scripting mode) =
        (.ok (), { session.controller.activate mode with program := some ended }, after) := by
    have active : (session.controller.activate mode).mode = mode := rfl
    unfold Controller.startMode
    rw [active, if_pos isScripted]
    dsimp only
    unfold Controller.startProgram
    rw [load]
    dsimp only
    rw [usable]
    dsimp only
    rw [active, hooks, invoked]
  refine ⟨⟨{ session.controller.activate mode with program := some ended },
    scripting.collect after⟩, ?_, rfl, scripted, rfl, ended, rfl, usableEnded, same ▸ step⟩
  have entered : session.enter scripting mode (some name) =
      let started := (session.controller.activate mode).startMode scripting (some name)
        (session.readied scripting mode)
      (started.1, ⟨started.2.1, scripting.collect started.2.2⟩) := rfl
  rw [entered, started]

namespace IsDriven

variable {own : OwnHooks} {callback : π} {session : Session ε π}

theorem midTick_unplugged (unplugged : session.world.rig.pad.connected = false) :
    session.midTick scripting = (.allStop, session.controller.polled session.world) := by
  refine midTick_of_not_inControl ?_
  rw [Controller.isInControl_polled, unplugged, Bool.and_false]
  rfl

/-- Without a pad the callback is not run, and the session stays driven by it. -/
theorem tick_unplugged (driven : session.IsDriven own callback)
    (unplugged : session.world.rig.pad.connected = false) :
    IsDriven own callback (session.tick scripting).2 := by
  obtain ⟨mode, latched, program, loaded, usable, step⟩ := driven
  rw [tick_eq (midTick_unplugged unplugged)]
  refine ⟨?_, ?_, program, ?_, usable, step⟩
  · exact (congrArg Mode.ownHooks? (session.controller.mode_polled session.world)).trans mode
  · exact (session.controller.latched_polled session.world).trans latched
  · exact (session.controller.program_polled session.world).trans loaded

/-- With a pad the callback is run on what the pad gives. -/
theorem tick_plugged (driven : session.IsDriven own callback)
    (plugged : session.world.rig.pad.connected = true) {after : World ε}
    (ran : scripting.run callback (session.controller.polled session.world).2 =
      (.ok (), after)) :
    (session.midTick scripting).2.2 = after ∧
      (session.tick scripting).2.world = after.changeRig Rig.tickShooter ∧
      IsDriven own callback (session.tick scripting).2 := by
  obtain ⟨mode, latched, program, loaded, usable, step⟩ := driven
  let controller := (session.controller.polled session.world).1
  have inControl : controller.isInControl = true := by
    rw [Controller.isInControl_polled, plugged, latched, Mode.isScripted_eq, mode]
    rfl
  have hook : Controller.stepHook controller.mode program = own.step := by
    have has : program.hasHook own.step = true := by
      rw [Program.hasHook, step]
      rfl
    unfold Controller.stepHook
    rw [Controller.mode_polled, Mode.periodicHook?_eq mode]
    dsimp only
    rw [if_pos has]
  have called : program.call scripting own.step controller.mode.periodicStyle
      (session.controller.polled session.world).2 = (.ok .completed, program.cleared, after) := by
    have invoked := Program.invoke_of_completed usable step ran
    unfold Program.call Program.fire
    rw [invoked]
    cases controller.mode.periodicStyle <;> rfl
  have middle : session.midTick scripting =
      (.scripted, { controller with program := some program.cleared }, after) := by
    have stepped : controller.runStep scripting (session.controller.polled session.world).2 =
        (.scripted, { controller with program := some program.cleared }, after) := by
      unfold Controller.runStep
      rw [Controller.program_polled, loaded]
      dsimp only
      rw [hook, called]
    unfold midTick
    dsimp only
    rw [if_pos inControl, stepped]
  rw [tick_eq middle, middle]
  refine ⟨rfl, rfl, ?_, ?_, program.cleared, rfl, rfl, step⟩
  · exact (congrArg Mode.ownHooks? (session.controller.mode_polled session.world)).trans mode
  · exact (session.controller.latched_polled session.world).trans latched

end IsDriven

end Session

end ScriptedRobot.Control
