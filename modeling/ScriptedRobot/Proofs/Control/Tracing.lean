import ScriptedRobot.Proofs.Control.Session

/-! # Tracing scripts

Any scripts can be *traced*: a trace remembers every program that was loaded and every callback
that was run, in order. A callback carries the number of the load it came from, so that the trace
tells the programs of different activations apart. Tracing changes nothing: a traced session with
the trace erased is the session itself. -/

namespace ScriptedRobot.Control

/-- A program that was loaded: the hooks it has callbacks for, and its error if it has one. -/
structure Loaded where
  hooks : List Hook
  failure : Option ScriptError

/-- A callback that was run: the load it came from, its hook, why it failed if it did, and the
drivetrain as it left it. -/
structure Call where
  load : Nat
  hook : Hook
  failure : Option CallFailure
  drivetrain : Hardware.Drivetrain

/-- Scripts with a trace, oldest first. -/
structure Traced (ε : Type) where
  scripts : ε
  loads : List Loaded := []
  calls : List Call := []

/-- A callback with the number of the load it came from and its hook. -/
structure Labelled (π : Type) where
  load : Nat
  hook : Hook
  callback : π

variable {ε π : Type}

namespace World

/-- The world without the trace. -/
def erased (world : World (Traced ε)) : World ε :=
  ⟨world.scripts.scripts, world.rig, world.journal⟩

/-- The world with a trace. -/
def traced (world : World ε) (loads : List Loaded) (calls : List Call) : World (Traced ε) :=
  ⟨⟨world.scripts, loads, calls⟩, world.rig, world.journal⟩

/-- The programs that were loaded. -/
def loads (world : World (Traced ε)) : List Loaded :=
  world.scripts.loads

/-- The callbacks that were run. -/
def calls (world : World (Traced ε)) : List Call :=
  world.scripts.calls

variable (world : World (Traced ε))

@[simp] theorem erased_note (severity : Severity) (source : Source) (message : String) :
    (world.note severity source message).erased = world.erased.note severity source message := rfl

@[simp] theorem erased_changeRig (change : Rig → Rig) :
    (world.changeRig change).erased = world.erased.changeRig change := rfl

end World

namespace Program

/-- The program with labels on its callbacks. -/
def labelled (load : Nat) (program : Program π) : Program (Labelled π) where
  name := program.name
  callbacks := program.callbacks.map fun (hook, callback) => (hook, ⟨load, hook, callback⟩)
  error := program.error
  kind := program.kind

/-- The program without labels. -/
def erased (program : Program (Labelled π)) : Program π where
  name := program.name
  callbacks := program.callbacks.map fun (hook, callback) => (hook, callback.callback)
  error := program.error
  kind := program.kind

/-- The error of a program that was just loaded. -/
def failure? (program : Program π) : Option ScriptError :=
  program.kind.map fun kind => ⟨kind, program.error⟩

@[simp] theorem erased_labelled (load : Nat) (program : Program π) :
    (program.labelled load).erased = program := by
  unfold labelled erased
  rw [List.map_map]
  exact congrArg (Program.mk program.name · program.error program.kind) (List.map_id' _)

theorem lookup_map_callbacks {π' : Type} (change : Hook → π → π') (hook : Hook)
    (callbacks : List (Hook × π)) :
    (callbacks.map fun (hook, callback) => (hook, change hook callback)).lookup hook =
      (callbacks.lookup hook).map (change hook) := by
  induction callbacks with
  | nil => rfl
  | cons entry rest ih =>
      obtain ⟨key, callback⟩ := entry
      rw [List.map_cons, List.lookup_cons, List.lookup_cons, ih]
      by_cases same : hook = key
      · simp only [same, beq_self_eq_true, Option.map_some]
      · simp only [beq_eq_false_iff_ne.mpr same]

end Program

/-- What the trace remembers of a callback that was run. -/
def Labelled.record (callback : Labelled π) (ran : Except CallFailure Unit × World ε) : Call where
  load := callback.load
  hook := callback.hook
  failure := match ran.1 with
    | .ok () => none
    | .error failure => some failure
  drivetrain := ran.2.rig.drivetrain

/-- Scripts that are traced. -/
def Scripting.traced (scripting : Scripting ε π) : Scripting (Traced ε) (Labelled π) where
  load name world :=
    let (program, after) := scripting.load name world.erased
    (program.labelled world.loads.length,
      after.traced (world.loads ++ [⟨program.hooks, program.failure?⟩]) world.calls)
  run callback world :=
    let ran := scripting.run callback.callback world.erased
    (ran.1, ran.2.traced world.loads (world.calls ++ [callback.record ran]))
  settings world :=
    let (settings, after) := scripting.settings world.erased
    (settings, after.traced world.loads world.calls)
  collect world :=
    (scripting.collect world.erased).traced world.loads world.calls

namespace Controller

/-- The controller without labels. -/
def erased (controller : Controller (Labelled π)) : Controller π where
  period := controller.period
  ticker := controller.ticker
  mode := controller.mode
  program := controller.program.map Program.erased
  latched := controller.latched
  padConnected := controller.padConnected
  ticks := controller.ticks
  allStopTicks := controller.allStopTicks

end Controller

namespace Session

/-- The session without the trace. -/
def erased (session : Session (Traced ε) (Labelled π)) : Session ε π :=
  ⟨session.controller.erased, session.world.erased⟩

end Session

/-- A move that leaves the trace alone. -/
def Move.traced : Move ε → Move (Traced ε)
  | .enter mode programName => .enter mode programName
  | .tick => .tick
  | .exit => .exit
  | .outside change => .outside fun world => (change world.erased).traced world.loads world.calls

/-! ## Erasing the trace -/

/-- The outcome of an operation on a program without the trace. -/
def erasedCall {α : Type} :
    α × Program (Labelled π) × World (Traced ε) → α × Program π × World ε :=
  Prod.map id (Prod.map Program.erased World.erased)

/-- The outcome of an operation of the controller without the trace. -/
def erasedMove {α : Type} :
    α × Controller (Labelled π) × World (Traced ε) → α × Controller π × World ε :=
  Prod.map id (Prod.map Controller.erased World.erased)

variable (scripting : Scripting ε π)

namespace Scripting

variable (world : World (Traced ε))

theorem load_erased (name : String) :
    scripting.load name world.erased =
      Prod.map Program.erased World.erased (scripting.traced.load name world) :=
  Prod.ext (Program.erased_labelled _ _).symm rfl

theorem run_erased (callback : Labelled π) :
    scripting.run callback.callback world.erased =
      Prod.map id World.erased (scripting.traced.run callback world) := rfl

theorem settings_erased :
    scripting.settings world.erased =
      Prod.map id World.erased (scripting.traced.settings world) := rfl

end Scripting

namespace Program

variable (program : Program (Labelled π)) (world : World (Traced ε))

@[simp] theorem name_erased : program.erased.name = program.name := rfl

@[simp] theorem kind_erased : program.erased.kind = program.kind := rfl

@[simp] theorem lookup_erased (hook : Hook) :
    program.erased.callbacks.lookup hook =
      (program.callbacks.lookup hook).map Labelled.callback :=
  lookup_map_callbacks (fun _ => Labelled.callback) hook program.callbacks

@[simp] theorem hasHook_erased (hook : Hook) :
    program.erased.hasHook hook = program.hasHook hook := by
  unfold hasHook
  rw [lookup_erased, Option.isSome_map]

theorem invoke_erased (hook : Hook) :
    program.erased.invoke scripting hook world.erased =
      erasedCall (program.invoke scripting.traced hook world) := by
  unfold invoke
  by_cases unusable : program.isUnusable = true
  · rw [if_pos unusable, if_pos (show program.erased.isUnusable = true from unusable)]
    rfl
  · rw [if_neg unusable, if_neg (show ¬ program.erased.isUnusable = true from unusable),
      lookup_erased]
    cases program.callbacks.lookup hook with
    | none => rfl
    | some callback =>
        simp only [Option.map_some, Scripting.run_erased]
        rcases scripting.traced.run callback world with ⟨_ | _, _⟩ <;> rfl

theorem fire_erased (hook : Hook) :
    program.erased.fire scripting hook world.erased =
      erasedCall (program.fire scripting.traced hook world) := by
  unfold fire
  rw [invoke_erased]
  rcases program.invoke scripting.traced hook world with ⟨_ | _, _, _⟩ <;> rfl

theorem call_erased (hook : Hook) (style : CallStyle) :
    program.erased.call scripting hook style world.erased =
      erasedCall (program.call scripting.traced hook style world) := by
  cases style with
  | mustSucceed => exact invoke_erased scripting program world hook
  | fireAndForget =>
      simp only [call, fire_erased]
      rfl

theorem invokeAll_erased (hooks : List Hook) :
    program.erased.invokeAll scripting hooks world.erased =
      erasedCall (program.invokeAll scripting.traced hooks world) := by
  induction hooks generalizing program world with
  | nil => rfl
  | cons hook rest ih =>
      unfold invokeAll
      rw [invoke_erased]
      rcases program.invoke scripting.traced hook world with ⟨_ | _, after, reached⟩
      · rfl
      · exact ih after reached

end Program

namespace Controller

variable (controller : Controller (Labelled π)) (world : World (Traced ε))

@[simp] theorem mode_erased : controller.erased.mode = controller.mode := rfl

@[simp] theorem program_erased :
    controller.erased.program = controller.program.map Program.erased := rfl

@[simp] theorem latched_erased : controller.erased.latched = controller.latched := rfl

@[simp] theorem stepHook_erased (mode : Mode) (program : Program (Labelled π)) :
    stepHook mode program.erased = stepHook mode program := by
  unfold stepHook
  cases mode.periodicHook? with
  | none => rfl
  | some hook => simp only [Program.hasHook_erased]

theorem resetShooter_erased :
    controller.erased.resetShooter scripting world.erased =
      (controller.resetShooter scripting.traced world).erased := by
  unfold resetShooter
  rw [Scripting.settings_erased]
  rfl

theorem startProgram_erased (name : String) :
    controller.erased.startProgram scripting name world.erased =
      erasedMove (controller.startProgram scripting.traced name world) := by
  unfold startProgram
  rw [Scripting.load_erased]
  rcases scripting.traced.load name world with ⟨program, reached⟩
  cases failed : program.kind with
  | some kind =>
      simp only [Prod.map, Program.kind_erased, failed]
      rfl
  | none =>
      simp only [Prod.map, Program.kind_erased, failed, Program.name_erased, mode_erased]
      rw [← World.erased_note, Program.invokeAll_erased]
      rcases program.invokeAll scripting.traced (startHooks controller.mode) _ with ⟨_ | _, _⟩ <;>
        rfl

theorem startMode_erased (programName : Option String) :
    controller.erased.startMode scripting programName world.erased =
      erasedMove (controller.startMode scripting.traced programName world) := by
  unfold startMode
  by_cases scripted : controller.mode.isScripted = true
  · rw [if_pos scripted, if_pos (show controller.erased.mode.isScripted = true from scripted)]
    cases programName with
    | some name => exact startProgram_erased scripting controller world name
    | none => rfl
  · rw [if_neg scripted, if_neg (show ¬ controller.erased.mode.isScripted = true from scripted)]
    rfl

theorem enter_erased (mode : Mode) (programName : Option String) :
    controller.erased.enter scripting mode programName world.erased =
      erasedMove (controller.enter scripting.traced mode programName world) := by
  unfold enter
  rw [← World.erased_note]
  rw [show controller.erased.activate mode = (controller.activate mode).erased from rfl]
  dsimp only
  rw [resetShooter_erased, startMode_erased]
  rfl

theorem countTick_erased :
    controller.erased.countTick world.erased =
      Prod.map erased World.erased (controller.countTick world) := by
  unfold countTick
  simp only [show controller.erased.ticker = controller.ticker from rfl]
  rcases controller.ticker.tick with ⟨_ | _, _⟩ <;> rfl

theorem pollPad_erased :
    controller.erased.pollPad world.erased =
      Prod.map erased World.erased (controller.pollPad world) := by
  unfold pollPad
  simp only [show controller.erased.padConnected = controller.padConnected from rfl,
    show world.erased.rig = world.rig from rfl]
  split
  · rfl
  · split <;> rfl

theorem runStep_erased :
    controller.erased.runStep scripting world.erased =
      erasedMove (controller.runStep scripting.traced world) := by
  unfold runStep
  rw [program_erased]
  cases controller.program with
  | none => rfl
  | some program =>
      simp only [Option.map_some, stepHook_erased, Program.call_erased, mode_erased]
      rcases program.call scripting.traced (stepHook controller.mode program)
        controller.mode.periodicStyle world with ⟨_ | _ | _ | _, _⟩ <;> rfl

theorem stopUnless_erased (outcome : TickOutcome) :
    controller.erased.stopUnless outcome world.erased =
      Prod.map erased World.erased (controller.stopUnless outcome world) := by
  cases outcome <;> rfl

theorem periodic_erased :
    controller.erased.periodic scripting world.erased =
      erasedMove (controller.periodic scripting.traced world) := by
  unfold periodic
  rw [countTick_erased]
  simp only [Prod.map]
  rw [pollPad_erased]
  simp only [Prod.map]
  generalize controller.countTick world = counted
  generalize counted.1.pollPad counted.2 = polled
  by_cases driven : polled.1.isInControl = true
  · rw [if_pos driven, if_pos (show polled.1.erased.isInControl = true from driven),
      runStep_erased]
    simp only [erasedMove, Prod.map, id_eq, stopUnless_erased, World.erased_changeRig]
  · rw [if_neg driven, if_neg (show ¬ polled.1.erased.isInControl = true from driven)]
    rfl

theorem endProgram_erased :
    controller.erased.endProgram scripting world.erased =
      Prod.map id World.erased (controller.endProgram scripting.traced world) := by
  unfold endProgram
  rw [program_erased, latched_erased]
  cases controller.program with
  | none => rfl
  | some program =>
      cases controller.latched with
      | none =>
          simp only [Option.map_some, Program.invokeAll_erased, mode_erased]
          rfl
      | some _ => rfl

theorem exit_erased :
    controller.erased.exit scripting world.erased =
      erasedMove (controller.exit scripting.traced world) := by
  unfold exit
  rw [← World.erased_note, mode_erased]
  dsimp only
  rw [endProgram_erased]
  rfl

end Controller

namespace Session

variable (session : Session (Traced ε) (Labelled π))

theorem enter_erased (mode : Mode) (programName : Option String) :
    session.erased.enter scripting mode programName =
      Prod.map id erased (session.enter scripting.traced mode programName) := by
  unfold enter
  rw [show session.erased.controller = session.controller.erased from rfl,
    show session.erased.world = session.world.erased from rfl, Controller.enter_erased]
  rfl

theorem tick_erased :
    session.erased.tick scripting = Prod.map id erased (session.tick scripting.traced) := by
  unfold tick
  rw [show session.erased.controller = session.controller.erased from rfl,
    show session.erased.world = session.world.erased from rfl, Controller.periodic_erased]
  rfl

theorem exit_erased :
    session.erased.exit scripting = Prod.map id erased (session.exit scripting.traced) := by
  unfold exit
  rw [show session.erased.controller = session.controller.erased from rfl,
    show session.erased.world = session.world.erased from rfl, Controller.exit_erased]
  rfl

theorem step_erased (move : Move ε) :
    session.erased.step scripting move = (session.step scripting.traced move.traced).erased := by
  cases move with
  | enter mode programName => exact congrArg Prod.snd (enter_erased scripting session _ _)
  | tick => exact congrArg Prod.snd (tick_erased scripting session)
  | exit => exact congrArg Prod.snd (exit_erased scripting session)
  | outside change => rfl

/-- A run of a session is the traced run without the trace. -/
theorem run_erased (moves : List (Move ε)) :
    run scripting moves session.erased =
      (run scripting.traced (moves.map Move.traced) session).erased := by
  induction moves generalizing session with
  | nil => rfl
  | cons move rest ih =>
      rw [List.map_cons, run_cons, run_cons, step_erased]
      exact ih _

end Session

end ScriptedRobot.Control
