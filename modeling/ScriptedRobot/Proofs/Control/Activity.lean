import ScriptedRobot.Proofs.Control.Calls

/-! # Activity of a session

Between two moves a session either runs a program that never failed, or it is silent: it has no
program, or its failure is latched. What entering, ticking and leaving do is told once for each of
the two, in terms of the calls they add to the trace. -/

namespace ScriptedRobot

/-- The hooks of a mode's own: at its start, on every tick, and at its end. -/
structure OwnHooks where
  start : Hook
  step : Hook
  finish : Hook

/-- The own hooks of the modes that are driven by a program. -/
def Mode.ownHooks? : Mode → Option OwnHooks
  | .autonomous => some ⟨.autonomousInit, .autonomous, .autonomousExit⟩
  | .teleop => some ⟨.teleopInit, .teleop, .teleopExit⟩
  | .test => some ⟨.testInit, .test, .testExit⟩
  | .disconnected | .disabled => none

namespace OwnHooks

/-- What is called on entering. -/
def beginning (own : OwnHooks) (defined : List Hook) : List Hook :=
  [.init, .prepare, own.start].filter defined.contains

/-- The hook of a step. -/
def stepHook (own : OwnHooks) (defined : List Hook) : Hook :=
  if defined.contains own.step then own.step else .run

/-- What is called on leaving. -/
def ending (own : OwnHooks) (defined : List Hook) : List Hook :=
  [own.finish, .cleanup].filter defined.contains

end OwnHooks

namespace Mode

theorem isScripted_eq (mode : Mode) : mode.isScripted = mode.ownHooks?.isSome := by
  cases mode <;> rfl

variable {mode : Mode} {own : OwnHooks}

theorem startHooks_eq (scripted : mode.ownHooks? = some own) :
    Control.Controller.startHooks mode = [.init, .prepare, own.start] := by
  cases mode <;> cases scripted <;> rfl

theorem endHooks_eq (scripted : mode.ownHooks? = some own) :
    Control.Controller.endHooks mode = [own.finish, .cleanup] := by
  cases mode <;> cases scripted <;> rfl

theorem periodicHook?_eq (scripted : mode.ownHooks? = some own) :
    mode.periodicHook? = some own.step := by
  cases mode <;> cases scripted <;> rfl

/-- What a failed step of unknown cause counts as. -/
def unknownCause (mode : Mode) : ErrorKind :=
  match mode.periodicStyle with
  | .mustSucceed => .native
  | .fireAndForget => .runtime

end Mode

namespace Control

variable {ε π : Type}

namespace Controller

variable (controller : Controller π) (world : World ε)

/-- The controller and the world at the moment when a tick decides who is in control. -/
def polled : Controller π × World ε :=
  (controller.countTick world).1.pollPad (controller.countTick world).2

theorem polled_controller : ∃ ticks ticker, (controller.polled world).1 =
    { controller with ticks, ticker, padConnected := world.rig.pad.connected } := by
  unfold polled pollPad countTick
  rcases controller.ticker.tick with ⟨_ | _, _⟩ <;> exact ⟨_, _, rfl⟩

@[simp] theorem mode_polled : (controller.polled world).1.mode = controller.mode := by
  obtain ⟨_, _, polled⟩ := controller.polled_controller world
  rw [polled]

@[simp] theorem program_polled : (controller.polled world).1.program = controller.program := by
  obtain ⟨_, _, polled⟩ := controller.polled_controller world
  rw [polled]

@[simp] theorem latched_polled : (controller.polled world).1.latched = controller.latched := by
  obtain ⟨_, _, polled⟩ := controller.polled_controller world
  rw [polled]

theorem countTick_world : (controller.countTick world).2.scripts = world.scripts ∧
    (controller.countTick world).2.rig = world.rig := by
  unfold countTick
  rcases controller.ticker.tick with ⟨_ | _, _⟩ <;> exact ⟨rfl, rfl⟩

theorem pollPad_world : (controller.pollPad world).2.scripts = world.scripts ∧
    (controller.pollPad world).2.rig = world.rig.readPad.1 := by
  unfold pollPad
  dsimp only
  split
  · exact ⟨rfl, rfl⟩
  · split <;> exact ⟨rfl, rfl⟩

theorem polled_scripts : (controller.polled world).2.scripts = world.scripts :=
  (pollPad_world _ _).1.trans (countTick_world controller world).1

theorem polled_rig : (controller.polled world).2.rig = world.rig.readPad.1 := by
  rw [polled, (pollPad_world _ _).2, (countTick_world controller world).2]

theorem isInControl_polled : (controller.polled world).1.isInControl =
    (controller.mode.isScripted && world.rig.pad.connected && controller.latched.isNone) := by
  obtain ⟨_, _, polled⟩ := controller.polled_controller world
  rw [polled]
  rfl

variable {controller world} in
theorem runStep_of_none (unloaded : controller.program = none) (scripting : Scripting ε π) :
    controller.runStep scripting world = (.allStop, controller, world) := by
  unfold runStep
  rw [unloaded]

theorem stepHook_eq {mode : Mode} {own : OwnHooks} (scripted : mode.ownHooks? = some own)
    (program : Program π) : stepHook mode program = own.stepHook program.hooks := by
  unfold stepHook OwnHooks.stepHook
  rw [Mode.periodicHook?_eq scripted]
  dsimp only
  rw [program.hasHook_eq_contains]

/-- A step of a program runs its callback if there is one, and latches its failure. -/
theorem runStep_traced {controller : Controller (Labelled π)} {program : Program (Labelled π)}
    {own : OwnHooks} {load : Nat} {hooks : List Hook}
    (scripted : controller.mode.ownHooks? = some own) (healthy : controller.latched = none)
    (loaded : controller.program = some program) (isLoad : program.IsLoad load hooks)
    (usable : program.kind = none) (scripting : Scripting ε π) (world : World (Traced ε)) :
    ∃ outcome after reached made,
      controller.runStep scripting.traced world = (outcome, after, reached) ∧
      Played load ([own.stepHook hooks].filter hooks.contains) world reached made ∧
      after.mode = controller.mode ∧
      after.latched = (firstFailure? made).map (CallFailure.toError controller.mode.unknownCause) ∧
      (outcome = .scripted ↔ firstFailure? made = none) ∧
      (firstFailure? made = none → ∃ program, after.program = some program ∧
        program.IsLoad load hooks ∧ program.kind = none) := by
  have hook : stepHook controller.mode program = own.stepHook hooks := by
    rw [stepHook_eq scripted, isLoad.hooks_eq]
  obtain ⟨result, after, reached, made, called, played, ended, completed, reported⟩ :=
    isLoad.call usable scripting (own.stepHook hooks) controller.mode.periodicStyle world
  unfold runStep
  rw [loaded]
  dsimp only
  rw [hook, called]
  cases failed : firstFailure? made with
  | none =>
      obtain ⟨outcome, rfl, unfailed⟩ := completed failed
      rw [failed] at ended
      cases outcome with
      | skipped | completed =>
          refine ⟨_, _, _, made, rfl, played, rfl, ?_⟩
          rw [failed]
          exact ⟨healthy, iff_of_true rfl rfl, fun _ => ⟨after, rfl, ended⟩⟩
      | failed => exact (unfailed rfl).elim
  | some failure =>
      have lost : ¬ firstFailure? made = none := failed ▸ Option.some_ne_none failure
      rw [reported failure failed]
      unfold Mode.unknownCause
      cases controller.mode.periodicStyle with
      | mustSucceed =>
          refine ⟨_, _, _, made, rfl, played.note _ _ _, rfl, ?_⟩
          exact ⟨by rw [failed]; rfl, iff_of_false nofun lost, fun clean => (lost clean).elim⟩
      | fireAndForget =>
          rw [failed] at ended
          obtain ⟨kind, message⟩ := ended
          refine ⟨_, _, _, made, rfl, played, rfl, ?_⟩
          rw [failed]
          refine ⟨?_, iff_of_false nofun nofun, nofun⟩
          rw [kind, message]
          rfl

/-- A program that is started was loaded, and the hooks of its start were called. -/
theorem startProgram_traced {controller : Controller (Labelled π)} {own : OwnHooks}
    (scripted : controller.mode.ownHooks? = some own) (scripting : Scripting ε π) (name : String)
    (world : World (Traced ε)) :
    ∃ result after reached loaded made,
      controller.startProgram scripting.traced name world = (result, after, reached) ∧
      after.mode = controller.mode ∧ after.latched = (error? result).or controller.latched ∧
      reached.calls = world.calls ++ made ∧ reached.loads = world.loads ++ [loaded] ∧
      (∀ error, loaded.failure = some error → made = [] ∧ result = .error error) ∧
      (loaded.failure = none → Follows (own.beginning loaded.hooks) made ∧
        (∀ call ∈ made, call.load = world.loads.length) ∧
        error? result = (firstFailure? made).map (CallFailure.toError .native) ∧
        (firstFailure? made = none → ∃ program, after.program = some program ∧
          program.IsLoad world.loads.length loaded.hooks ∧ program.kind = none)) := by
  obtain ⟨program, loadedWorld, loaded, loading, isLoad, failure, calls, loads⟩ :=
    Program.load_traced scripting name world
  unfold startProgram
  rw [loading]
  dsimp only
  cases kind : program.kind with
  | some kind =>
      rw [Program.failure?, kind] at failure
      refine ⟨_, _, _, loaded, [], rfl, rfl, rfl, calls.trans (List.append_nil _).symm, loads,
        fun error failed => ⟨rfl, ?_⟩, fun loadable => ?_⟩
      · exact congrArg Except.error (Option.some.inj (failure.trans failed))
      · cases failure.trans loadable
  | none =>
      rw [Program.failure?, kind] at failure
      obtain ⟨result, after, reached, made, invoked, played, ended, told⟩ :=
        isLoad.invokeAll kind scripting (startHooks controller.mode)
          (loadedWorld.note .info .scripts ("loaded program " ++ program.name))
      dsimp only
      rw [invoked]
      rw [Mode.startHooks_eq scripted] at played
      have running : firstFailure? made = none → ∃ program, some after = some program ∧
          program.IsLoad world.loads.length loaded.hooks ∧ program.kind = none := by
        intro clean
        rw [clean] at ended
        exact ⟨after, rfl, ended⟩
      have callsAfter : reached.calls = world.calls ++ made :=
        played.calls.trans (congrArg (· ++ made) calls)
      have loadable : ∀ error, loaded.failure ≠ some error := fun error failed => by
        cases failure.trans failed
      cases result with
      | ok _ =>
          exact ⟨_, _, _, loaded, made, rfl, rfl, rfl, callsAfter, played.loads.trans loads,
            fun error failed => (loadable error failed).elim,
            fun _ => ⟨played.follows, played.origin, told, running⟩⟩
      | error error =>
          exact ⟨_, _, _, loaded, made, rfl, rfl, rfl, callsAfter, played.loads.trans loads,
            fun error failed => (loadable error failed).elim,
            fun _ => ⟨played.follows, played.origin, told, running⟩⟩

end Controller

/-- The drivetrain after some calls. -/
def lastDrivetrain (made : List Call) (before : Hardware.Drivetrain) : Hardware.Drivetrain :=
  (made.getLast?.map Call.drivetrain).getD before

namespace Session

/-- The session runs a program that never failed. -/
structure Running (own : OwnHooks) (load : Nat) (hooks : List Hook)
    (session : Session (Traced ε) (Labelled π)) : Prop where
  mode : session.controller.mode.ownHooks? = some own
  latched : session.controller.latched = none
  program : ∃ program, session.controller.program = some program ∧
    program.IsLoad load hooks ∧ program.kind = none

/-- The session has no program, or its failure is latched. -/
def Silent (session : Session (Traced ε) (Labelled π)) : Prop :=
  session.controller.program = none ∨ session.controller.latched ≠ none

/-- What a tick does, by the calls it makes. -/
structure Ticked (session : Session (Traced ε) (Labelled π)) (outcome : TickOutcome)
    (after : Session (Traced ε) (Labelled π)) (made : List Call) : Prop where
  calls : after.world.calls = session.world.calls ++ made
  loads : after.world.loads = session.world.loads
  mode : after.controller.mode = session.controller.mode
  /-- The program is in control exactly if nothing speaks against it. -/
  scripted : outcome = .scripted ↔
    session.controller.mode.isScripted = true ∧ session.world.rig.pad.connected = true ∧
      session.controller.latched = none ∧ session.controller.program.isSome = true ∧
      firstFailure? made = none
  /-- A failed step is latched. -/
  latched : after.controller.latched = session.controller.latched.or
    ((firstFailure? made).map (CallFailure.toError session.controller.mode.unknownCause))
  /-- The drivetrain is left alone by a program in control, and stopped otherwise. -/
  drivetrain : after.world.rig.drivetrain = match outcome with
    | .scripted => lastDrivetrain made session.world.rig.drivetrain
    | .allStop => (lastDrivetrain made session.world.rig.drivetrain).stop.1
  /-- Without a pad nothing is called, and the snapshot is neutral. -/
  unplugged : session.world.rig.pad.connected = false →
    made = [] ∧ after.world.rig.snapshot = .neutral

/-- The middle of a tick: a program that is in control makes its step. -/
def midTick (scripting : Scripting ε π) (session : Session ε π) :
    TickOutcome × Controller π × World ε :=
  let (controller, world) := session.controller.polled session.world
  if controller.isInControl then controller.runStep scripting world
  else (.allStop, controller, world)

/-- The end of a tick: the drivetrain is stopped unless a program was in control, and the shooter
ticks. -/
def endTick (outcome : TickOutcome) (controller : Controller π) (world : World ε) : Session ε π :=
  let (controller, world) := controller.stopUnless outcome world
  ⟨controller, world.changeRig Rig.tickShooter⟩

theorem tick_eq {scripting : Scripting ε π} {session : Session ε π} {outcome : TickOutcome}
    {controller : Controller π} {world : World ε}
    (middle : session.midTick scripting = (outcome, controller, world)) :
    session.tick scripting = (outcome, endTick outcome controller world) := by
  have split : session.tick scripting = ((session.midTick scripting).1,
    endTick (session.midTick scripting).1 (session.midTick scripting).2.1
      (session.midTick scripting).2.2) := rfl
  rw [split, middle]

theorem Ticked.of_midTick {scripting : Scripting ε π}
    {session : Session (Traced ε) (Labelled π)} {outcome : TickOutcome}
    {controller : Controller (Labelled π)} {world : World (Traced ε)} {made : List Call}
    {plan : List Hook} {load : Nat}
    (middle : session.midTick scripting.traced = (outcome, controller, world))
    (played : Played load plan (session.controller.polled session.world).2 world made)
    (mode : controller.mode = session.controller.mode)
    (scripted : outcome = .scripted ↔
      session.controller.mode.isScripted = true ∧ session.world.rig.pad.connected = true ∧
        session.controller.latched = none ∧ session.controller.program.isSome = true ∧
        firstFailure? made = none)
    (latched : controller.latched = session.controller.latched.or
      ((firstFailure? made).map (CallFailure.toError session.controller.mode.unknownCause)))
    (unplugged : session.world.rig.pad.connected = false →
      made = [] ∧ world.rig.snapshot = .neutral) :
    session.Ticked outcome (endTick outcome controller world) made := by
  have before := session.controller.polled_scripts session.world
  have driven : world.rig.drivetrain = lastDrivetrain made session.world.rig.drivetrain := by
    rw [played.drivetrain, session.controller.polled_rig session.world, Rig.readPad]
    split <;> rfl
  cases outcome with
  | scripted =>
      exact
        { calls := played.calls.trans (congrArg (·.calls ++ made) before)
          loads := played.loads.trans (congrArg Traced.loads before)
          mode, scripted, latched
          drivetrain := driven
          unplugged }
  | allStop =>
      exact
        { calls := played.calls.trans (congrArg (·.calls ++ made) before)
          loads := played.loads.trans (congrArg Traced.loads before)
          mode, scripted, latched
          drivetrain := congrArg (·.stop.1) driven
          unplugged }

theorem midTick_of_not_inControl {scripting : Scripting ε π} {session : Session ε π}
    (idle : (session.controller.polled session.world).1.isInControl = false) :
    session.midTick scripting = (.allStop, (session.controller.polled session.world).1,
      (session.controller.polled session.world).2) := by
  unfold midTick
  dsimp only
  rw [idle]
  rfl

theorem snapshot_of_unplugged {session : Session ε π}
    (unplugged : session.world.rig.pad.connected = false) :
    (session.controller.polled session.world).2.rig.snapshot = .neutral := by
  rw [session.controller.polled_rig session.world, Rig.readPad, unplugged]
  rfl

/-- A tick whose middle does no more than read the pad calls nothing. -/
theorem Ticked.of_idle {scripting : Scripting ε π} {session : Session (Traced ε) (Labelled π)}
    (middle : session.midTick scripting.traced = (.allStop,
      (session.controller.polled session.world).1, (session.controller.polled session.world).2))
    (idle : session.controller.mode.isScripted = true → session.world.rig.pad.connected = true →
      session.controller.latched = none → session.controller.program.isSome = true → False) :
    session.Ticked .allStop (endTick .allStop (session.controller.polled session.world).1
      (session.controller.polled session.world).2) [] := by
  have unplayed : Played 0 [] (session.controller.polled session.world).2
    (session.controller.polled session.world).2 [] := .none _
  refine .of_midTick middle unplayed (Controller.mode_polled _ _) (iff_of_false nofun ?_) ?_
    (fun unplugged => ⟨rfl, snapshot_of_unplugged unplugged⟩)
  · rintro ⟨scripted, plugged, healthy, loaded, _⟩
    exact idle scripted plugged healthy loaded
  · rw [Controller.latched_polled]
    exact Option.or_none.symm

/-- A silent session calls nothing and stops the drivetrain. -/
theorem tick_silent {session : Session (Traced ε) (Labelled π)} (silent : session.Silent)
    (scripting : Scripting ε π) :
    ∃ after, session.tick scripting.traced = (.allStop, after) ∧
      session.Ticked .allStop after [] ∧ after.Silent := by
  have middle : session.midTick scripting.traced =
      (.allStop, (session.controller.polled session.world).1,
        (session.controller.polled session.world).2) := by
    rcases silent with unloaded | failed
    · unfold midTick
      dsimp only
      rw [Controller.runStep_of_none ((Controller.program_polled _ _).trans unloaded)]
      split <;> rfl
    · refine midTick_of_not_inControl ?_
      rw [Controller.isInControl_polled,
        Option.isNone_eq_false_iff.mpr (Option.isSome_iff_ne_none.mpr failed), Bool.and_false]
  have ticked := Ticked.of_idle middle fun _ _ healthy loaded => by
    rcases silent with unloaded | failed
    · rw [unloaded] at loaded
      cases loaded
    · exact failed healthy
  refine ⟨_, tick_eq middle, ticked, ?_⟩
  rcases silent with unloaded | failed
  · exact .inl ((session.controller.program_polled session.world).trans unloaded)
  · exact .inr fun clean =>
      failed ((session.controller.latched_polled session.world).symm.trans clean)

/-- A tick without a pad calls nothing, and the program of a running session stays as it is. -/
theorem tick_unplugged {session : Session (Traced ε) (Labelled π)} {own : OwnHooks} {load : Nat}
    {hooks : List Hook} (running : session.Running own load hooks)
    (unplugged : session.world.rig.pad.connected = false) (scripting : Scripting ε π) :
    ∃ after, session.tick scripting.traced = (.allStop, after) ∧
      session.Ticked .allStop after [] ∧ after.Running own load hooks := by
  have middle : session.midTick scripting.traced =
      (.allStop, (session.controller.polled session.world).1,
        (session.controller.polled session.world).2) := by
    refine midTick_of_not_inControl ?_
    rw [Controller.isInControl_polled, unplugged, Bool.and_false, Bool.false_and]
  have ticked := Ticked.of_idle middle fun _ plugged _ _ => by
    rw [unplugged] at plugged
    cases plugged
  refine ⟨_, tick_eq middle, ticked, ?_⟩
  exact
    { mode := (congrArg Mode.ownHooks? (session.controller.mode_polled session.world)).trans
        running.mode
      latched := (session.controller.latched_polled session.world).trans running.latched
      program := by
        obtain ⟨program, loaded, isLoad⟩ := running.program
        exact ⟨program, (session.controller.program_polled session.world).trans loaded, isLoad⟩ }

/-- A tick of a running session with a pad makes a step. A failure makes the session silent. -/
theorem tick_plugged {session : Session (Traced ε) (Labelled π)} {own : OwnHooks} {load : Nat}
    {hooks : List Hook} (running : session.Running own load hooks)
    (plugged : session.world.rig.pad.connected = true) (scripting : Scripting ε π) :
    ∃ outcome after made, session.tick scripting.traced = (outcome, after) ∧
      session.Ticked outcome after made ∧
      Follows ([own.stepHook hooks].filter hooks.contains) made ∧
      (∀ call ∈ made, call.load = load) ∧
      (firstFailure? made = none → after.Running own load hooks) := by
  obtain ⟨program, loaded, isLoad, usable⟩ := running.program
  have modeIs := Controller.mode_polled session.controller session.world
  obtain ⟨outcome, controller, world, made, stepped, played, mode, latched, scripted, kept⟩ :=
    Controller.runStep_traced ((congrArg Mode.ownHooks? modeIs).trans running.mode)
      ((Controller.latched_polled _ _).trans running.latched)
      ((Controller.program_polled _ _).trans loaded) isLoad usable scripting
      (session.controller.polled session.world).2
  have isScripted : session.controller.mode.isScripted = true := by
    rw [Mode.isScripted_eq, running.mode]
    rfl
  have middle : session.midTick scripting.traced = (outcome, controller, world) := by
    unfold midTick
    dsimp only
    rw [Controller.isInControl_polled, isScripted, plugged, running.latched, ← stepped]
    rfl
  have ticked := Ticked.of_midTick middle played (mode.trans modeIs)
    (scripted.trans ⟨fun clean => ⟨isScripted, plugged, running.latched, by rw [loaded]; rfl, clean⟩,
      fun inControl => inControl.2.2.2.2⟩)
    (by rw [latched, running.latched, Option.none_or, modeIs])
    (fun unplugged => by rw [plugged] at unplugged; cases unplugged)
  refine ⟨outcome, _, made, tick_eq middle, ticked, played.follows, played.origin, fun clean => ?_⟩
  have success : outcome = .scripted := scripted.mpr clean
  subst success
  exact
    { mode := (congrArg Mode.ownHooks? (mode.trans modeIs)).trans running.mode
      latched := by rw [endTick, Controller.stopUnless, latched, clean]; rfl
      program := kept clean }

/-- How entering a mode goes. -/
inductive Entered (session : Session (Traced ε) (Labelled π)) (mode : Mode) :
    Option String → Except ScriptError Unit → Session (Traced ε) (Labelled π) → Prop
  /-- There is no program to run. -/
  | idle {programName : Option String} {after : Session (Traced ε) (Labelled π)}
      (undriven : mode.ownHooks? = none ∨ programName = none)
      (calls : after.world.calls = session.world.calls)
      (loads : after.world.loads = session.world.loads)
      (program : after.controller.program = none) (latched : after.controller.latched = none) :
      Entered session mode programName (.ok ()) after
  /-- The program could not be loaded. -/
  | unloaded {name : String} {loaded : Loaded} {error : ScriptError}
      {after : Session (Traced ε) (Labelled π)} (scripted : mode.isScripted = true)
      (failure : loaded.failure = some error)
      (calls : after.world.calls = session.world.calls)
      (loads : after.world.loads = session.world.loads ++ [loaded])
      (latched : after.controller.latched = some error) :
      Entered session mode (some name) (.error error) after
  /-- The program was loaded, and the hooks of its start were called. -/
  | started {name : String} {own : OwnHooks} {loaded : Loaded} {made : List Call}
      {result : Except ScriptError Unit} {after : Session (Traced ε) (Labelled π)}
      (scripted : mode.ownHooks? = some own) (loadable : loaded.failure = none)
      (calls : after.world.calls = session.world.calls ++ made)
      (loads : after.world.loads = session.world.loads ++ [loaded])
      (follows : Follows (own.beginning loaded.hooks) made)
      (origin : ∀ call ∈ made, call.load = session.world.loads.length)
      (latched : after.controller.latched =
        (firstFailure? made).map (CallFailure.toError .native))
      (told : error? result = after.controller.latched)
      (running : firstFailure? made = none →
        after.Running own session.world.loads.length loaded.hooks) :
      Entered session mode (some name) result after

theorem enter_traced (session : Session (Traced ε) (Labelled π)) (mode : Mode)
    (programName : Option String) (scripting : Scripting ε π) :
    session.Entered mode programName (session.enter scripting.traced mode programName).1
      (session.enter scripting.traced mode programName).2 := by
  unfold enter Controller.enter Controller.startMode
  dsimp only
  rw [show (session.controller.activate mode).mode = mode from rfl]
  cases driven : mode.ownHooks? with
  | none =>
      have unscripted : ¬ mode.isScripted = true := by
        rw [Mode.isScripted_eq, driven]
        exact Bool.false_ne_true
      rw [if_neg unscripted]
      exact .idle (.inl driven) rfl rfl rfl rfl
  | some own =>
      have scripted : mode.isScripted = true := by
        rw [Mode.isScripted_eq, driven]
        rfl
      rw [if_pos scripted]
      cases programName with
      | none => exact .idle (.inr rfl) rfl rfl rfl rfl
      | some name =>
          dsimp only
          obtain ⟨result, after, reached, loaded, made, started, modeIs, latched, calls, loads,
              unloaded, begun⟩ :=
            Controller.startProgram_traced
              (show (session.controller.activate mode).mode.ownHooks? = some own from driven)
              scripting name ((session.controller.activate mode).resetShooter scripting.traced
                (session.world.note .info .bot ("entering " ++ mode.name ++ " mode")))
          rw [started]
          have latchedIs : after.latched = error? result :=
            latched.trans (Option.or_none)
          cases failure : loaded.failure with
          | some error =>
              obtain ⟨rfl, rfl⟩ := unloaded error failure
              exact .unloaded scripted failure (calls.trans (List.append_nil _)) loads latchedIs
          | none =>
              obtain ⟨follows, origin, told, running⟩ := begun failure
              refine .started driven failure calls loads follows origin (latchedIs.trans told)
                latchedIs.symm fun clean => ?_
              exact
                { mode := (congrArg Mode.ownHooks? modeIs).trans driven
                  latched := by rw [latchedIs, told, clean]; rfl
                  program := running clean }

@[simp] theorem program_exit (session : Session ε π) (scripting : Scripting ε π) :
    (session.exit scripting).2.controller.program = none := rfl

@[simp] theorem latched_exit (session : Session ε π) (scripting : Scripting ε π) :
    (session.exit scripting).2.controller.latched = session.controller.latched := rfl

/-- Leaving a silent session calls nothing. -/
theorem exit_silent {session : Session (Traced ε) (Labelled π)} (silent : session.Silent)
    (scripting : Scripting ε π) :
    (session.exit scripting.traced).2.world.calls = session.world.calls ∧
      (session.exit scripting.traced).2.world.loads = session.world.loads := by
  unfold exit Controller.exit Controller.endProgram
  dsimp only
  cases loaded : session.controller.program with
  | none => exact ⟨rfl, rfl⟩
  | some program =>
      cases latched : session.controller.latched with
      | none =>
          rcases silent with unloaded | failed
          · cases loaded.symm.trans unloaded
          · exact (failed latched).elim
      | some error => exact ⟨rfl, rfl⟩

/-- Leaving a running session calls the hooks of its end. -/
theorem exit_running {session : Session (Traced ε) (Labelled π)} {own : OwnHooks} {load : Nat}
    {hooks : List Hook} (running : session.Running own load hooks) (scripting : Scripting ε π) :
    ∃ made,
      (session.exit scripting.traced).2.world.calls = session.world.calls ++ made ∧
      (session.exit scripting.traced).2.world.loads = session.world.loads ∧
      Follows (own.ending hooks) made ∧ (∀ call ∈ made, call.load = load) ∧
      error? (session.exit scripting.traced).1 =
        (firstFailure? made).map (CallFailure.toError .native) := by
  obtain ⟨program, loaded, isLoad, usable⟩ := running.program
  unfold exit Controller.exit Controller.endProgram
  dsimp only
  rw [loaded, running.latched]
  dsimp only
  rw [Mode.endHooks_eq running.mode]
  obtain ⟨result, after, reached, made, invoked, played, _, told⟩ :=
    isLoad.invokeAll usable scripting [own.finish, .cleanup]
      (session.world.note .info .bot ("leaving " ++ session.controller.mode.name ++ " mode"))
  rw [invoked]
  exact ⟨made, played.calls, played.loads, played.follows, played.origin, told⟩

/-- A silent session stays silent and calls nothing until a mode is entered. -/
theorem step_silent {session : Session (Traced ε) (Labelled π)} (silent : session.Silent)
    (scripting : Scripting ε π) {move : Move ε} (inside : move.isEnter = false) :
    (session.step scripting.traced move.traced).Silent ∧
      (session.step scripting.traced move.traced).world.calls = session.world.calls ∧
      (session.step scripting.traced move.traced).world.loads = session.world.loads ∧
      (session.step scripting.traced move.traced).controller.latched =
        session.controller.latched := by
  cases move with
  | enter mode programName => cases inside
  | tick =>
      obtain ⟨after, ticked, facts, still⟩ := tick_silent silent scripting
      have stepped : session.step scripting.traced Move.tick = after := congrArg Prod.snd ticked
      rw [Move.traced, stepped]
      exact ⟨still, facts.calls.trans (List.append_nil _), facts.loads,
        facts.latched.trans Option.or_none⟩
  | exit =>
      obtain ⟨calls, loads⟩ := exit_silent silent scripting
      exact ⟨.inl (program_exit session scripting.traced), calls, loads,
        latched_exit session scripting.traced⟩
  | outside change => exact ⟨silent, rfl, rfl, rfl⟩

theorem run_silent {session : Session (Traced ε) (Labelled π)} (silent : session.Silent)
    (scripting : Scripting ε π) {moves : List (Move ε)}
    (inside : ∀ move ∈ moves, move.isEnter = false) :
    (run scripting.traced (moves.map Move.traced) session).Silent ∧
      (run scripting.traced (moves.map Move.traced) session).world.calls = session.world.calls ∧
      (run scripting.traced (moves.map Move.traced) session).world.loads = session.world.loads ∧
      (run scripting.traced (moves.map Move.traced) session).controller.latched =
        session.controller.latched := by
  induction moves generalizing session with
  | nil => exact ⟨silent, rfl, rfl, rfl⟩
  | cons move rest ih =>
      obtain ⟨still, calls, loads, latched⟩ :=
        step_silent silent scripting (inside move List.mem_cons_self)
      obtain ⟨stillAll, callsAll, loadsAll, latchedAll⟩ :=
        ih still fun later member => inside later (List.mem_cons_of_mem _ member)
      exact ⟨stillAll, callsAll.trans calls, loadsAll.trans loads, latchedAll.trans latched⟩

/-- Until it is entered or left, a running session only makes steps. A failure makes it silent. -/
theorem step_running {session : Session (Traced ε) (Labelled π)} {own : OwnHooks} {load : Nat}
    {hooks : List Hook} (running : session.Running own load hooks) (scripting : Scripting ε π)
    {move : Move ε} (inside : move.isEnter = false ∧ move.isExit = false) :
    ∃ made,
      (session.step scripting.traced move.traced).world.calls = session.world.calls ++ made ∧
      (session.step scripting.traced move.traced).world.loads = session.world.loads ∧
      Follows ((List.replicate made.length (own.stepHook hooks)).filter hooks.contains) made ∧
      (∀ call ∈ made, call.load = load) ∧
      (firstFailure? made = none →
        (session.step scripting.traced move.traced).Running own load hooks) ∧
      (firstFailure? made ≠ none → (session.step scripting.traced move.traced).Silent) := by
  cases move with
  | enter mode programName => cases inside.1
  | exit => cases inside.2
  | outside change =>
      exact ⟨[], (List.append_nil _).symm, rfl, .nil, nofun, fun _ =>
        ⟨running.mode, running.latched, running.program⟩, fun failed => (failed rfl).elim⟩
  | tick =>
      cases plugged : session.world.rig.pad.connected with
      | false =>
          obtain ⟨after, ticked, facts, still⟩ := tick_unplugged running plugged scripting
          have stepped : session.step scripting.traced Move.tick = after := congrArg Prod.snd ticked
          rw [Move.traced, stepped]
          exact ⟨[], facts.calls, facts.loads, .nil, nofun, fun _ => still,
            fun failed => (failed rfl).elim⟩
      | true =>
          obtain ⟨outcome, after, made, ticked, facts, follows, origin, still⟩ :=
            tick_plugged running plugged scripting
          have stepped : session.step scripting.traced Move.tick = after := congrArg Prod.snd ticked
          rw [Move.traced, stepped]
          refine ⟨made, facts.calls, facts.loads, follows.of_singleton, origin, still,
            fun failed => .inr ?_⟩
          rw [facts.latched, running.latched, Option.none_or]
          exact fun clean => failed (Option.map_eq_none_iff.mp clean)

theorem run_running {session : Session (Traced ε) (Labelled π)} {own : OwnHooks} {load : Nat}
    {hooks : List Hook} (running : session.Running own load hooks) (scripting : Scripting ε π)
    {moves : List (Move ε)} (inside : ∀ move ∈ moves, move.isEnter = false ∧ move.isExit = false) :
    ∃ made,
      (run scripting.traced (moves.map Move.traced) session).world.calls =
        session.world.calls ++ made ∧
      (run scripting.traced (moves.map Move.traced) session).world.loads = session.world.loads ∧
      Follows ((List.replicate made.length (own.stepHook hooks)).filter hooks.contains) made ∧
      (∀ call ∈ made, call.load = load) ∧
      (firstFailure? made = none →
        (run scripting.traced (moves.map Move.traced) session).Running own load hooks) ∧
      (firstFailure? made ≠ none →
        (run scripting.traced (moves.map Move.traced) session).Silent) := by
  induction moves generalizing session with
  | nil =>
      exact ⟨[], (List.append_nil _).symm, rfl, .nil, nofun, fun _ => running,
        fun failed => (failed rfl).elim⟩
  | cons move rest ih =>
      have later : ∀ move ∈ rest, move.isEnter = false ∧ move.isExit = false :=
        fun later member => inside later (List.mem_cons_of_mem _ member)
      obtain ⟨made, calls, loads, follows, origin, still, failed⟩ :=
        step_running running scripting (inside move List.mem_cons_self)
      rw [List.map_cons, run_cons]
      by_cases clean : firstFailure? made = none
      · obtain ⟨more, callsAll, loadsAll, followsAll, originAll, stillAll, failedAll⟩ :=
          ih (still clean) later
        refine ⟨made ++ more, ?_, loadsAll.trans loads, follows.append_steps clean followsAll, ?_, ?_⟩
        · rw [callsAll, calls, List.append_assoc]
        · exact fun call member => (List.mem_append.mp member).elim (origin call) (originAll call)
        · rw [firstFailure?_append, clean, Option.none_or]
          exact ⟨stillAll, failedAll⟩
      -- After a failure the rest of the run is that of a silent session.
      · obtain ⟨stillAll, callsAll, loadsAll, _⟩ :=
          run_silent (failed clean) scripting fun move member => (later move member).1
        exact ⟨made, callsAll.trans calls, loadsAll.trans loads, follows, origin,
          fun cleanAll => (clean cleanAll).elim, fun _ => stillAll⟩

end Session

end Control

end ScriptedRobot
