import ScriptedRobot.Control.Activation
import ScriptedRobot.Proofs.Control.AllStop

/-! # Reports

The report of an activation accounts for its ticks and for its failures. Every tick is counted by
its outcome. After the first failure nothing is called, so there is at most one failure of a load
or of a callback, and it is the error of the report. -/

namespace ScriptedRobot.Control

variable {ε π : Type}

/-! ## Ticks -/

namespace Controller

variable (scripting : Scripting ε π) (controller : Controller π) (world : World ε)

theorem countTick_ticks : (controller.countTick world).1.ticks = controller.ticks + 1 ∧
    (controller.countTick world).1.allStopTicks = controller.allStopTicks := by
  unfold countTick
  rcases controller.ticker.tick with ⟨_ | _, _⟩ <;> exact ⟨rfl, rfl⟩

theorem runStep_ticks : (controller.runStep scripting world).2.1.ticks = controller.ticks ∧
    (controller.runStep scripting world).2.1.allStopTicks = controller.allStopTicks := by
  unfold runStep
  cases controller.program with
  | none => exact ⟨rfl, rfl⟩
  | some program =>
      dsimp only
      rcases program.call scripting _ _ _ with ⟨_ | _ | _ | _, _, _⟩ <;> exact ⟨rfl, rfl⟩

theorem startProgram_ticks (name : String) :
    (controller.startProgram scripting name world).2.1.ticks = controller.ticks ∧
      (controller.startProgram scripting name world).2.1.allStopTicks =
        controller.allStopTicks := by
  unfold startProgram
  generalize scripting.load name world = loading
  obtain ⟨program, reached⟩ := loading
  dsimp only
  cases program.kind with
  | some kind => exact ⟨rfl, rfl⟩
  | none =>
      dsimp only
      rcases program.invokeAll scripting _ _ with ⟨_ | _, _, _⟩ <;> exact ⟨rfl, rfl⟩

/-- No tick has been counted yet when a mode was entered. -/
theorem enter_ticks (mode : Mode) (programName : Option String) :
    (controller.enter scripting mode programName world).2.1.ticks = 0 ∧
      (controller.enter scripting mode programName world).2.1.allStopTicks = 0 := by
  unfold enter startMode
  dsimp only
  split
  · cases programName with
    | none => exact ⟨rfl, rfl⟩
    | some name => exact startProgram_ticks scripting (controller.activate mode) _ name
  · exact ⟨rfl, rfl⟩

/-- A tick is counted, and once more if it was an all-stop. -/
theorem periodic_ticks :
    (controller.periodic scripting world).2.1.ticks = controller.ticks + 1 ∧
      (controller.periodic scripting world).2.1.allStopTicks = controller.allStopTicks +
        [(controller.periodic scripting world).1].count .allStop := by
  obtain ⟨ticks, allStopTicks⟩ := controller.countTick_ticks world
  unfold periodic
  dsimp only
  generalize controller.countTick world = counted at ticks allStopTicks ⊢
  have polledTicks : (counted.1.pollPad counted.2).1.ticks = controller.ticks + 1 := ticks
  have polledAllStops : (counted.1.pollPad counted.2).1.allStopTicks = controller.allStopTicks :=
    allStopTicks
  generalize counted.1.pollPad counted.2 = polled at polledTicks polledAllStops ⊢
  rw [← polledTicks, ← polledAllStops]
  split
  · obtain ⟨ranTicks, ranAllStops⟩ := polled.1.runStep_ticks scripting polled.2
    generalize polled.1.runStep scripting polled.2 = ran at ranTicks ranAllStops ⊢
    rcases ran with ⟨_ | _, ran, _⟩
    · exact ⟨ranTicks, ranAllStops⟩
    · exact ⟨ranTicks, congrArg (· + 1) ranAllStops⟩
  · exact ⟨rfl, rfl⟩

theorem tickTimes_ticks (count : Nat) :
    (controller.tickTimes scripting count world).1.ticks = controller.ticks + count ∧
      (controller.tickTimes scripting count world).1.allStopTicks = controller.allStopTicks +
        (controller.outcomes scripting count world).count .allStop := by
  induction count generalizing controller world with
  | zero => exact ⟨rfl, rfl⟩
  | succ count ih =>
      obtain ⟨ticks, allStopTicks⟩ := controller.periodic_ticks scripting world
      unfold tickTimes outcomes
      generalize controller.periodic scripting world = ticked at ticks allStopTicks ⊢
      obtain ⟨ticksAll, allStopsAll⟩ := ih ticked.2.1 ticked.2.2
      dsimp only
      rw [ticksAll, allStopsAll, ticks, allStopTicks]
      refine ⟨by omega, ?_⟩
      rw [Nat.add_assoc, ← List.count_append]
      rfl

theorem length_outcomes (count : Nat) :
    (controller.outcomes scripting count world).length = count := by
  induction count generalizing controller world with
  | zero => rfl
  | succ count ih =>
      unfold outcomes
      rw [List.length_cons, ih]

end Controller

theorem count_scripted_add_count_allStop (outcomes : List TickOutcome) :
    outcomes.count .scripted + outcomes.count .allStop = outcomes.length := by
  induction outcomes with
  | nil => rfl
  | cons outcome rest ih =>
      rw [List.count_cons, List.count_cons, List.length_cons, ← ih]
      cases outcome <;> simp <;> omega

/-! ## The error that is shown -/

namespace Program

/-- A call that does not fail takes the error away, unless the program could not be loaded. -/
theorem after_invoke {scripting : Scripting ε π} {hook : Hook} {program after : Program π}
    {world reached : World ε} {outcome : CallOutcome}
    (invoked : program.invoke scripting hook world = (.ok outcome, after, reached)) :
    after = if program.isUnusable then program else program.cleared := by
  unfold invoke at invoked
  split at invoked
  next unusable =>
    cases invoked
    exact (if_pos unusable).symm
  next usable =>
    rw [if_neg usable]
    split at invoked
    · cases invoked
      rfl
    · split at invoked
      · cases invoked
        rfl
      · cases invoked

theorem error_of_invoke {scripting : Scripting ε π} {hook : Hook} {program after : Program π}
    {world reached : World ε} {outcome : CallOutcome} (clean : program.error = "")
    (invoked : program.invoke scripting hook world = (.ok outcome, after, reached)) :
    after.error = "" := by
  rw [after_invoke invoked]
  split
  · exact clean
  · rfl

theorem error_of_call {scripting : Scripting ε π} {hook : Hook} {style : CallStyle}
    {program after : Program π} {world reached : World ε} {outcome : CallOutcome}
    (clean : program.error = "")
    (called : program.call scripting hook style world = (.ok outcome, after, reached))
    (completed : outcome ≠ .failed) : after.error = "" := by
  cases style with
  | mustSucceed => exact error_of_invoke clean called
  | fireAndForget =>
      unfold call fire at called
      dsimp only at called
      split at called
      next invoked =>
        cases called
        exact error_of_invoke clean invoked
      next =>
        cases called
        exact (completed rfl).elim

theorem error_of_invokeAll {scripting : Scripting ε π} {hooks : List Hook}
    {program after : Program π} {world reached : World ε} (clean : program.error = "")
    (invoked : program.invokeAll scripting hooks world = (.ok (), after, reached)) :
    after.error = "" := by
  induction hooks generalizing program world with
  | nil =>
      cases invoked
      exact clean
  | cons hook rest ih =>
      unfold invokeAll at invoked
      split at invoked
      next called => exact ih (error_of_invoke clean called) invoked
      next => cases invoked

end Program

namespace Controller

/-- Without a latched failure the program has no error. -/
def ErrorsLatched (controller : Controller π) : Prop :=
  controller.latched = none → ∀ program, controller.program = some program → program.error = ""

theorem errorText?_eq {controller : Controller π} (errorsLatched : controller.ErrorsLatched) :
    controller.errorText? = controller.latched.map ScriptError.message := by
  unfold errorText?
  cases latched : controller.latched with
  | some error => rfl
  | none =>
      cases loaded : controller.program with
      | none => rfl
      | some program =>
          have clean : program.hasError = false := by
            rw [Program.hasError, errorsLatched latched program loaded]
            rfl
          dsimp only
          simp only [Option.filter_some, clean, Bool.false_eq_true, if_false, Option.map_none]

variable {controller : Controller π} {world : World ε}

theorem errorsLatched_startProgram (scripting : Scripting ε π) (name : String) :
    (controller.startProgram scripting name world).2.1.ErrorsLatched := by
  unfold startProgram
  generalize scripting.load name world = loading
  obtain ⟨program, reached⟩ := loading
  dsimp only
  cases kind : program.kind with
  | some kind => exact nofun
  | none =>
      dsimp only
      generalize started : program.invokeAll scripting (startHooks controller.mode) _ = outcome
      rcases outcome with ⟨error | _, after, last⟩
      · exact nofun
      · rintro - _ ⟨⟩
        -- The first hook takes away whatever error the program came with.
        have usable : ¬ program.isUnusable = true := by
          rw [Program.isUnusable, kind]
          exact Bool.false_ne_true
        unfold startHooks Program.invokeAll at started
        dsimp only [List.append_eq, List.cons_append] at started
        split at started
        next invoked =>
          refine Program.error_of_invokeAll ?_ started
          rw [Program.after_invoke invoked, if_neg usable]
          rfl
        next => cases started

theorem errorsLatched_runStep (errorsLatched : controller.ErrorsLatched)
    (healthy : controller.latched = none) (scripting : Scripting ε π) :
    (controller.runStep scripting world).2.1.ErrorsLatched := by
  unfold runStep
  cases loaded : controller.program with
  | none => exact errorsLatched
  | some program =>
      dsimp only
      generalize called : program.call scripting _ _ world = outcome
      have clean := errorsLatched healthy program loaded
      rcases outcome with ⟨error | _ | _ | _, after, last⟩
      · exact nofun
      · rintro - _ ⟨⟩
        exact Program.error_of_call clean called nofun
      · rintro - _ ⟨⟩
        exact Program.error_of_call clean called nofun
      · exact nofun

end Controller

namespace Session

theorem errorsLatched_tick {session : Session ε π}
    (errorsLatched : session.controller.ErrorsLatched) (scripting : Scripting ε π) :
    (session.tick scripting).2.controller.ErrorsLatched := by
  have polled : (session.controller.polled session.world).1.ErrorsLatched := by
    unfold Controller.ErrorsLatched
    rw [Controller.latched_polled, Controller.program_polled]
    exact errorsLatched
  have kept : (session.midTick scripting).2.1.ErrorsLatched := by
    unfold midTick
    dsimp only
    split
    next inControl =>
      refine Controller.errorsLatched_runStep polled ?_ scripting
      unfold Controller.isInControl at inControl
      rw [Bool.and_eq_true, Option.isNone_iff_eq_none] at inControl
      exact inControl.2
    next => exact polled
  generalize middle : session.midTick scripting = outcome at kept
  obtain ⟨outcome, controller, world⟩ := outcome
  rw [tick_eq middle]
  cases outcome <;> exact kept

theorem errorsLatched_enter (session : Session ε π) (scripting : Scripting ε π) (mode : Mode)
    (programName : Option String) :
    (session.enter scripting mode programName).2.controller.ErrorsLatched := by
  unfold enter Controller.enter Controller.startMode
  dsimp only
  split
  · cases programName with
    | none => exact nofun
    | some name => exact Controller.errorsLatched_startProgram scripting name
  · exact nofun

/-- In every session that is reached, an error is shown exactly if it is latched. -/
theorem errorText?_run (scripting : Scripting ε π) (period : Int32) (world : World ε)
    (moves : List (Move ε)) :
    (run scripting moves (.start period world)).controller.errorText? =
      (run scripting moves (.start period world)).controller.latched.map ScriptError.message := by
  refine Controller.errorText?_eq (run_induction
    (fun session => session.controller.ErrorsLatched) (fun _ => True)
    (fun session move _ errorsLatched => ?_) (fun _ _ => trivial) nofun)
  cases move with
  | enter mode programName => exact errorsLatched_enter session scripting mode programName
  | tick => exact errorsLatched_tick errorsLatched scripting
  | exit => exact nofun
  | outside _ => exact errorsLatched

end Session

/-! ## Failures -/

/-- The messages of everything that failed, loads and callbacks. -/
def World.failures (world : World (Traced ε)) : List String :=
  world.loads.filterMap (fun loaded => loaded.failure.map ScriptError.message) ++
    world.calls.filterMap (fun call => call.failure.map CallFailure.message)

theorem World.failures_append {before after : World (Traced ε)} {made : List Call}
    (calls : after.calls = before.calls ++ made) (loads : after.loads = before.loads) :
    after.failures = before.failures ++
      made.filterMap (fun call => call.failure.map CallFailure.message) := by
  unfold failures
  rw [calls, loads, List.filterMap_append, List.append_assoc]

/-- If only the last call may have failed, there is at most one failure. -/
theorem failures_of_last {calls : List Call} (last : firstFailure? calls.dropLast = none) :
    calls.filterMap (fun call => call.failure.map CallFailure.message) =
      ((firstFailure? calls).map CallFailure.message).toList := by
  rcases List.eq_nil_or_concat calls with rfl | ⟨earlier, call, rfl⟩
  · rfl
  · rw [List.concat_eq_append] at last ⊢
    rw [List.dropLast_concat] at last
    have clean : earlier.filterMap (fun call => call.failure.map CallFailure.message) = [] := by
      refine List.filterMap_eq_nil_iff.mpr fun call member => ?_
      rw [firstFailure?_eq_none.mp last call member]
      rfl
    rw [List.filterMap_append, clean, firstFailure?_append, last, Option.none_or]
    cases failed : call.failure <;> simp [firstFailure?, failed]

/-- What was kept and what failed since are shown alike, if nothing is called while an error is
kept. -/
theorem messages_or (unknown : ErrorKind) {kept : Option ScriptError} {first : Option CallFailure}
    (exclusive : first ≠ none → kept = none) :
    ((kept.or (first.map (CallFailure.toError unknown))).map ScriptError.message).toList =
      (kept.map ScriptError.message).toList ++ (first.map CallFailure.message).toList := by
  cases first with
  | none => simp
  | some failure =>
      rw [exclusive nofun]
      rfl

namespace Session

/-- The session accounts for its failures: what is latched is the only one. -/
structure Accounts (session : Session (Traced ε) (Labelled π)) : Prop where
  sound : session.Sound
  failures : session.world.failures =
    (session.controller.latched.map ScriptError.message).toList

theorem accounts_enter (scripting : Scripting ε π) (period : Int32) (world : World ε)
    (mode : Mode) (programName : Option String) :
    (enter scripting.traced mode programName (start period (world.traced [] []))).2.Accounts := by
  refine ⟨sound_enter (sound_start period world) scripting mode programName, ?_⟩
  have entering := enter_traced (start period (world.traced [] [])) mode programName scripting
  generalize enter scripting.traced mode programName _ = move at entering ⊢
  obtain ⟨result, after⟩ := move
  unfold World.failures
  cases entering with
  | idle _ calls loads _ latched =>
      rw [calls, loads, latched]
      rfl
  | unloaded _ failure calls loads latched =>
      rw [calls, loads, latched]
      exact congrArg (fun failed => (failed.map ScriptError.message).toList ++ []) failure
  | @started _ _ loaded made _ _ _ loadable calls loads follows _ latched _ _ =>
      have unfailed : [loaded].filterMap (fun loaded => loaded.failure.map ScriptError.message) =
          [] := List.filterMap_eq_nil_iff.mpr fun other member => by
        rw [List.mem_singleton.mp member, loadable]
        rfl
      have noCalls : (start (π := Labelled π) period (world.traced [] [])).world.calls = [] := rfl
      have noLoads : (start (π := Labelled π) period (world.traced [] [])).world.loads = [] := rfl
      rw [calls, loads, noCalls, noLoads, List.nil_append, List.nil_append, unfailed,
        List.nil_append, failures_of_last follows.last, latched]
      cases firstFailure? made <;> rfl

/-- Leaving a silent session does not fail. -/
theorem exit_result_silent {session : Session (Traced ε) (Labelled π)} (silent : session.Silent)
    (scripting : Scripting ε π) : (session.exit scripting.traced).1 = .ok () := by
  unfold Session.exit Controller.exit Controller.endProgram
  dsimp only
  cases loaded : session.controller.program with
  | none => rfl
  | some program =>
      cases latched : session.controller.latched with
      | none =>
          rcases silent with unloaded | failed
          · cases loaded.symm.trans unloaded
          · exact (failed latched).elim
      | some error => rfl

namespace Accounts

variable {session : Session (Traced ε) (Labelled π)}

theorem tick (accounts : session.Accounts) (scripting : Scripting ε π) :
    (session.tick scripting.traced).2.Accounts := by
  refine ⟨sound_step accounts.sound scripting .tick, ?_⟩
  obtain ⟨outcome, after, made, ticked, facts, due, healthy⟩ := accounts.sound.ticked scripting
  have atMostOne := length_le_of_dueHooks due
  have alone : made.dropLast = [] :=
    List.length_eq_zero_iff.mp (by rw [List.length_dropLast]; omega)
  have last : firstFailure? made.dropLast = none := by
    rw [alone]
    rfl
  have exclusive : firstFailure? made ≠ none → session.controller.latched = none := by
    intro failed
    refine healthy ?_
    rintro rfl
    exact failed rfl
  rw [ticked, World.failures_append facts.calls facts.loads, accounts.failures,
    failures_of_last last, facts.latched, messages_or _ exclusive]

theorem run_ticks (accounts : session.Accounts) (scripting : Scripting ε π) (count : Nat) :
    (run scripting.traced (List.replicate count .tick) session).Accounts := by
  refine run_induction Accounts (fun move => move = .tick) ?_
    (fun move member => (List.mem_replicate.mp member).2) accounts
  rintro session _ rfl accounts
  exact accounts.tick scripting

/-- Leaving adds the failure of a hook of the end, if nothing failed before. -/
theorem exit (accounts : session.Accounts) (scripting : Scripting ε π) :
    (session.exit scripting.traced).2.world.failures =
      (Activation.firstError (session.controller.latched.map ScriptError.message)
        (session.exit scripting.traced).1).toList := by
  rcases accounts.sound.status with silent | ⟨own, load, hooks, _, running⟩
  · obtain ⟨calls, loads⟩ := exit_silent silent scripting
    rw [World.failures_append (calls.trans (List.append_nil _).symm) loads, accounts.failures,
      exit_result_silent silent scripting]
    cases session.controller.latched <;> rfl
  · obtain ⟨made, calls, loads, follows, _, told⟩ := exit_running running scripting
    have shown : Activation.firstError none (session.exit scripting.traced).1 =
        ((firstFailure? made).map (CallFailure.toError .native)).map ScriptError.message := by
      rw [← told]
      cases (session.exit scripting.traced).1 <;> rfl
    rw [World.failures_append calls loads, accounts.failures, failures_of_last follows.last,
      running.latched]
    refine Eq.trans ?_ (congrArg Option.toList shown).symm
    cases firstFailure? made <;> rfl

end Accounts

end Session

/-! ## Activations -/

namespace Activation

variable (activation : Activation) (scripting : Scripting ε π) (world : World ε)

/-- The moves of an activation until it is left. -/
def moves : List (Move ε) :=
  .enter activation.mode activation.program :: List.replicate activation.ticks .tick

theorem traced_moves : (activation.moves : List (Move ε)).map Move.traced = activation.moves := by
  unfold moves
  rw [List.map_cons, List.map_replicate]
  rfl

theorem run_replicate_tick (count : Nat) (session : Session ε π) :
    Session.run scripting (List.replicate count .tick) session =
      ⟨(session.controller.tickTimes scripting count session.world).1,
        (session.controller.tickTimes scripting count session.world).2⟩ := by
  induction count generalizing session with
  | zero => rfl
  | succ count ih => exact ih (session.tick scripting).2

/-- The session when it comes to be left. -/
def driven : Session ε π :=
  Session.run scripting activation.moves (.start activation.period world)

theorem driven_eq : activation.driven scripting world =
    ⟨(activation.drive scripting world).1, (activation.drive scripting world).2⟩ :=
  run_replicate_tick scripting activation.ticks _

theorem run_eq : activation.run scripting world =
    ({ ticks := (activation.driven scripting world).controller.ticks
       allStopTicks := (activation.driven scripting world).controller.allStopTicks
       error := firstError (activation.driven scripting world).controller.errorText?
        ((activation.driven scripting world).exit scripting).1 },
      ((activation.driven scripting world).exit scripting).2.world) := by
  rw [driven_eq]
  rfl

/-- The whole activation, with a trace. -/
def traced : Session (Traced ε) (Labelled π) :=
  Session.tracedRun scripting activation.period world (activation.moves ++ [.exit])

/-- The trace is that of the activation itself. -/
theorem world_run : (activation.run scripting world).2 =
    (activation.traced scripting world).erased.world := by
  unfold traced
  rw [Session.erased_tracedRun, Session.run_append, run_eq]
  rfl

theorem traced_eq : activation.traced scripting world =
    ((Session.run scripting.traced activation.moves
      (.start activation.period (world.traced [] []))).exit scripting.traced).2 := by
  unfold traced Session.tracedRun
  rw [List.map_append, traced_moves, Session.run_append]
  rfl

theorem error_run : (activation.run scripting world).1.error.toList =
    (activation.traced scripting world).world.failures := by
  have erased : (Session.run scripting.traced activation.moves
      (.start activation.period (world.traced [] []))).erased =
        activation.driven scripting world := by
    rw [← activation.traced_moves]
    exact Session.erased_tracedRun scripting activation.period world activation.moves
  have shown : (activation.driven scripting world).controller.errorText? =
      (activation.driven scripting world).controller.latched.map ScriptError.message :=
    Session.errorText?_run scripting activation.period world activation.moves
  have entered : (Session.run scripting.traced activation.moves
      (.start activation.period (world.traced [] []))).Accounts :=
    (Session.accounts_enter scripting activation.period world activation.mode
      activation.program).run_ticks scripting activation.ticks
  rw [traced_eq, entered.exit scripting, run_eq, shown, ← erased, Session.exit_erased]
  rfl

/-- The ticks are counted by what became of them. -/
theorem ticks_run :
    let entered := activation.start scripting world
    let outcomes := entered.1.outcomes scripting activation.ticks entered.2
    (activation.run scripting world).1.ticks = activation.ticks ∧
      (activation.run scripting world).1.allStopTicks = outcomes.count .allStop ∧
      activation.ticks - outcomes.count .allStop = outcomes.count .scripted ∧
      outcomes.count .scripted + outcomes.count .allStop = activation.ticks := by
  intro entered outcomes
  obtain ⟨ticks, allStopTicks⟩ := entered.1.tickTimes_ticks scripting entered.2 activation.ticks
  have fresh : entered.1.ticks = 0 ∧ entered.1.allStopTicks = 0 :=
    Controller.enter_ticks scripting _ world activation.mode activation.program
  have sum : outcomes.count .scripted + outcomes.count .allStop = activation.ticks :=
    (count_scripted_add_count_allStop outcomes).trans (Controller.length_outcomes _ _ _ _)
  rw [fresh.1, Nat.zero_add] at ticks
  rw [fresh.2, Nat.zero_add] at allStopTicks
  exact ⟨ticks, allStopTicks, by omega, sum⟩

end Activation

end ScriptedRobot.Control
