import ScriptedRobot.Proofs.Control.Protocol

/-! # All-stop

A tick lets a program drive only if nothing speaks against it. Otherwise the last command of the
drivetrain is to stand still, whatever the program did before it failed, and a failure stays
latched until a mode is entered again. -/

namespace ScriptedRobot.Control.Session

variable {ε π : Type}

theorem firstFailure?_of_mem {made : List Call} (atMostOne : made.length ≤ 1) {call : Call}
    (member : call ∈ made) : firstFailure? made = call.failure := by
  obtain ⟨only, rfl⟩ : ∃ only, made = [only] :=
    List.length_eq_one_iff.mp (Nat.le_antisymm atMostOne (List.length_pos_of_mem member))
  rw [List.mem_singleton.mp member]
  exact List.findSome?_singleton

/-- The hooks that a tick is to call: that of a step, if a program has it and is in control. -/
def dueHooks (session : Session ε π) : List Hook :=
  match session.controller.mode.ownHooks?, session.controller.program with
  | some own, some program =>
    if session.world.rig.pad.connected && session.controller.latched.isNone then
      [own.stepHook program.hooks].filter program.hooks.contains
    else []
  | _, _ => []

theorem length_dueHooks_le (session : Session ε π) : session.dueHooks.length ≤ 1 := by
  unfold dueHooks
  split
  · split
    · exact List.length_filter_le _ [_]
    · exact Nat.zero_le 1
  · exact Nat.zero_le 1

theorem dueHooks_of_silent {session : Session (Traced ε) (Labelled π)} (silent : session.Silent) :
    session.dueHooks = [] := by
  unfold dueHooks
  split
  · next _ program _ loaded =>
      rcases silent with unloaded | failed
      · cases loaded.symm.trans unloaded
      · rw [Option.isNone_eq_false_iff.mpr (Option.isSome_iff_ne_none.mpr failed), Bool.and_false]
        rfl
  · rfl

theorem dueHooks_of_unplugged {session : Session ε π}
    (unplugged : session.world.rig.pad.connected = false) : session.dueHooks = [] := by
  unfold dueHooks
  rw [unplugged]
  split <;> rfl

theorem Running.dueHooks_eq {session : Session (Traced ε) (Labelled π)} {own : OwnHooks}
    {load : Nat} {hooks : List Hook} (running : session.Running own load hooks)
    (plugged : session.world.rig.pad.connected = true) :
    session.dueHooks = [own.stepHook hooks].filter hooks.contains := by
  obtain ⟨program, loaded, isLoad, _⟩ := running.program
  unfold dueHooks
  rw [running.mode, loaded, plugged, running.latched, ← isLoad.hooks_eq]
  rfl

/-- A tick of a sound session calls what is due, and nothing if a failure is latched. -/
theorem Sound.ticked {session : Session (Traced ε) (Labelled π)} (sound : session.Sound)
    (scripting : Scripting ε π) :
    ∃ outcome after made, session.tick scripting.traced = (outcome, after) ∧
      session.Ticked outcome after made ∧ made.map Call.hook = session.dueHooks ∧
      (made ≠ [] → session.controller.latched = none) := by
  rcases sound.status with silent | ⟨own, load, hooks, _, running⟩
  · obtain ⟨after, ticked, facts, _⟩ := tick_silent silent scripting
    exact ⟨_, after, [], ticked, facts, (dueHooks_of_silent silent).symm,
      fun called => (called rfl).elim⟩
  cases plugged : session.world.rig.pad.connected with
  | false =>
      obtain ⟨after, ticked, facts, _⟩ := tick_unplugged running plugged scripting
      exact ⟨_, after, [], ticked, facts, (dueHooks_of_unplugged plugged).symm,
        fun _ => running.latched⟩
  | true =>
      obtain ⟨outcome, after, made, ticked, facts, follows, _, _⟩ :=
        tick_plugged running plugged scripting
      refine ⟨outcome, after, made, ticked, facts, ?_, fun _ => running.latched⟩
      rw [running.dueHooks_eq plugged]
      exact follows.hooks_eq (List.length_filter_le _ _)

/-- What is due is at most one call. -/
theorem length_le_of_dueHooks {session : Session ε π} {made : List Call}
    (due : made.map Call.hook = session.dueHooks) : made.length ≤ 1 := by
  have same := congrArg List.length due
  rw [List.length_map] at same
  rw [same]
  exact session.length_dueHooks_le

/-- What a failed start latches is what it reports: the error of the load, or the failure of the
first hook that failed. -/
theorem latched_enter (session : Session (Traced ε) (Labelled π)) (scripting : Scripting ε π)
    (mode : Mode) (programName : Option String) {result : Except ScriptError Unit}
    {after : Session (Traced ε) (Labelled π)}
    (entered : session.enter scripting.traced mode programName = (result, after)) :
    after.controller.latched = error? result ∧
      (∀ loaded error, after.world.loads = session.world.loads ++ [loaded] →
        loaded.failure = some error → after.controller.latched = some error) ∧
      ∀ made failure, after.world.calls = session.world.calls ++ made →
        firstFailure? made = some failure →
          after.controller.latched = some (failure.toError .native) := by
  have entering := enter_traced session mode programName scripting
  rw [entered] at entering
  have uncalled : ∀ made failure, session.world.calls = session.world.calls ++ made →
      firstFailure? made ≠ some failure := by
    intro made failure same failed
    rw [List.self_eq_append_right.mp same] at failed
    cases failed
  cases entering with
  | idle _ calls loads _ latched =>
      refine ⟨latched, fun loaded error one => ?_, fun made failure same failed =>
        (uncalled made failure (calls.symm.trans same) failed).elim⟩
      cases List.self_eq_append_right.mp (loads.symm.trans one)
  | @unloaded _ loaded _ _ _ failure calls loads latched =>
      refine ⟨latched, fun other error one failed => ?_, fun made failure same failed =>
        (uncalled made failure (calls.symm.trans same) failed).elim⟩
      obtain rfl : loaded = other :=
        List.singleton_inj.mp (List.append_cancel_left (loads.symm.trans one))
      exact latched.trans (failure.symm.trans failed)
  | @started _ _ loaded first _ _ _ loadable calls loads _ _ latched told _ =>
      refine ⟨told.symm, fun other error one failed => ?_, fun made failure same failed => ?_⟩
      · obtain rfl : loaded = other :=
          List.singleton_inj.mp (List.append_cancel_left (loads.symm.trans one))
        cases loadable.symm.trans failed
      · obtain rfl : first = made := List.append_cancel_left (calls.symm.trans same)
        rw [latched, failed]
        rfl

/-- A latched error stays, and every tick is an all-stop, until a mode is entered again. -/
theorem latched_run {session : Session (Traced ε) (Labelled π)} (scripting : Scripting ε π)
    {error : ScriptError} (latched : session.controller.latched = some error)
    {later : List (Move ε)} (inside : ∀ move ∈ later, move.isEnter = false) :
    (run scripting.traced (later.map Move.traced) session).controller.latched = some error ∧
      ((run scripting.traced (later.map Move.traced) session).tick scripting.traced).1 =
        .allStop := by
  have silent : session.Silent := .inr (latched ▸ Option.some_ne_none error)
  obtain ⟨still, _, _, kept⟩ := run_silent silent scripting inside
  obtain ⟨after, ticked, _⟩ := tick_silent still scripting
  exact ⟨kept.trans latched, congrArg Prod.fst ticked⟩

variable (scripting : Scripting ε π) (period : Int32) (world : World ε)

/-- In every session that is reached, a tick is scripted exactly if the mode is scripted, the pad
is there, no error is latched, a program is loaded and its step does not fail; the drivetrain is
then left as the step left it. A tick calls the hook of the step, if the program in control has it,
and nothing else. Every other tick ends with a command to stand still. Failures are
latched as they are, and stay latched until a mode is entered again. -/
theorem tick_stops_unless_scripted (moves : List (Move ε)) :
    (∃ outcome after made,
      (tracedRun scripting period world moves).tick scripting.traced = (outcome, after) ∧
      after.world.calls = callsOf scripting period world moves ++ made ∧ made.length ≤ 1 ∧
      made.map Call.hook = (tracedRun scripting period world moves).dueHooks ∧
      (outcome = .scripted ↔
        (tracedRun scripting period world moves).controller.mode.isScripted = true ∧
        (tracedRun scripting period world moves).world.rig.pad.connected = true ∧
        (tracedRun scripting period world moves).controller.latched = none ∧
        (tracedRun scripting period world moves).controller.program.isSome = true ∧
        ∀ call ∈ made, call.failure = none) ∧
      (outcome = .allStop → after.world.rig.drivetrain.speed = 0.0 ∧
        after.world.rig.drivetrain.rotation = 0.0 ∧
        after.world.rig.drivetrain.commands = (lastDrivetrain made
          (tracedRun scripting period world moves).world.rig.drivetrain).commands + 1) ∧
      (outcome = .scripted → after.world.rig.drivetrain = lastDrivetrain made
        (tracedRun scripting period world moves).world.rig.drivetrain) ∧
      (∀ call ∈ made, ∀ failure, call.failure = some failure →
        after.controller.latched = some (failure.toError
          (tracedRun scripting period world moves).controller.mode.unknownCause)) ∧
      ((tracedRun scripting period world moves).world.rig.pad.connected = false →
        made = [] ∧ after.world.rig.snapshot = .neutral)) ∧
    (∀ mode programName result after,
      (tracedRun scripting period world moves).enter scripting.traced mode programName =
        (result, after) →
      after.controller.latched = error? result ∧
      (∀ loaded error, after.world.loads = loadsOf scripting period world moves ++ [loaded] →
        loaded.failure = some error → after.controller.latched = some error) ∧
      ∀ made failure, after.world.calls = callsOf scripting period world moves ++ made →
        firstFailure? made = some failure →
          after.controller.latched = some (failure.toError .native)) ∧
    (∀ error (later : List (Move ε)),
      (tracedRun scripting period world moves).controller.latched = some error →
      (∀ move ∈ later, move.isEnter = false) →
      (tracedRun scripting period world (moves ++ later)).controller.latched = some error ∧
      ((tracedRun scripting period world (moves ++ later)).tick scripting.traced).1 = .allStop) ∧
    (tracedRun scripting period world moves).erased = run scripting moves (.start period world) ∧
    (run scripting moves (.start period world)).tick scripting =
      Prod.map id erased ((tracedRun scripting period world moves).tick scripting.traced) := by
  refine ⟨?_, fun mode programName result after entered => ?_, fun error later latched inside => ?_,
    erased_tracedRun scripting period world moves, ?_⟩
  · have sound := sound_tracedRun scripting period world moves
    obtain ⟨outcome, after, made, ticked, facts, due, healthy⟩ := sound.ticked scripting
    have atMostOne := length_le_of_dueHooks due
    refine ⟨outcome, after, made, ticked, facts.calls, atMostOne, due, ?_, ?_, ?_, ?_,
      facts.unplugged⟩
    · rw [← firstFailure?_eq_none]
      exact facts.scripted
    · rintro rfl
      rw [facts.drivetrain]
      exact ⟨rfl, rfl, rfl⟩
    · rintro rfl
      exact facts.drivetrain
    · intro call member failure failed
      rw [facts.latched, healthy (List.ne_nil_of_mem member), firstFailure?_of_mem atMostOne member,
        failed]
      rfl
  · exact latched_enter _ scripting mode programName entered
  · rw [tracedRun_append]
    exact latched_run scripting latched inside
  · rw [← erased_tracedRun]
    exact tick_erased scripting _

end ScriptedRobot.Control.Session
