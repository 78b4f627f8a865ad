import ScriptedRobot.Proofs.Control.Activity

/-! # Control loops in lockstep

Two control loops make the same moves in worlds that scripts cannot tell apart. Their controllers
agree in everything but what they report, when a pad was last seen and when the loop was last
reported alive. Then every answer is the same, and both stay alike. -/

namespace ScriptedRobot.Control

variable {ε π : Type}

/-- A relation between worlds in which scripts come to the same, and which everything that the
control loop does between two activations of a mode keeps. The journals do not matter. -/
structure Lockstep (scripting : Scripting ε π) (related : World ε → World ε → Prop) : Prop where
  journal : ∀ {left right}, related left right → ∀ events others,
    related { left with journal := events } { right with journal := others }
  load : ∀ {left right}, related left right → ∀ name,
    (scripting.load name left).1 = (scripting.load name right).1 ∧
      related (scripting.load name left).2 (scripting.load name right).2
  run : ∀ {left right}, related left right → ∀ callback,
    (scripting.run callback left).1 = (scripting.run callback right).1 ∧
      related (scripting.run callback left).2 (scripting.run callback right).2
  collect : ∀ {left right}, related left right →
    related (scripting.collect left) (scripting.collect right)
  pad : ∀ {left right}, related left right → left.rig.pad = right.rig.pad
  readPad : ∀ {left right}, related left right →
    related (left.act Rig.readPad) (right.act Rig.readPad)
  stopDrive : ∀ {left right}, related left right →
    related (left.act Rig.stopDrive) (right.act Rig.stopDrive)
  stopShooter : ∀ {left right}, related left right →
    related (left.changeRig fun rig => rig.changeShooter Shooter.Sequence.stop)
      (right.changeRig fun rig => rig.changeShooter Shooter.Sequence.stop)
  tickShooter : ∀ {left right}, related left right →
    related (left.changeRig Rig.tickShooter) (right.changeRig Rig.tickShooter)
  output : ∀ {left right}, related left right →
    left.rig.shooter.output = right.rig.shooter.output
  operatePad : ∀ {left right}, related left right → ∀ change : Hardware.Pad → Hardware.Pad,
    related (left.changeRig fun rig => { rig with pad := change rig.pad })
      (right.changeRig fun rig => { rig with pad := change rig.pad })

/-- Two controllers that do the same from now on. -/
structure Controller.Alike (left right : Controller π) : Prop where
  period : left.period = right.period
  mode : left.mode = right.mode
  program : left.program = right.program
  latched : left.latched = right.latched
  ticks : left.ticks = right.ticks
  allStopTicks : left.allStopTicks = right.allStopTicks

theorem Controller.polled_world (controller : Controller π) (world : World ε) :
    ∃ events, (controller.polled world).2 = { world.act Rig.readPad with journal := events } := by
  refine ⟨(controller.polled world).2.journal, ?_⟩
  calc (controller.polled world).2
    _ = ⟨(controller.polled world).2.scripts, (controller.polled world).2.rig,
          (controller.polled world).2.journal⟩ := rfl
    _ = ⟨world.scripts, world.rig.readPad.1, (controller.polled world).2.journal⟩ := by
      rw [controller.polled_scripts, controller.polled_rig]

/-- Two operations give the same answer and leave things alike. -/
structure InStep {α β : Type} (alike : β → β → Prop) (related : World ε → World ε → Prop)
    (left right : α × β × World ε) : Prop where
  answer : left.1 = right.1
  state : alike left.2.1 right.2.1
  world : related left.2.2 right.2.2

namespace Lockstep

variable {scripting : Scripting ε π} {related : World ε → World ε → Prop}
  (lockstep : Lockstep scripting related)
include lockstep

theorem note {left right : World ε} (alike : related left right) (severity other : Severity)
    (source otherSource : Source) (message otherMessage : String) :
    related (left.note severity source message) (right.note other otherSource otherMessage) :=
  lockstep.journal alike _ _

/-! ## Programs -/

section Programs

variable {left right : World ε} (alike : related left right)
include alike

theorem invoke (hook : Hook) (program : Program π) :
    InStep Eq related (program.invoke scripting hook left)
      (program.invoke scripting hook right) := by
  unfold Program.invoke
  split
  · exact ⟨rfl, rfl, alike⟩
  cases program.callbacks.lookup hook with
  | none => exact ⟨rfl, rfl, alike⟩
  | some callback =>
      obtain ⟨same, still⟩ := lockstep.run alike callback
      dsimp only
      generalize scripting.run callback left = ran at same still ⊢
      generalize scripting.run callback right = otherRan at same still ⊢
      obtain ⟨outcome, reached⟩ := ran
      obtain ⟨_, otherReached⟩ := otherRan
      subst same
      cases outcome with
      | ok _ => exact ⟨rfl, rfl, still⟩
      | error _ => exact ⟨rfl, rfl, still⟩

theorem call (hook : Hook) (style : CallStyle) (program : Program π) :
    InStep Eq related (program.call scripting hook style left)
      (program.call scripting hook style right) := by
  have invoked := lockstep.invoke alike hook program
  cases style with
  | mustSucceed => exact invoked
  | fireAndForget =>
      obtain ⟨same, program_eq, still⟩ := invoked
      unfold Program.call Program.fire
      dsimp only
      generalize program.invoke scripting hook left = ran at same program_eq still ⊢
      generalize program.invoke scripting hook right = otherRan at same program_eq still ⊢
      obtain ⟨outcome, after, reached⟩ := ran
      obtain ⟨_, _, otherReached⟩ := otherRan
      subst same program_eq
      cases outcome with
      | ok _ => exact ⟨rfl, rfl, still⟩
      | error _ => exact ⟨rfl, rfl, lockstep.note still _ _ _ _ _ _⟩

theorem invokeAll (hooks : List Hook) (program : Program π) :
    InStep Eq related (program.invokeAll scripting hooks left)
      (program.invokeAll scripting hooks right) := by
  induction hooks generalizing program left right with
  | nil => exact ⟨rfl, rfl, alike⟩
  | cons hook rest ih =>
      obtain ⟨same, program_eq, still⟩ := lockstep.invoke alike hook program
      unfold Program.invokeAll
      generalize program.invoke scripting hook left = ran at same program_eq still ⊢
      generalize program.invoke scripting hook right = otherRan at same program_eq still ⊢
      obtain ⟨outcome, after, reached⟩ := ran
      obtain ⟨_, _, otherReached⟩ := otherRan
      subst same program_eq
      cases outcome with
      | ok _ => exact ih still after
      | error _ => exact ⟨rfl, rfl, lockstep.note still _ _ _ _ _ _⟩

end Programs

/-! ## Controllers -/

section Controllers

variable {controller other : Controller π} (same : controller.Alike other)
  {left right : World ε} (alike : related left right)
include same alike

theorem startProgram (name : String) :
    InStep Controller.Alike related (controller.startProgram scripting name left)
      (other.startProgram scripting name right) := by
  obtain ⟨program_eq, loaded⟩ := lockstep.load alike name
  unfold Controller.startProgram
  generalize scripting.load name left = ran at program_eq loaded ⊢
  generalize scripting.load name right = otherRan at program_eq loaded ⊢
  obtain ⟨program, reached⟩ := ran
  obtain ⟨_, otherReached⟩ := otherRan
  subst program_eq
  dsimp only
  cases program.kind with
  | some kind =>
      exact ⟨rfl, { same with program := rfl, latched := rfl },
        lockstep.note loaded _ _ _ _ _ _⟩
  | none =>
      obtain ⟨answer, after_eq, still⟩ := lockstep.invokeAll
        (lockstep.note loaded .info .info .scripts .scripts _ _)
        (Controller.startHooks controller.mode) program
      have hooks : Controller.startHooks other.mode = Controller.startHooks controller.mode :=
        congrArg Controller.startHooks same.mode.symm
      dsimp only
      rw [hooks]
      generalize program.invokeAll scripting (Controller.startHooks controller.mode)
        (reached.note _ _ _) = ran at answer after_eq still ⊢
      generalize program.invokeAll scripting (Controller.startHooks controller.mode)
        (otherReached.note _ _ _) = otherRan at answer after_eq still ⊢
      obtain ⟨outcome, after, started⟩ := ran
      obtain ⟨_, _, otherStarted⟩ := otherRan
      subst answer after_eq
      cases outcome with
      | ok _ => exact ⟨rfl, { same with program := rfl }, still⟩
      | error _ => exact ⟨rfl, { same with program := rfl, latched := rfl }, still⟩

theorem startMode (programName : Option String) :
    InStep Controller.Alike related (controller.startMode scripting programName left)
      (other.startMode scripting programName right) := by
  unfold Controller.startMode
  rw [← same.mode]
  split
  · cases programName with
    | none => exact ⟨rfl, same, lockstep.note alike _ _ _ _ _ _⟩
    | some name => exact lockstep.startProgram same alike name
  · exact ⟨rfl, same, alike⟩

theorem runStep :
    InStep Controller.Alike related (controller.runStep scripting left)
      (other.runStep scripting right) := by
  unfold Controller.runStep
  rw [← same.program, ← same.mode]
  cases controller.program with
  | none => exact ⟨rfl, same, alike⟩
  | some program =>
      obtain ⟨answer, after_eq, still⟩ := lockstep.call alike
        (Controller.stepHook controller.mode program) controller.mode.periodicStyle program
      dsimp only
      generalize program.call scripting (Controller.stepHook controller.mode program)
        controller.mode.periodicStyle left = ran at answer after_eq still ⊢
      generalize program.call scripting (Controller.stepHook controller.mode program)
        controller.mode.periodicStyle right = otherRan at answer after_eq still ⊢
      obtain ⟨outcome, after, reached⟩ := ran
      obtain ⟨_, _, otherReached⟩ := otherRan
      subst answer after_eq
      cases outcome with
      | error _ =>
          exact ⟨rfl, { same with mode := rfl, program := rfl, latched := rfl },
            lockstep.note still _ _ _ _ _ _⟩
      | ok outcome =>
          cases outcome with
          | failed => exact ⟨rfl, { same with mode := rfl, program := rfl, latched := rfl }, still⟩
          | skipped | completed => exact ⟨rfl, { same with mode := rfl, program := rfl }, still⟩

theorem polled :
    InStep Controller.Alike related
      ((controller.polled left).1.isInControl, controller.polled left)
      ((other.polled right).1.isInControl, other.polled right) where
  answer := by
    rw [Controller.isInControl_polled, Controller.isInControl_polled, same.mode, same.latched,
      lockstep.pad alike]
  state := by
    have next : controller.ticks + 1 = other.ticks + 1 := congrArg (· + 1) same.ticks
    unfold Controller.polled Controller.pollPad Controller.countTick
    rcases controller.ticker.tick with ⟨_ | _, _⟩ <;>
      rcases other.ticker.tick with ⟨_ | _, _⟩ <;> exact { same with ticks := next }
  world := by
    obtain ⟨events, polled⟩ := controller.polled_world left
    obtain ⟨others, otherPolled⟩ := other.polled_world right
    rw [polled, otherPolled]
    exact lockstep.journal (lockstep.readPad alike) events others

theorem stopUnless (outcome : TickOutcome) :
    (controller.stopUnless outcome left).1.Alike (other.stopUnless outcome right).1 ∧
      related (controller.stopUnless outcome left).2 (other.stopUnless outcome right).2 := by
  cases outcome with
  | scripted => exact ⟨same, alike⟩
  | allStop =>
      exact ⟨{ same with allStopTicks := congrArg (· + 1) same.allStopTicks },
        lockstep.stopDrive alike⟩

theorem endProgram :
    (controller.endProgram scripting left).1 = (other.endProgram scripting right).1 ∧
      related (controller.endProgram scripting left).2
        (other.endProgram scripting right).2 := by
  unfold Controller.endProgram
  rw [← same.program, ← same.latched, ← same.mode]
  cases controller.program with
  | none => exact ⟨rfl, alike⟩
  | some program =>
      cases controller.latched with
      | some _ => exact ⟨rfl, alike⟩
      | none =>
          obtain ⟨answer, _, still⟩ :=
            lockstep.invokeAll alike (Controller.endHooks controller.mode) program
          exact ⟨answer, still⟩

end Controllers

/-! ## Sessions -/

section Sessions

variable {left right : Session ε π} (same : left.controller.Alike right.controller)
  (alike : related left.world right.world)
include same alike

theorem midTick :
    InStep Controller.Alike related (left.midTick scripting) (right.midTick scripting) := by
  obtain ⟨driven, samePolled, reached⟩ := lockstep.polled same alike
  unfold Session.midTick
  dsimp only at driven samePolled reached ⊢
  rw [← driven]
  split
  · exact lockstep.runStep samePolled reached
  · exact ⟨rfl, samePolled, reached⟩

/-- A tick has the same outcome, and it gives the wheels of the shooter the same volts. -/
theorem tick :
    (left.tick scripting).1 = (right.tick scripting).1 ∧
      (left.tick scripting).2.controller.Alike (right.tick scripting).2.controller ∧
      related (left.tick scripting).2.world (right.tick scripting).2.world ∧
      (left.tick scripting).2.world.rig.volts = (right.tick scripting).2.world.rig.volts := by
  obtain ⟨outcome, sameMiddle, reached⟩ := lockstep.midTick same alike
  obtain ⟨sameStopped, stopped⟩ :=
    lockstep.stopUnless sameMiddle reached (left.midTick scripting).1
  have ticked : left.tick scripting = ((left.midTick scripting).1, Session.endTick
      (left.midTick scripting).1 (left.midTick scripting).2.1 (left.midTick scripting).2.2) :=
    Session.tick_eq rfl
  have otherTicked : right.tick scripting = ((right.midTick scripting).1, Session.endTick
      (right.midTick scripting).1 (right.midTick scripting).2.1 (right.midTick scripting).2.2) :=
    Session.tick_eq rfl
  rw [ticked, otherTicked, ← outcome]
  exact ⟨rfl, sameStopped, lockstep.tickShooter stopped, lockstep.output stopped⟩

theorem exit :
    (left.exit scripting).1 = (right.exit scripting).1 ∧
      (left.exit scripting).2.controller.Alike (right.exit scripting).2.controller ∧
      related (left.exit scripting).2.world (right.exit scripting).2.world := by
  obtain ⟨answer, ended⟩ :=
    lockstep.endProgram same (lockstep.note alike .info .info .bot .bot _ _)
  refine ⟨answer, { same with mode := rfl, program := rfl }, ?_⟩
  exact lockstep.collect (lockstep.stopShooter (lockstep.stopDrive ended))

end Sessions

/-- Entering a mode does the same as soon as the shooter was reset, whatever the controllers were
like before. -/
theorem enter {left right : Session ε π} {mode : Mode}
    (period : left.controller.period = right.controller.period)
    (reset : related
      ((left.controller.activate mode).resetShooter scripting
        (left.world.note .info .bot ("entering " ++ mode.name ++ " mode")))
      ((right.controller.activate mode).resetShooter scripting
        (right.world.note .info .bot ("entering " ++ mode.name ++ " mode"))))
    (programName : Option String) :
    (left.enter scripting mode programName).1 = (right.enter scripting mode programName).1 ∧
      (left.enter scripting mode programName).2.controller.Alike
        (right.enter scripting mode programName).2.controller ∧
      related (left.enter scripting mode programName).2.world
        (right.enter scripting mode programName).2.world := by
  have activated : (left.controller.activate mode).Alike (right.controller.activate mode) :=
    ⟨period, rfl, rfl, rfl, rfl, rfl⟩
  obtain ⟨answer, same, started⟩ := lockstep.startMode activated reset programName
  exact ⟨answer, same, lockstep.collect started⟩

end Lockstep

/-! ## Runs -/

/-- What goes on in an activation: the control loop ticks or leaves the mode, and in between
somebody plugs the pad in or out and moves its sticks. -/
inductive Input where
  | tick
  | exit
  | pad (change : Hardware.Pad → Hardware.Pad)

/-- An input as a move of a session. -/
def Input.move : Input → Move ε
  | .tick => .tick
  | .exit => .exit
  | .pad change => .outside fun world =>
    world.changeRig fun rig => { rig with pad := change rig.pad }

theorem Input.traced_move (input : Input) : (input.move : Move ε).traced = input.move := by
  cases input <;> rfl

/-- Under the same inputs control loops stay in lockstep. -/
theorem Lockstep.run_inputs {scripting : Scripting ε π} {related : World ε → World ε → Prop}
    (lockstep : Lockstep scripting related) (inputs : List Input) {left right : Session ε π}
    (same : left.controller.Alike right.controller) (alike : related left.world right.world) :
    (Session.run scripting (inputs.map Input.move) left).controller.Alike
        (Session.run scripting (inputs.map Input.move) right).controller ∧
      related (Session.run scripting (inputs.map Input.move) left).world
        (Session.run scripting (inputs.map Input.move) right).world := by
  induction inputs generalizing left right with
  | nil => exact ⟨same, alike⟩
  | cons input rest ih =>
      rw [List.map_cons, Session.run_cons, Session.run_cons]
      cases input with
      | tick =>
          obtain ⟨_, sameTicked, ticked, _⟩ := lockstep.tick same alike
          exact ih sameTicked ticked
      | exit =>
          obtain ⟨_, sameLeft, left⟩ := lockstep.exit same alike
          exact ih sameLeft left
      | pad change => exact ih same (lockstep.operatePad alike change)

/-! ## Traces -/

/-- What is known of a call besides what it did to the drivetrain. -/
def Call.told (call : Call) : Nat × Hook × Option CallFailure :=
  (call.load, call.hook, call.failure)

/-- Related worlds in which the same programs were loaded and the same callbacks were run. -/
structure TracedAlike (related : World ε → World ε → Prop) (left right : World (Traced ε)) :
    Prop where
  erased : related left.erased right.erased
  loads : left.loads = right.loads
  calls : left.calls.map Call.told = right.calls.map Call.told

/-- Control loops in lockstep load the same programs and run the same callbacks. -/
theorem Lockstep.traced {scripting : Scripting ε π} {related : World ε → World ε → Prop}
    (lockstep : Lockstep scripting related) :
    Lockstep scripting.traced (TracedAlike related) where
  journal alike events others := { alike with erased := lockstep.journal alike.erased _ _ }
  load {left right} alike name := by
    obtain ⟨program_eq, still⟩ := lockstep.load alike.erased name
    refine ⟨?_, still, ?_, alike.calls⟩
    · change (scripting.load name left.erased).1.labelled left.loads.length =
        (scripting.load name right.erased).1.labelled right.loads.length
      rw [alike.loads, program_eq]
    · change left.loads ++ [⟨_, _⟩] = right.loads ++ [⟨_, _⟩]
      rw [alike.loads, program_eq]
  run {left right} alike callback := by
    obtain ⟨same, still⟩ := lockstep.run alike.erased callback.callback
    refine ⟨same, still, alike.loads, ?_⟩
    change (left.calls ++ [_]).map Call.told = (right.calls ++ [_]).map Call.told
    rw [List.map_append, List.map_append, alike.calls]
    unfold Labelled.record Call.told
    simp only [List.map_cons, List.map_nil, same]
  collect alike := ⟨lockstep.collect alike.erased, alike.loads, alike.calls⟩
  pad alike := lockstep.pad alike.erased
  readPad alike := ⟨lockstep.readPad alike.erased, alike.loads, alike.calls⟩
  stopDrive alike := ⟨lockstep.stopDrive alike.erased, alike.loads, alike.calls⟩
  stopShooter alike := ⟨lockstep.stopShooter alike.erased, alike.loads, alike.calls⟩
  tickShooter alike := ⟨lockstep.tickShooter alike.erased, alike.loads, alike.calls⟩
  output alike := lockstep.output alike.erased
  operatePad alike change := ⟨lockstep.operatePad alike.erased change, alike.loads, alike.calls⟩

end ScriptedRobot.Control
