import ScriptedRobot.Proofs.Control.Activity

/-! # What the control loop can do to the world

Between two ticks of the shooter the control loop only runs scripts, reports, reads the pad, resets
or stops the shooter, and stops the drivetrain. A relation between worlds that allows these and can
be chained holds over entering and leaving a mode, and over a tick up to the tick of the shooter. -/

namespace ScriptedRobot.Control

variable {ε π : Type}

/-- A relation between worlds that the middle of a tick stays within: a report, a callback, and
reading the pad. -/
structure StepClosed (scripting : Scripting ε π) (relation : World ε → World ε → Prop) :
    Prop where
  refl : ∀ world, relation world world
  trans : ∀ {first second third}, relation first second → relation second third →
    relation first third
  note : ∀ world severity source message, relation world (world.note severity source message)
  run : ∀ callback world, relation world (scripting.run callback world).2
  readPad : ∀ world, relation world (world.act Rig.readPad)

/-- A relation between worlds that all of an activation stays within, once the shooter was reset,
up to the ticks of the shooter. -/
structure ActivationClosed (scripting : Scripting ε π) (relation : World ε → World ε → Prop) :
    Prop extends StepClosed scripting relation where
  load : ∀ name world, relation world (scripting.load name world).2
  collect : ∀ world, relation world (scripting.collect world)
  stopDrive : ∀ world, relation world (world.act Rig.stopDrive)
  stopShooter : ∀ world,
    relation world (world.changeRig fun rig => rig.changeShooter Shooter.Sequence.stop)

/-- A relation between worlds that everything but a tick of the shooter stays within. -/
structure ControlClosed (scripting : Scripting ε π) (relation : World ε → World ε → Prop) :
    Prop extends ActivationClosed scripting relation where
  settings : ∀ world, relation world (scripting.settings world).2
  reset : ∀ (world : World ε) settings events, relation world
    (world.act fun rig => (rig.changeShooter fun shooter => shooter.reset settings, events))

namespace StepClosed

variable {scripting : Scripting ε π} {relation : World ε → World ε → Prop}
  (closed : StepClosed scripting relation)
include closed

theorem invoke (hook : Hook) (program : Program π) (world : World ε) :
    relation world (program.invoke scripting hook world).2.2 := by
  unfold Program.invoke
  split
  · exact closed.refl world
  cases program.callbacks.lookup hook with
  | none => exact closed.refl world
  | some callback =>
      have kept := closed.run callback world
      dsimp only
      generalize scripting.run callback world = ran at kept ⊢
      rcases ran with ⟨_ | _, after⟩
      · exact kept
      · exact kept

theorem call (hook : Hook) (style : CallStyle) (program : Program π) (world : World ε) :
    relation world (program.call scripting hook style world).2.2 := by
  have kept := closed.invoke hook program world
  cases style with
  | mustSucceed => exact kept
  | fireAndForget =>
      unfold Program.call Program.fire
      dsimp only
      generalize program.invoke scripting hook world = ran at kept ⊢
      rcases ran with ⟨_ | _, _, after⟩
      · exact closed.trans kept (closed.note after _ _ _)
      · exact kept

theorem polled (controller : Controller π) (world : World ε) :
    relation world (controller.polled world).2 := by
  have counted : relation world (controller.countTick world).2 := by
    unfold Controller.countTick
    rcases controller.ticker.tick with ⟨_ | _, _⟩
    · exact closed.refl world
    · exact closed.note world _ _ _
  have read : ∀ (controller : Controller π) world,
      relation world (controller.pollPad world).2 := by
    intro controller world
    unfold Controller.pollPad
    dsimp only
    split
    · exact closed.readPad world
    · split
      · exact closed.trans (closed.note world _ _ _) (closed.readPad _)
      · exact closed.trans (closed.note world _ _ _) (closed.readPad _)
  exact closed.trans counted (read _ _)

theorem runStep (controller : Controller π) (world : World ε) :
    relation world (controller.runStep scripting world).2.2 := by
  unfold Controller.runStep
  cases controller.program with
  | none => exact closed.refl world
  | some program =>
      have kept := closed.call (Controller.stepHook controller.mode program)
        controller.mode.periodicStyle program world
      dsimp only
      generalize program.call scripting (Controller.stepHook controller.mode program)
        controller.mode.periodicStyle world = ran at kept ⊢
      rcases ran with ⟨_ | outcome, _, after⟩
      · exact closed.trans kept (closed.note after _ _ _)
      · cases outcome with
        | skipped | completed | failed => exact kept

theorem midTick (session : Session ε π) :
    relation session.world (session.midTick scripting).2.2 := by
  have before := closed.polled session.controller session.world
  unfold Session.midTick
  dsimp only
  split
  · exact closed.trans before (closed.runStep _ _)
  · exact before

theorem invokeAll (hooks : List Hook) (program : Program π) (world : World ε) :
    relation world (program.invokeAll scripting hooks world).2.2 := by
  induction hooks generalizing program world with
  | nil => exact closed.refl world
  | cons hook rest ih =>
      have kept := closed.invoke hook program world
      unfold Program.invokeAll
      generalize program.invoke scripting hook world = ran at kept ⊢
      rcases ran with ⟨_ | _, after, reached⟩
      · exact closed.trans kept (closed.note reached _ _ _)
      · exact closed.trans kept (ih after reached)

end StepClosed

namespace ActivationClosed

variable {scripting : Scripting ε π} {relation : World ε → World ε → Prop}
  (closed : ActivationClosed scripting relation)
include closed

theorem startProgram (name : String) (controller : Controller π) (world : World ε) :
    relation world (controller.startProgram scripting name world).2.2 := by
  have loaded := closed.load name world
  unfold Controller.startProgram
  generalize scripting.load name world = ran at loaded ⊢
  obtain ⟨program, reached⟩ := ran
  dsimp only
  split
  · exact closed.trans loaded (closed.note reached _ _ _)
  · have started := closed.invokeAll (Controller.startHooks controller.mode) program
      (reached.note .info .scripts ("loaded program " ++ program.name))
    have noted := closed.trans loaded (closed.note reached .info .scripts
      ("loaded program " ++ program.name))
    generalize program.invokeAll scripting (Controller.startHooks controller.mode) _ = ran
      at started ⊢
    rcases ran with ⟨_ | _, _, after⟩
    · exact closed.trans noted started
    · exact closed.trans noted started

theorem startMode (programName : Option String) (controller : Controller π) (world : World ε) :
    relation world (controller.startMode scripting programName world).2.2 := by
  unfold Controller.startMode
  split
  · cases programName with
    | none => exact closed.note world _ _ _
    | some name => exact closed.startProgram name controller world
  · exact closed.refl world

theorem stopUnless (outcome : TickOutcome) (controller : Controller π) (world : World ε) :
    relation world (controller.stopUnless outcome world).2 := by
  cases outcome with
  | scripted => exact closed.refl world
  | allStop => exact closed.stopDrive world

theorem endProgram (controller : Controller π) (world : World ε) :
    relation world (controller.endProgram scripting world).2 := by
  unfold Controller.endProgram
  split
  · exact closed.invokeAll _ _ world
  · exact closed.refl world

theorem exit (session : Session ε π) :
    relation session.world (session.exit scripting).2.world := by
  have noted := closed.note session.world .info .bot
    ("leaving " ++ session.controller.mode.name ++ " mode")
  have ended := closed.trans noted (closed.endProgram session.controller _)
  have stopped := closed.trans ended (closed.stopDrive _)
  exact closed.trans (closed.trans stopped (closed.stopShooter _)) (closed.collect _)

/-- A tick stays within the relation if the tick of the shooter does. -/
theorem tick (ticks : ∀ world : World ε, relation world (world.changeRig Rig.tickShooter))
    (session : Session ε π) : relation session.world (session.tick scripting).2.world := by
  have ended : (session.tick scripting).2 = Session.endTick (session.midTick scripting).1
      (session.midTick scripting).2.1 (session.midTick scripting).2.2 :=
    congrArg Prod.snd (Session.tick_eq rfl)
  have middle := closed.midTick session
  have stopped := closed.trans middle (closed.stopUnless (session.midTick scripting).1
    (session.midTick scripting).2.1 _)
  rw [ended]
  exact closed.trans stopped (ticks _)

/-- Entering a mode stays within the relation as soon as the shooter was reset. -/
theorem enter_of_reset (mode : Mode) (programName : Option String) (session : Session ε π) :
    relation
      ((session.controller.activate mode).resetShooter scripting
        (session.world.note .info .bot ("entering " ++ mode.name ++ " mode")))
      (session.enter scripting mode programName).2.world := by
  have started := closed.startMode programName (session.controller.activate mode)
    ((session.controller.activate mode).resetShooter scripting
      (session.world.note .info .bot ("entering " ++ mode.name ++ " mode")))
  exact closed.trans started (closed.collect _)

end ActivationClosed

namespace ControlClosed

variable {scripting : Scripting ε π} {relation : World ε → World ε → Prop}
  (closed : ControlClosed scripting relation)
include closed

theorem resetShooter (controller : Controller π) (world : World ε) :
    relation world (controller.resetShooter scripting world) :=
  closed.trans (closed.settings world) (closed.reset _ _ _)

theorem enter (mode : Mode) (programName : Option String) (session : Session ε π) :
    relation session.world (session.enter scripting mode programName).2.world := by
  have noted := closed.note session.world .info .bot ("entering " ++ mode.name ++ " mode")
  have ready := closed.trans noted (closed.resetShooter (session.controller.activate mode) _)
  exact closed.trans ready (closed.enter_of_reset mode programName session)

end ControlClosed

end ScriptedRobot.Control
