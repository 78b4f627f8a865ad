import ScriptedRobot.Deployed.Descriptor
import ScriptedRobot.Proofs.Engine.HostRuns

/-! # Leaving a mode on a host

Leaving stops the drivetrain and the sequence of the shooter, but not the wheels of the shooter:
they are given volts by ticks only, and no tick follows. After leaving they are given what the last
tick gave them. At the very end the scripts are tidied up. Scripts may have given tables finalizers,
which run then and may command the rig once more; the wheels wait for a tick all the same. -/

namespace ScriptedRobot.Engine

open Script (Callable Failure Run Vettable)
open Control (ControlClosed Controller Program Scripting Session)

/-! ## Finalizers -/

/-- Call finalizers with their tables, one after the other. What they raise goes unnoticed. -/
def finalize (finalizers : List (Callable × Nat)) (host : Host) : Host :=
  finalizers.foldl (fun host (finalizer, table) =>
    (run (Run.call finalizer [.table table]) host).2) host

/-- The scripts of the engine, where tidying up runs the finalizers that a collector finds due. -/
def finalizing (collector : Host → List (Callable × Nat)) : Scripting Engine Callable :=
  { scripting with collect := fun host => finalize (collector host) host }

/-- A run of a host whose engine was just started, with a collector. -/
def collectedRun (collector : Host → List (Callable × Nat)) (period : Int32) (host : Host)
    (moves : List HostMove) : Session Engine Callable :=
  Session.run (finalizing collector) (moves.map HostMove.move) (.start period (start host))

/-- A collector plays no part in calling hooks. -/
theorem invokeAll_finalizing (collector : Host → List (Callable × Nat)) (hooks : List Hook)
    (program : Program Callable) (host : Host) :
    program.invokeAll (finalizing collector) hooks host =
      program.invokeAll scripting hooks host := by
  induction hooks generalizing program host with
  | nil => rfl
  | cons hook rest ih =>
      have same : program.invoke (finalizing collector) hook host =
          program.invoke scripting hook host := rfl
      unfold Program.invokeAll
      rw [same]
      rcases program.invoke scripting hook host with ⟨_ | _, after, reached⟩
      · rfl
      · exact ih after reached

/-- Leaving ends with tidying up. -/
theorem exit_finalizing (collector : Host → List (Callable × Nat))
    (session : Session Engine Callable) :
    let stopped := (session.exit scripting).2.world
    (session.exit (finalizing collector)).2.world = finalize (collector stopped) stopped := by
  have same (host : Host) : session.controller.endProgram (finalizing collector) host =
      session.controller.endProgram scripting host := by
    unfold Controller.endProgram
    split
    · rw [invokeAll_finalizing]
    · rfl
  unfold Session.exit Controller.exit
  dsimp only
  rw [same]
  rfl

section Collector

variable {relation : Rig → Rig → Prop}

theorem within_finalize (closed : Capability.RigClosed relation)
    (finalizers : List (Callable × Nat)) (host : Host) :
    Within relation host (finalize finalizers host) := by
  have engine := within_closed closed
  induction finalizers generalizing host with
  | nil => exact engine.refl host
  | cons due rest ih =>
      obtain ⟨finalizer, table⟩ := due
      have vetted : Script.Vettable.IsVetted (fun _ => True) [Script.Value.table table] :=
        Script.isVetted_singleton trivial
      exact engine.trans (engine.run (engine.holds_call finalizer vetted) host) (ih _)

/-- Finalizers are scripts: what scripts stay within, a control loop with a collector does too. -/
theorem LoopClosed.collected (closed : LoopClosed relation)
    (collector : Host → List (Callable × Nat)) :
    ControlClosed (finalizing collector) (Within relation) :=
  { closed.controlClosed with
    collect := fun host => within_finalize closed.toRigClosed (collector host) host }

end Collector

/-! ## Volts -/

/-- The wheels of the shooter are given the same volts. -/
def SameVolts (before after : Rig) : Prop :=
  after.volts = before.volts

/-- Everything but a tick of the shooter leaves the volts alone. -/
theorem sameVolts_loopClosed : LoopClosed SameVolts where
  refl _ := rfl
  trans first second := second.trans first
  load _ := rfl
  intake _ := rfl
  shoot _ := rfl
  stop _ := rfl
  drive _ _ _ := rfl
  stopDrive _ := rfl
  readPad rig := by
    unfold SameVolts Rig.readPad
    split <;> rfl
  reset _ _ := rfl

theorem sameVolts_of_move (move : HostMove) : move.StaysWithin SameVolts := by
  cases move with
  | operate _ => exact fun _ => rfl
  | _ => trivial

section Run

variable (collector : Host → List (Callable × Nat))

theorem ofRig_collectedRun (period : Int32) (host : Host) (moves : List HostMove) :
    (collectedRun collector period host moves).world.scripts.registry.OfRig :=
  ofRig_run (loopClosed_true.collected collector) (ofRig_start host) moves

theorem within_run_silent {moves : List HostMove} (silent : ∀ move ∈ moves, move.isTick = false)
    (session : Session Engine Callable) :
    Within SameVolts session.world
      (Session.run (finalizing collector) (moves.map HostMove.move) session).world := by
  have rigClosed := sameVolts_loopClosed.toRigClosed
  refine within_run_moves rigClosed (fun move member => ?_) session
  exact within_step_of rigClosed (sameVolts_loopClosed.collected collector) (silent move member)
    (sameVolts_of_move move)

end Run

theorem within_start (host : Host) :
    (start host).scripts.registry.OfRig ∧ (start host).rig.volts = host.rig.volts :=
  ⟨ofRig_start host, congrArg Rig.volts (rig_start host)⟩

/-- The volts are zero, of either sign. -/
def AtRest (volts : Shooter.Volts) : Prop :=
  volts.primary == 0.0 ∧ volts.secondary == 0.0

/-- Nothing of the rig moves or is about to. -/
structure IsNeutral (rig : Rig) : Prop where
  speed : rig.drivetrain.speed = 0.0
  rotation : rig.drivetrain.rotation = 0.0
  phase : rig.shooter.phase = .idle
  remaining : rig.shooter.remaining = 0
  wheels : AtRest rig.volts

/-- What leaving a mode does to the rig: everything is stopped but the wheels, which keep their
volts, and after that the scripts are tidied up. -/
structure StopsButWheels (collector : Host → List (Callable × Nat)) (volts : Shooter.Volts)
    (stopped left : Host) : Prop where
  speed : stopped.rig.drivetrain.speed = 0.0
  rotation : stopped.rig.drivetrain.rotation = 0.0
  phase : stopped.rig.shooter.phase = .idle
  remaining : stopped.rig.shooter.remaining = 0
  neutral_iff : IsNeutral stopped.rig ↔ AtRest volts
  /-- Finalizers run last, and may set the drivetrain and the shooter going again. -/
  collected : left = finalize (collector stopped) stopped
  /-- Not even they touch the wheels. -/
  wheels : left.rig.volts = volts

/-- Leaving a mode stops the drivetrain and the sequence of the shooter, whatever the hooks of its
end did and whether they failed. The wheels keep the volts of the last tick: everything is neutral
exactly if that tick gave none, and a robot that never ticked has the volts it came with. All of
this is so before the scripts are tidied up, which `scripting` does without running any finalizer;
with finalizers only the volts are sure to stay as they are. -/
theorem volts_of_exit (collector : Host → List (Callable × Nat)) (period : Int32) (host : Host)
    (moves : List HostMove) :
    let session := collectedRun collector period host moves
    StopsButWheels collector session.world.rig.volts (session.exit scripting).2.world
      (session.exit (finalizing collector)).2.world ∧
    (∀ earlier later, moves = earlier ++ .tick :: later →
      (∀ move ∈ later, move.isTick = false) →
      session.world.rig.volts = ((collectedRun collector period host earlier).midTick
        (finalizing collector)).2.2.rig.shooter.output) ∧
    ((∀ move ∈ moves, move.isTick = false) → session.world.rig.volts = host.rig.volts) := by
  intro session
  have ofRig : session.world.scripts.registry.OfRig :=
    ofRig_collectedRun collector period host moves
  have stopped := (sameVolts_loopClosed.controlClosed.exit session ofRig).2
  have left := ((sameVolts_loopClosed.collected collector).exit session ofRig).2
  refine ⟨⟨rfl, rfl, rfl, rfl, ⟨fun neutral => ?_, fun rest => ?_⟩,
    exit_finalizing collector session, left⟩, ?_, fun silent => ?_⟩
  · exact stopped ▸ neutral.wheels
  · exact ⟨rfl, rfl, rfl, rfl, stopped.symm ▸ rest⟩
  -- The last tick gives the volts, and nothing after it touches them.
  · rintro earlier later rfl silent
    let before := collectedRun collector period host earlier
    have ofRigTick : (before.tick (finalizing collector)).2.world.scripts.registry.OfRig :=
      ofRig_tick (loopClosed_true.collected collector)
        (ofRig_collectedRun collector period host earlier)
    have kept := within_run_silent collector silent (before.tick (finalizing collector)).2 ofRigTick
    have reached : session = Session.run (finalizing collector) (later.map HostMove.move)
        (before.tick (finalizing collector)).2 := by
      change Session.run _ _ _ = _
      rw [List.map_append, Session.run_append]
      rfl
    rw [reached]
    exact kept.2.trans (volts_tick before)
  · obtain ⟨ofRigStart, given⟩ := within_start host
    exact (within_run_silent collector silent (.start period (start host)) ofRigStart).2.trans given

/-- A script starts a shot, and one tick warms it up. -/
def firstShot : List HostMove := [
  .bind .shooter,
  .enter .teleop none,
  .execute [Deployed.command "shooter" "shoot" []],
  .tick]

theorem wheels_spin_after_exit :
    ¬ IsNeutral ((hostRun 20 { scripts := {} } firstShot).exit scripting).2.world.rig := by
  intro neutral
  have still := neutral.wheels.1
  revert still
  decide +kernel

end ScriptedRobot.Engine
