import ScriptedRobot.Proofs.Capability.RigAgreement
import ScriptedRobot.Proofs.Control.Lockstep
import ScriptedRobot.Proofs.Engine.Composition
import ScriptedRobot.Proofs.Engine.Machine

/-! # Hosts that scripts cannot tell apart

Two hosts with the same engine may differ in their rigs as far as scripts cannot see it, and in
their journals. Whatever the engine is asked to do comes to the same on both, so that their control
loops run in lockstep. -/

namespace ScriptedRobot.Engine

open Capability (Indistinct Registry ShooterClosed machineOf)
open Control (Lockstep)
open Hardware (Command)
open Script (AnswersAlike Callable Run)

/-- Two hosts with the same engine and related rigs, where nothing but capabilities of the rig was
ever handed out. -/
structure HostsAlike (related : Rig → Rig → Prop) (left right : Host) : Prop where
  scripts : left.scripts = right.scripts
  ofRig : left.scripts.registry.OfRig
  rig : related left.rig right.rig

section Operations

variable {related : Rig → Rig → Prop}
  (answers : ∀ {registry : Registry Rig}, registry.OfRig → AnswersAlike registry related)
  {left right : Host} (alike : HostsAlike related left right)
include alike

theorem HostsAlike.run {α : Type} {step : Run Rig α}
    (agrees : step.Agrees left.scripts.registry related) :
    (Engine.run step left).1 = (Engine.run step right).1 ∧
      HostsAlike related (Engine.run step left).2 (Engine.run step right).2 := by
  have same := alike.scripts
  obtain ⟨outcome, after⟩ := agrees (machineOf left) (machineOf right)
    ⟨rfl, congrArg Engine.registry same.symm, congrArg Engine.store same,
      congrArg Engine.shown same, alike.rig⟩
  have registry := after.registry_left.trans after.registry_right.symm
  rw [run_eq, run_eq]
  refine ⟨outcome, ?_, ?_, after.native⟩
  · dsimp only
    rw [after.store, after.shown, registry, same]
  · intro grant entry found
    exact alike.ofRig grant entry (after.registry_left ▸ found)

include answers

theorem HostsAlike.runCallback (callable : Callable) :
    (Engine.runCallback callable left).1 = (Engine.runCallback callable right).1 ∧
      HostsAlike related (Engine.runCallback callable left).2
        (Engine.runCallback callable right).2 := by
  obtain ⟨same, still⟩ := alike.run
    ((answers alike.ofRig).compositional.holds_call callable [])
  unfold Engine.runCallback
  generalize Engine.run (Run.call callable []) left = ran at same still ⊢
  generalize Engine.run (Run.call callable []) right = otherRan at same still ⊢
  obtain ⟨outcome, after⟩ := ran
  obtain ⟨_, otherAfter⟩ := otherRan
  subst same
  cases outcome with
  | ok _ => exact ⟨rfl, still⟩
  | error _ => exact ⟨rfl, still⟩

theorem HostsAlike.settings :
    (scripting.settings left).1 = (scripting.settings right).1 ∧
      HostsAlike related (scripting.settings left).2 (scripting.settings right).2 := by
  have closed := (answers alike.ofRig).compositional.tracking
  obtain ⟨same, still⟩ := alike.run (closed.holds_shooterSettings closed.holds_lookup)
  exact ⟨congrArg (fun outcome => outcome.toOption.getD {}) same, still⟩

theorem HostsAlike.capture (path : String) :
    (Engine.capture path left).1 = (Engine.capture path right).1 ∧
      HostsAlike related (Engine.capture path left).2 (Engine.capture path right).2 := by
  unfold Engine.capture
  rw [← alike.scripts]
  cases readProgram left.scripts.files path with
  | error error => exact ⟨rfl, alike⟩
  | ok chunk =>
      obtain ⟨same, still⟩ := alike.run
        (holds_captureProgram (answers alike.ofRig).compositional.tracking chunk)
      dsimp only
      generalize Engine.run (captureProgram chunk) left = ran at same still ⊢
      generalize Engine.run (captureProgram chunk) right = otherRan at same still ⊢
      obtain ⟨outcome, after⟩ := ran
      obtain ⟨_, otherAfter⟩ := otherRan
      subst same
      cases outcome with
      | ok _ => exact ⟨rfl, still⟩
      | error _ => exact ⟨rfl, still⟩

omit answers in
theorem HostsAlike.journal (events others : Array Event) :
    HostsAlike related { left with journal := events } { right with journal := others } :=
  ⟨alike.scripts, alike.ofRig, alike.rig⟩

theorem HostsAlike.loadAs (name path : String) :
    (Engine.loadAs name path left).1 = (Engine.loadAs name path right).1 ∧
      HostsAlike related (Engine.loadAs name path left).2 (Engine.loadAs name path right).2 := by
  obtain ⟨same, still⟩ := alike.capture answers path
  unfold Engine.loadAs
  generalize Engine.capture path left = ran at same still ⊢
  generalize Engine.capture path right = otherRan at same still ⊢
  obtain ⟨outcome, after⟩ := ran
  obtain ⟨_, otherAfter⟩ := otherRan
  subst same
  cases outcome with
  | ok _ => exact ⟨rfl, still.journal _ _⟩
  | error _ => exact ⟨rfl, still⟩

theorem HostsAlike.load (program : String) :
    (Engine.load program left).1 = (Engine.load program right).1 ∧
      HostsAlike related (Engine.load program left).2 (Engine.load program right).2 := by
  obtain ⟨same, still⟩ := alike.loadAs answers program
    (resolveProgram left.scripts.searchDirectory program)
  unfold Engine.load
  dsimp only
  rw [← alike.scripts, ← same]
  split
  · exact ⟨rfl, still.journal _ _⟩
  · exact ⟨rfl, still⟩

end Operations

section Rigs

variable {earlier others : List Command} {left right : Rig}
  (indistinct : Indistinct Eq earlier others left right)
include indistinct

theorem Indistinct.readPad : Indistinct Eq earlier others left.readPad.1 right.readPad.1 := by
  unfold Rig.readPad
  rw [indistinct.pad, indistinct.snapshot]
  split
  · exact { indistinct with snapshot := rfl, pad := rfl }
  · exact { indistinct with snapshot := rfl, pad := rfl }

theorem Indistinct.tickShooter : Indistinct Eq earlier others left.tickShooter right.tickShooter :=
  { indistinct with shooter := congrArg Shooter.Sequence.advance indistinct.shooter }

end Rigs

/-- On hosts that scripts cannot tell apart, control loops run in lockstep. -/
theorem lockstep_hostsAlike (earlier others : List Command) :
    Lockstep scripting (HostsAlike (Indistinct Eq earlier others)) := by
  have answers {registry : Registry Rig} (ofRig : registry.OfRig) :
      AnswersAlike registry (Indistinct Eq earlier others) :=
    Capability.answersAlike_of_ofRig Capability.shooterClosed_eq ofRig
  exact
    { journal := fun alike => alike.journal
      load := fun alike => alike.load answers
      run := fun alike => alike.runCallback answers
      collect := fun alike => alike
      pad := fun alike => alike.rig.pad
      readPad := fun alike => { alike with rig := Indistinct.readPad alike.rig }
      stopDrive := fun alike => { alike with rig := alike.rig.drive 0.0 0.0 }
      stopShooter := fun alike =>
        { alike with rig := { alike.rig with
            shooter := congrArg Shooter.Sequence.stop alike.rig.shooter } }
      tickShooter := fun alike => { alike with rig := Indistinct.tickShooter alike.rig }
      output := fun alike => congrArg Shooter.Sequence.output alike.rig.shooter
      operatePad := fun alike change =>
        { alike with rig := { alike.rig with pad := congrArg change alike.rig.pad } } }

end ScriptedRobot.Engine
