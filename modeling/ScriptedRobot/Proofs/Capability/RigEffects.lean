import ScriptedRobot.Capability.Subsystems
import ScriptedRobot.Proofs.Capability.Publishing

/-! # What scripts can do to the rig

As long as nothing but the capabilities of the rig is handed out, a script changes the rig only by
them: the four commands of the shooter, drive commands in range, and stops. A relation between rigs
that allows these and can be chained is kept by whatever scripts do. -/

namespace ScriptedRobot.Capability

open Script (Value Run ScriptClosed)
open Script.Run (Keeps)

/-- A relation between rigs that every command of a script stays within. -/
structure RigClosed (relation : Rig → Rig → Prop) : Prop where
  refl : ∀ rig, relation rig rig
  trans : ∀ {first second third}, relation first second → relation second third →
    relation first third
  load : ∀ rig, relation rig (rig.changeShooter .load)
  intake : ∀ rig, relation rig (rig.changeShooter .intake)
  shoot : ∀ rig, relation rig (rig.changeShooter .shoot)
  stop : ∀ rig, relation rig (rig.changeShooter .stop)
  drive : ∀ rig speed rotation, relation rig { rig with
    drivetrain := (rig.drivetrain.drive (normalized speed) (normalized rotation)).1 }
  stopDrive : ∀ rig, relation rig rig.stopDrive.1

/-- The capabilities of the rig: commands to the shooter, questions about its phase, commands to the
drivetrain, and readings of the pad. -/
inductive RigCapability : Capability Rig → Prop where
  | command (symbol : String) {change : Shooter.Sequence → Shooter.Sequence}
      (isCommand : change = .load ∨ change = .intake ∨ change = .shoot ∨ change = .stop) :
      RigCapability (shooterCommand symbol change)
  | question (symbol : String) (phase : Shooter.Phase) :
      RigCapability (shooterQuestion symbol fun shooter => shooter.phase == phase)
  | drive : RigCapability driveCommand
  | stopDrive : RigCapability (ofSubsystem .drivetrain "stop" .nothing noArguments fun _ rig =>
      ([], rig.stopDrive))
  | reading (symbol : String) (neutral : Script.Neutral) {read : Gamepad.Snapshot → Int → Value}
      (plain : ∀ snapshot index, (read snapshot index).isNative = false) :
      RigCapability (reading symbol neutral read)

theorem rigCapability_of_member {subsystem : Subsystem} {capability : Capability Rig}
    (member : capability ∈ capabilitiesOf subsystem) : RigCapability capability := by
  cases subsystem with
  | shooter =>
      simp only [capabilitiesOf, shooterCapabilities, List.mem_cons, List.not_mem_nil, or_false]
        at member
      rcases member with rfl | rfl | rfl | rfl | rfl | rfl | rfl
      · exact .command _ (.inl rfl)
      · exact .command _ (.inr (.inl rfl))
      · exact .command _ (.inr (.inr (.inl rfl)))
      · exact .command _ (.inr (.inr (.inr rfl)))
      · exact .question _ .idle
      · exact .question _ .loading
      · exact .question _ .shooting
  | drivetrain =>
      simp only [capabilitiesOf, drivetrainCapabilities, List.mem_cons, List.not_mem_nil, or_false]
        at member
      rcases member with rfl | rfl
      · exact .drive
      · exact .stopDrive
  | gamepad =>
      simp only [capabilitiesOf, gamepadCapabilities, List.mem_cons, List.not_mem_nil, or_false]
        at member
      rcases member with rfl | rfl | rfl
      · exact .reading _ _ fun _ _ => rfl
      · exact .reading _ _ fun _ _ => rfl
      · exact .reading _ _ fun _ _ => rfl

theorem perform_ofSubsystem {relation : Rig → Rig → Prop} {α : Type} {subsystem : Subsystem}
    {symbol : String} {neutral : Script.Neutral}
    {takeArguments : List Value → Except Script.ArgumentFault α}
    {act : α → Rig → List Value × Rig × List Event} (refl : ∀ rig, relation rig rig)
    (acts : ∀ taken rig, relation rig (act taken rig).2.1) (arguments : List Value) (rig : Rig) :
    relation rig
      ((ofSubsystem subsystem symbol neutral takeArguments act).perform arguments rig).2.1 := by
  unfold ofSubsystem
  dsimp only
  split
  · exact refl rig
  · split
    · exact refl rig
    · exact acts _ rig

namespace RigClosed

variable {relation : Rig → Rig → Prop} (closed : RigClosed relation)
include closed

/-- Whatever a script gets hold of, a call stays within the relation. -/
theorem perform {subsystem : Subsystem} {capability : Capability Rig}
    (member : capability ∈ capabilitiesOf subsystem) (arguments : List Value) (rig : Rig) :
    relation rig (capability.perform arguments rig).2.1 := by
  have unchanged : ∀ {α : Type} (_ : α) (rig : Rig), relation rig rig := fun _ => closed.refl
  cases rigCapability_of_member member with
  | command _ isCommand =>
      refine perform_ofSubsystem closed.refl (fun _ => ?_) arguments rig
      rcases isCommand with rfl | rfl | rfl | rfl
      · exact closed.load
      · exact closed.intake
      · exact closed.shoot
      · exact closed.stop
  | drive =>
      exact perform_ofSubsystem closed.refl (fun taken rig => closed.drive rig taken.1 taken.2)
        arguments rig
  | stopDrive => exact perform_ofSubsystem closed.refl (fun _ => closed.stopDrive) arguments rig
  | question _ _ | reading _ _ _ =>
      exact perform_ofSubsystem closed.refl unchanged arguments rig

end RigClosed

/-- A capability of the rig. -/
def IsOfRig (capability : Capability Rig) : Prop :=
  ∃ subsystem, capability ∈ capabilitiesOf subsystem

/-- Nothing but capabilities of the rig was ever handed out. -/
def Registry.OfRig (registry : Registry Rig) : Prop :=
  ∀ (grant : Nat) (entry : Grant Rig), registry.grants[grant]? = some entry →
    IsOfRig entry.capability

namespace Registry

variable {registry : Registry Rig}

theorem ofRig_empty : OfRig {} := nofun

end Registry

/-- While nothing but capabilities of the rig is handed out, the rig stays within a relation. -/
def Within (relation : Rig → Rig → Prop) (before after : Script.Machine Rig) : Prop :=
  before.registry.OfRig → after.registry.OfRig ∧ relation before.native after.native

theorem RigClosed.within {relation : Rig → Rig → Prop} (closed : RigClosed relation) :
    HostClosed IsOfRig (Within relation) where
  refl machine ofRig := ⟨ofRig, closed.refl _⟩
  trans first second ofRig := by
    obtain ⟨ofRigMiddle, reached⟩ := first ofRig
    obtain ⟨ofRigAfter, further⟩ := second ofRigMiddle
    exact ⟨ofRigAfter, closed.trans reached further⟩
  objects _ _ ofRig := ⟨ofRig, closed.refl _⟩
  shown _ _ ofRig := ⟨ofRig, closed.refl _⟩
  perform machine grant entry arguments found _ ofRig := by
    obtain ⟨_, member⟩ := ofRig grant entry found
    exact ⟨ofRig, closed.perform member arguments machine.native⟩
  journal _ _ ofRig := ⟨ofRig, closed.refl _⟩
  handOut _ module _ isOfRig ofRig := ⟨Registry.only_handOut ofRig module isOfRig, closed.refl _⟩
  switchOff _ grant ofRig := ⟨Registry.only_switchOff ofRig grant, closed.refl _⟩
  modules _ _ ofRig := ⟨ofRig, closed.refl _⟩

end ScriptedRobot.Capability
