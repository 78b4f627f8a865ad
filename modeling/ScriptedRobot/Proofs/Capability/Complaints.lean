import ScriptedRobot.Proofs.Capability.RigEffects
import ScriptedRobot.Proofs.Script.Provenance

/-! # Complaints of capabilities

A failure of a capability of the rig has a message: a complaint about an argument, or about a lock
that was left behind. Publishing such capabilities, and retracting them, leaves it at that, so that
no script ever deals with a failure that says nothing. -/

namespace ScriptedRobot

open Script (ArgumentFault Failure Run Value)
open Script.Run (Vets)
open Script.Vettable (IsVetted)

/-- The failure says something. -/
def Script.Failure.HasMessage (failure : Failure) : Prop :=
  failure.rootMessage ≠ ""

theorem Script.message_ne (fault : ArgumentFault) : fault.message ≠ "" := by
  unfold ArgumentFault.message
  cases fault <;> simp

/-- What is reported about a raised value says something, if failures do. -/
theorem Script.errorMessage_ne {raised : Value} (vetted : IsVetted Failure.HasMessage raised) :
    raised.errorMessage ≠ "" := by
  unfold Value.errorMessage
  cases raised with
  | failure cause => exact vetted
  | _ => simp

theorem Script.hasMessage_wrap (raised : Value) (vetted : IsVetted Failure.HasMessage raised) :
    Failure.HasMessage (.wrap raised) := by
  unfold Failure.wrap
  cases raised with
  | failure inner => exact vetted
  | _ => simp [Failure.HasMessage, Failure.rootMessage]

namespace Capability

section Publication

variable {σ : Type} {allowed : Failure → Prop} {admitted : Capability σ → Prop}

/-- Vetting passes from the steps of scripts to publishing faithful capabilities. -/
theorem tracked_vets (wraps : ∀ raised : Value, IsVetted allowed raised → allowed (.wrap raised))
    (faithful : ∀ capability, admitted capability → capability.IsFaithful allowed) :
    HostTracked allowed admitted fun step : Run σ _ => Vets allowed step where
  toTracking := Script.tracking_vets wraps
  machine _ vetted := ⟨vetted, vetted⟩
  note _ _ _ vetted := ⟨trivial, vetted⟩
  handOutAll module _ admittedAll machine vetted := by
    have handedOut := (only_closed fun capability => capability.IsFaithful allowed).keeps_handOutAll
      (fun capability member => faithful capability (admittedAll capability member)) module machine
    exact ⟨trivial, vetted.1, handedOut vetted.2⟩
  switchOff grant machine vetted := ⟨trivial, vetted.1, Registry.only_switchOff vetted.2 grant⟩
  retire module machine vetted := by
    have retired := (only_closed fun capability => capability.IsFaithful allowed).keeps_retire module
      machine
    exact ⟨trivial, vetted.1, retired vetted.2⟩
  record _ _ _ vetted := ⟨trivial, vetted⟩

end Publication

theorem poisonMessage_ne (subsystem : Subsystem) : poisonMessage subsystem ≠ "" := by
  simp [poisonMessage]

/-- Whatever a capability of a subsystem does, it fails with a message. -/
theorem isFaithful_ofSubsystem {α : Type} {subsystem : Subsystem} {symbol : String}
    {neutral : Script.Neutral} {takeArguments : List Value → Except ArgumentFault α}
    {act : α → Rig → List Value × Rig × List Event}
    (answers : ∀ taken rig, IsVetted Failure.HasMessage (act taken rig).1) :
    (ofSubsystem subsystem symbol neutral takeArguments act).IsFaithful Failure.HasMessage := by
  intro arguments rig _
  unfold ofSubsystem
  dsimp only
  cases takeArguments arguments with
  | error fault => exact Script.message_ne fault
  | ok taken =>
      dsimp only
      split
      · exact poisonMessage_ne subsystem
      · exact answers taken rig

theorem isFaithful_of_isOfRig (capability : Capability Rig) (isOfRig : IsOfRig capability) :
    capability.IsFaithful Failure.HasMessage := by
  obtain ⟨subsystem, member⟩ := isOfRig
  cases rigCapability_of_member member with
  | command _ _ | drive | stopDrive =>
      exact isFaithful_ofSubsystem fun _ _ => Script.isVetted_nil
  | question _ _ =>
      exact isFaithful_ofSubsystem fun _ _ => Script.isVetted_singleton trivial
  | reading _ _ plain =>
      exact isFaithful_ofSubsystem fun _ _ =>
        Script.isVetted_singleton (Script.isVetted_of_plain (plain _ _))

end Capability

end ScriptedRobot
