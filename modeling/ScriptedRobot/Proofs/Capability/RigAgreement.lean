import ScriptedRobot.Proofs.Capability.RigEffects
import ScriptedRobot.Proofs.Script.Agreement

/-! # Rigs that scripts cannot tell apart

Scripts learn the phase of the shooter, the snapshot of the pad, and which subsystems are poisoned.
They never learn what volts the wheels were given or what commands the drivetrain received before,
and of the shooter they learn no more than a relation between shooters that fixes the phase. -/

namespace ScriptedRobot.Capability

open Hardware (Command)
open Script (Value AnswersAlike)

/-- A relation between shooters in the same phase that every command of a script keeps. -/
structure ShooterClosed (similar : Shooter.Sequence → Shooter.Sequence → Prop) : Prop where
  phase : ∀ {left right}, similar left right → left.phase = right.phase
  load : ∀ {left right}, similar left right → similar left.load right.load
  shoot : ∀ {left right}, similar left right → similar left.shoot right.shoot
  stop : ∀ {left right}, similar left right → similar left.stop right.stop

theorem shooterClosed_eq : ShooterClosed Eq where
  phase same := congrArg _ same
  load same := congrArg _ same
  shoot same := congrArg _ same
  stop same := congrArg _ same

/-- The two shooters are in the same phase. -/
def SamePhase (left right : Shooter.Sequence) : Prop :=
  left.phase = right.phase

theorem shooterClosed_samePhase : ShooterClosed SamePhase where
  phase same := same
  load {left right} same := by
    unfold SamePhase Shooter.Sequence.load at *
    rw [same]
    cases phase : right.phase with
    | idle => rfl
    | loading | shooting => rw [same, phase]
  shoot {left right} same := by
    unfold SamePhase Shooter.Sequence.shoot at *
    rw [same]
    cases phase : right.phase with
    | idle => rfl
    | loading | shooting => rw [same, phase]
  stop _ := rfl

/-- Two rigs that scripts cannot tell apart, and whose drivetrains received the same commands since
they had received some earlier ones. -/
structure Indistinct (similar : Shooter.Sequence → Shooter.Sequence → Prop)
    (earlier others : List Command) (left right : Rig) : Prop where
  shooter : similar left.shooter right.shooter
  snapshot : left.snapshot = right.snapshot
  pad : left.pad = right.pad
  poisoned : left.poisoned = right.poisoned
  commands : ∃ commands, left.drivetrain.received = commands ++ earlier ∧
    right.drivetrain.received = commands ++ others

variable {similar : Shooter.Sequence → Shooter.Sequence → Prop} {earlier others : List Command}

namespace Indistinct

/-- Both rigs answer a call alike, and are indistinct afterwards. -/
def AnswerAlike (similar : Shooter.Sequence → Shooter.Sequence → Prop)
    (earlier others : List Command) (capability : Capability Rig) (left right : Rig) : Prop :=
  ∀ arguments,
    (capability.perform arguments left).1 = (capability.perform arguments right).1 ∧
      Indistinct similar earlier others (capability.perform arguments left).2.1
        (capability.perform arguments right).2.1

variable {left right : Rig} (indistinct : Indistinct similar earlier others left right)
include indistinct

theorem drive (speed rotation : Float) :
    Indistinct similar earlier others
      { left with drivetrain := (left.drivetrain.drive speed rotation).1 }
      { right with drivetrain := (right.drivetrain.drive speed rotation).1 } := by
  obtain ⟨commands, received, otherReceived⟩ := indistinct.commands
  refine { indistinct with commands := ⟨⟨speed, rotation⟩ :: commands, ?_, ?_⟩ }
  · exact congrArg (List.cons _) received
  · exact congrArg (List.cons _) otherReceived

theorem ofSubsystem {α : Type} {subsystem : Subsystem} {symbol : String}
    {neutral : Script.Neutral} {takeArguments : List Value → Except Script.ArgumentFault α}
    {act : α → Rig → List Value × Rig × List Event}
    (acts : ∀ taken, (act taken left).1 = (act taken right).1 ∧
      Indistinct similar earlier others (act taken left).2.1 (act taken right).2.1) :
    AnswerAlike similar earlier others
      (ofSubsystem subsystem symbol neutral takeArguments act) left right := by
  intro arguments
  dsimp only [Capability.ofSubsystem]
  rw [indistinct.poisoned]
  cases takeArguments arguments with
  | error fault => exact ⟨rfl, indistinct⟩
  | ok taken =>
      dsimp only
      split
      · exact ⟨rfl, indistinct⟩
      · exact ⟨congrArg Reply.returns (acts taken).1, (acts taken).2⟩

theorem shooterCommand {symbol : String} {change : Shooter.Sequence → Shooter.Sequence}
    (changes : similar (change left.shooter) (change right.shooter)) :
    AnswerAlike similar earlier others (shooterCommand symbol change) left right :=
  indistinct.ofSubsystem fun _ => ⟨rfl, { indistinct with shooter := changes }⟩

theorem shooterQuestion {symbol : String} {answer : Shooter.Sequence → Bool}
    (same : answer left.shooter = answer right.shooter) :
    AnswerAlike similar earlier others (shooterQuestion symbol answer) left right :=
  indistinct.ofSubsystem fun _ =>
    ⟨congrArg (fun answer => [Value.boolean answer]) same, indistinct⟩

theorem reading {symbol : String} {neutral : Script.Neutral}
    {read : Gamepad.Snapshot → Int → Value} :
    AnswerAlike similar earlier others (reading symbol neutral read) left right :=
  indistinct.ofSubsystem fun index =>
    ⟨congrArg (fun snapshot => [read snapshot index.toInt]) indistinct.snapshot, indistinct⟩

/-- Whatever capability of the rig is called, it is answered alike. -/
theorem answerAlike (closed : ShooterClosed similar) {subsystem : Subsystem}
    {capability : Capability Rig} (member : capability ∈ capabilitiesOf subsystem) :
    AnswerAlike similar earlier others capability left right := by
  have shooter := indistinct.shooter
  cases rigCapability_of_member member with
  | command _ isCommand =>
      refine indistinct.shooterCommand ?_
      rcases isCommand with rfl | rfl | rfl | rfl
      · exact closed.load shooter
      · exact closed.load shooter
      · exact closed.shoot shooter
      · exact closed.stop shooter
  | question _ phase =>
      exact indistinct.shooterQuestion (congrArg (· == phase) (closed.phase shooter))
  | drive =>
      exact indistinct.ofSubsystem fun taken =>
        ⟨rfl, indistinct.drive (normalized taken.1) (normalized taken.2)⟩
  | stopDrive => exact indistinct.ofSubsystem fun _ => ⟨rfl, indistinct.drive 0.0 0.0⟩
  | reading _ _ _ => exact indistinct.reading

end Indistinct

/-- Capabilities of the rig answer alike on rigs that scripts cannot tell apart. -/
theorem answersAlike_of_ofRig (closed : ShooterClosed similar) {registry : Registry Rig}
    (ofRig : registry.OfRig) : AnswersAlike registry (Indistinct similar earlier others) := by
  intro grant entry found _ arguments left right indistinct
  obtain ⟨subsystem, member⟩ := ofRig grant entry found
  exact indistinct.answerAlike closed member arguments

end ScriptedRobot.Capability
