import ScriptedRobot.Deployed.Descriptor
import ScriptedRobot.Proofs.Capability.Revocation
import ScriptedRobot.Proofs.Engine.HostRuns
import ScriptedRobot.Proofs.Number.Order

/-! # Drive commands

Scripts command the drivetrain with any two values. Either the values convert, and the drivetrain
receives one command in the range from minus one to one, or the call fails and the rig is as it
was. The control loop itself only ever commands the drivetrain to stand still, so that every command
the drivetrain receives is in range. -/

namespace ScriptedRobot

open Hardware (Command)

/-! ## Normalised values -/

/-- A number in the range from minus one to one. -/
structure IsNormal (value : Float) : Prop where
  number : value.isNaN = false
  lower : -1.0 ≤ value
  upper : value ≤ 1.0

/-- The speed and the rotation are in range. -/
structure Hardware.Command.IsNormal (command : Command) : Prop where
  speed : ScriptedRobot.IsNormal command.speed
  rotation : ScriptedRobot.IsNormal command.rotation

theorem isNormal_zero : IsNormal 0.0 where
  number := by decide +kernel
  lower := by decide +kernel
  upper := by decide +kernel

namespace Capability

variable {value : Float}

theorem normalized_of_isNaN (isNaN : value.isNaN = true) : normalized value = 0.0 :=
  if_pos isNaN

theorem normalized_of_isNormal (normal : IsNormal value) : normalized value = value := by
  unfold normalized
  rw [normal.number, if_neg Bool.false_ne_true, if_neg (Number.not_lt_of_le normal.lower),
    if_neg (Number.not_lt_of_le normal.upper)]

theorem isNormal_normalized (value : Float) : IsNormal (normalized value) := by
  unfold normalized
  split
  case isTrue => exact isNormal_zero
  case isFalse isNumber =>
    have number : value.isNaN = false := Bool.not_eq_true _ ▸ isNumber
    split
    case isTrue => exact ⟨by decide +kernel, by decide +kernel, by decide +kernel⟩
    case isFalse notBelow =>
      split
      case isTrue => exact ⟨by decide +kernel, by decide +kernel, by decide +kernel⟩
      case isFalse notAbove =>
        exact ⟨number, Number.le_of_not_lt (by decide +kernel) number notBelow,
          Number.le_of_not_lt number (by decide +kernel) notAbove⟩

end Capability

namespace Engine

open Script (Value Callable)
open Control (Session)
open Capability (IsOfRig capabilitiesOf driveArguments driveCommand machineOf normalized poisonMessage)

/-! ## Calls -/

/-- What a call to drive comes to: one command in range if the arguments convert, and a failure
that leaves the whole host as it was if they do not or if the drivetrain is poisoned. -/
inductive Driven (arguments : List Value) (before : Host) :
    Except Value (List Value) × Host → Prop where
  | commanded {speed : Float} {rotation : Option Float} {after : Host}
      (speedTaken : (Value.argument arguments 0).toFloat = .ok speed)
      (rotationTaken : (Value.argument arguments 1).toOption Value.toFloat = .ok rotation)
      (scripts : after.scripts = before.scripts)
      (rig : after.rig = { before.rig with drivetrain :=
        ⟨⟨normalized speed, normalized (rotation.getD 0.0)⟩ :: before.rig.drivetrain.received⟩ }) :
      Driven arguments before (.ok [], after)
  | unconvertible {fault : Script.ArgumentFault}
      (refused : driveArguments arguments = .error fault) :
      Driven arguments before (.error (.failure (.cause fault.message)), before)
  | poisoned (left : before.rig.poisoned.contains .drivetrain = true) :
      Driven arguments before
        (.error (.failure (.cause (poisonMessage .drivetrain))), before)

/-- The arguments of a drive command are taken one by one. -/
theorem taken_of_driveArguments {arguments : List Value} {speed rotation : Float}
    (taken : driveArguments arguments = .ok (speed, rotation)) :
    (Value.argument arguments 0).toFloat = .ok speed ∧
      ∃ given, (Value.argument arguments 1).toOption Value.toFloat = .ok given ∧
        rotation = given.getD 0.0 := by
  unfold driveArguments at taken
  cases first : (Value.argument arguments 0).toFloat with
  | error fault =>
      rw [first] at taken
      cases taken
  | ok speedTaken =>
      cases second : (Value.argument arguments 1).toOption Value.toFloat with
      | error fault =>
          rw [first, second] at taken
          cases taken
      | ok given =>
          rw [first, second] at taken
          cases taken
          exact ⟨rfl, given, rfl, rfl⟩

/-- Only one capability of the rig is called drive. -/
theorem eq_driveCommand_of_symbol {capability : Capability Rig} (isOfRig : IsOfRig capability)
    (named : capability.symbol = "drive") : capability = driveCommand := by
  obtain ⟨subsystem, member⟩ := isOfRig
  cases subsystem with
  | shooter =>
      have absent : "drive" ∉ Capability.symbolsOf .shooter := by decide
      rw [Capability.symbolsOf_eq_map] at absent
      exact (absent (named ▸ List.mem_map_of_mem member)).elim
  | drivetrain =>
      simp only [capabilitiesOf, Capability.drivetrainCapabilities, List.mem_cons,
        List.not_mem_nil, or_false] at member
      rcases member with rfl | rfl
      · rfl
      · exact absurd named (by decide)
  | gamepad =>
      have absent : "drive" ∉ Capability.symbolsOf .gamepad := by decide
      rw [Capability.symbolsOf_eq_map] at absent
      exact (absent (named ▸ List.mem_map_of_mem member)).elim

/-- Calls of a live function to drive command the drivetrain once, or do nothing at all. -/
theorem driven_of_live {moment : Host} {grant : Nat} {entry : Capability.Grant Rig}
    (found : moment.scripts.registry.grants[grant]? = some entry) (live : entry.live = true)
    (isOfRig : IsOfRig entry.capability) (named : entry.capability.symbol = "drive")
    (depth : Nat) (arguments : List Value) :
    Driven arguments moment
      (run (Script.callAt (depth + 1) (.capability grant) arguments) moment) := by
  have runs : Capability.Runs (machineOf moment) (.capability grant) driveCommand :=
    eq_driveCommand_of_symbol isOfRig named ▸ Capability.runs_of_live found live
  rw [run_eq, runs depth arguments, Capability.answer, Script.Run.start_bind,
    Script.Run.start_perform]
  cases taken : driveArguments arguments with
  | error fault =>
      simp only [driveCommand, Capability.ofSubsystem, taken]
      exact .unconvertible taken
  | ok both =>
      obtain ⟨given, rotationTaken, same⟩ := (taken_of_driveArguments taken).2
      by_cases left : moment.rig.poisoned.contains .drivetrain = true
      · simp only [driveCommand, Capability.ofSubsystem, taken, machineOf, left, ↓reduceIte]
        exact .poisoned left
      · simp only [driveCommand, Capability.ofSubsystem, taken, machineOf, left, same,
          Bool.false_eq_true, ↓reduceIte]
        exact .commanded (taken_of_driveArguments taken).1 rotationTaken rfl rfl

/-! ## Runs -/

/-- The drivetrain received further commands, all of them in range. -/
def Commanded (before after : Rig) : Prop :=
  ∃ commands : List Command, (∀ command ∈ commands, command.IsNormal) ∧
    after.drivetrain.received = commands ++ before.drivetrain.received

theorem commanded_of_same {before after : Rig} (same : after.drivetrain = before.drivetrain) :
    Commanded before after :=
  ⟨[], List.forall_mem_nil _, congrArg Hardware.Drivetrain.received same⟩

theorem Commanded.trans {first second third : Rig} (earlier : Commanded first second)
    (later : Commanded second third) : Commanded first third := by
  obtain ⟨before, normalBefore, received⟩ := earlier
  obtain ⟨after, normalAfter, receivedAfter⟩ := later
  refine ⟨after ++ before, ?_, ?_⟩
  · exact List.forall_mem_append.mpr ⟨normalAfter, normalBefore⟩
  · rw [receivedAfter, received, List.append_assoc]

theorem commanded_drive (rig : Rig) {speed rotation : Float} (speedNormal : IsNormal speed)
    (rotationNormal : IsNormal rotation) :
    Commanded rig { rig with drivetrain := (rig.drivetrain.drive speed rotation).1 } :=
  ⟨[⟨speed, rotation⟩], List.forall_mem_singleton.mpr ⟨speedNormal, rotationNormal⟩, rfl⟩

/-- Scripts command the drivetrain in range, and the control loop commands it to stand still. -/
theorem commanded_loopClosed : LoopClosed Commanded where
  refl _ := commanded_of_same rfl
  trans := Commanded.trans
  load _ := commanded_of_same rfl
  intake _ := commanded_of_same rfl
  shoot _ := commanded_of_same rfl
  stop _ := commanded_of_same rfl
  drive rig speed rotation := commanded_drive rig
    (Capability.isNormal_normalized speed) (Capability.isNormal_normalized rotation)
  stopDrive rig := commanded_drive rig isNormal_zero isNormal_zero
  readPad rig := by
    apply commanded_of_same
    unfold Rig.readPad
    split <;> rfl
  reset _ _ := commanded_of_same rfl

theorem commanded_step {move : HostMove} (operated : move.StaysWithin Commanded)
    (session : Session Engine Callable) :
    Within Commanded session.world (session.step scripting move.move).world := by
  by_cases ticking : move.isTick = true
  · obtain rfl := HostMove.eq_tick_of_isTick ticking
    have silent : ∀ world : Host, Within Commanded world (world.changeRig Rig.tickShooter) :=
      fun _ ofRig => ⟨ofRig, commanded_of_same rfl⟩
    exact commanded_loopClosed.controlClosed.tick silent session
  · rw [Bool.not_eq_true] at ticking
    exact within_step commanded_loopClosed ticking operated session

/-- Whatever a live function to drive is called with, at whatever moment of a script, the
drivetrain receives one command in range, or the call fails and nothing changes. So all commands
that the drivetrain receives in a run, of scripts and of the control loop, are in range. -/
theorem drive_commands_in_range (period : Int32) (host : Host) (earlier : List HostMove) :
    let reached := (hostRun period host earlier).world
    (∀ (grant : Nat) (entry : Capability.Grant Rig),
      reached.scripts.registry.grants[grant]? = some entry → entry.live = true →
      entry.capability.symbol = "drive" →
        ∀ moment : Host, moment.scripts.registry = reached.scripts.registry →
          ∀ depth arguments, Driven arguments moment
            (run (Script.callAt (depth + 1) (.capability grant) arguments) moment)) ∧
    (∀ value, IsNormal (normalized value) ∧ (value.isNaN = true → normalized value = 0.0) ∧
      (IsNormal value → normalized value = value)) ∧
    ∀ later : List HostMove, (∀ move ∈ later, move.StaysWithin Commanded) →
      Commanded reached.rig (hostRun period host (earlier ++ later)).world.rig := by
  have ofRig := ofRig_hostRun period host earlier
  refine ⟨fun grant entry found live named moment same depth arguments => ?_,
    fun value => ⟨Capability.isNormal_normalized value, Capability.normalized_of_isNaN,
      Capability.normalized_of_isNormal⟩, fun later operated => ?_⟩
  · have isOfRig := ofRig grant entry found
    rw [← same] at found
    exact driven_of_live found live isOfRig named depth arguments
  · rw [hostRun_append]
    exact (within_run_moves commanded_loopClosed.toRigClosed
      (fun move member => commanded_step (operated move member)) _ ofRig).2

/-- Too fast, and in no direction. -/
def excessive : List Value := [.number 2.0, .number (0.0 / 0.0)]

def bound : List HostMove := [.bind .drivetrain, .enter .teleop none]

def driving : List HostMove := [
  .execute [Deployed.command "drivetrain" "drive" [.number 2.0, .number (0.0 / 0.0)]],
  .tick]

/-- The command is cut to the range, and the tick without a pad stops the drivetrain. -/
theorem excessive_command_is_cut :
    Driven excessive (hostRun 20 { scripts := {} } bound).world
        (run (Script.callAt 1 (.capability 0) excessive)
          (hostRun 20 { scripts := {} } bound).world) ∧
      Commanded {} (hostRun 20 { scripts := {} } (bound ++ driving)).world.rig ∧
      (hostRun 20 { scripts := {} } (bound ++ driving)).world.rig.drivetrain.received =
        [.still, ⟨1.0, 0.0⟩] := by
  obtain ⟨calls, _, runs⟩ := drive_commands_in_range 20 { scripts := {} } bound
  have found : (hostRun 20 { scripts := {} } bound).world.scripts.registry.grants[0]? =
      some ⟨"drivetrain", driveCommand, true⟩ := rfl
  have operated : ∀ move ∈ driving, move.StaysWithin Commanded := by
    intro move member
    simp only [driving, List.mem_cons, List.not_mem_nil, or_false] at member
    rcases member with rfl | rfl <;> trivial
  refine ⟨calls 0 _ found rfl rfl _ rfl 0 excessive, ?_, by decide +kernel⟩
  exact runs driving operated

end Engine

end ScriptedRobot
