import ScriptedRobot.Deployed.Descriptor
import ScriptedRobot.Proofs.Engine.HostRuns
import ScriptedRobot.Proofs.Shooter.Countdown

/-! # The shooter without scripts

Scripts start the sequences of the shooter, and the control loop counts them down, once on every
tick. When no script can run any more the countdown is all that happens: the sequence that was
started last ends with its budget, and from then on the wheels are given no volts. -/

namespace ScriptedRobot

theorem Rig.shooter_readPad (rig : Rig) : rig.readPad.1.shooter = rig.shooter := by
  unfold readPad
  split <;> rfl

namespace Engine

open Script (Callable)
open Control (Session)
open Shooter (Operation Sequence)

/-- The shooter got from one rig to the other by allowed operations. -/
def OperatedBy (allowed : Operation → Prop) (before after : Rig) : Prop :=
  ∃ operations : List Operation, (∀ operation ∈ operations, allowed operation) ∧
    after.shooter = before.shooter.run operations

section Operated

variable {allowed : Operation → Prop} {first second third : Rig}

theorem operatedBy_of_same (same : second.shooter = first.shooter) :
    OperatedBy allowed first second :=
  ⟨[], nofun, same⟩

theorem operatedBy_one (operation : Operation) (admitted : allowed operation)
    (applied : second.shooter = operation.apply first.shooter) :
    OperatedBy allowed first second :=
  ⟨[operation], fun _ member => List.mem_singleton.mp member ▸ admitted, applied⟩

theorem OperatedBy.trans (reached : OperatedBy allowed first second)
    (further : OperatedBy allowed second third) : OperatedBy allowed first third := by
  obtain ⟨earlier, admittedEarlier, shooterSecond⟩ := reached
  obtain ⟨later, admittedLater, shooterThird⟩ := further
  refine ⟨earlier ++ later, fun operation member => ?_, ?_⟩
  · rcases List.mem_append.mp member with before | after
    · exact admittedEarlier operation before
    · exact admittedLater operation after
  · rw [shooterThird, shooterSecond, Sequence.run_append]

/-- What scripts do to the shooter are commands. -/
theorem operatedBy_padClosed
    (commands : ∀ operation, operation.isCommand = true → allowed operation) :
    PadClosed (OperatedBy allowed) where
  refl _ := operatedBy_of_same rfl
  trans := .trans
  load _ := operatedBy_one .load (commands _ rfl) rfl
  intake _ := operatedBy_one .intake (commands _ rfl) rfl
  shoot _ := operatedBy_one .shoot (commands _ rfl) rfl
  stop _ := operatedBy_one .stop (commands _ rfl) rfl
  drive _ _ _ := operatedBy_of_same rfl
  stopDrive _ := operatedBy_of_same rfl
  readPad rig := operatedBy_of_same rig.shooter_readPad

/-- The shooter was operated in any way. -/
abbrev Operated : Rig → Rig → Prop :=
  OperatedBy fun _ => True

theorem operated_loopClosed : LoopClosed Operated where
  toPadClosed := operatedBy_padClosed fun _ _ => trivial
  reset _ settings := operatedBy_one (.reset settings) trivial rfl

end Operated

/-- Whatever the outcome of a tick, scripts give commands to the shooter first, and then it ticks
once. -/
theorem shooter_tick_commanded {session : Session Engine Callable}
    (ofRig : session.world.scripts.registry.OfRig) :
    ∃ commands : List Operation, (∀ command ∈ commands, command.isCommand = true) ∧
      (session.tick scripting).2.world.rig.shooter =
        (session.world.rig.shooter.run commands).advance ∧
      (session.tick scripting).2.world.rig.volts =
        (session.world.rig.shooter.run commands).output := by
  have closed : PadClosed (OperatedBy fun operation => operation.isCommand = true) :=
    operatedBy_padClosed fun _ isCommand => isCommand
  obtain ⟨_, commands, areCommands, shooter⟩ := closed.stepClosed.midTick session ofRig
  rw [shooter_tick, volts_tick, shooter]
  exact ⟨commands, areCommands, rfl, rfl⟩

theorem operated_tick {session : Session Engine Callable}
    (ofRig : session.world.scripts.registry.OfRig) :
    Operated session.world.rig (session.tick scripting).2.world.rig := by
  obtain ⟨commands, _, shooter, _⟩ := shooter_tick_commanded ofRig
  refine ⟨commands ++ [.process], fun _ _ => trivial, ?_⟩
  rw [shooter, Sequence.run_append]
  rfl

/-- On every host the shooter is what operations made of it. -/
theorem operated_hostRun (period : Int32) (host : Host) {moves : List HostMove}
    (operated : ∀ move ∈ moves, move.StaysWithin Operated) :
    Operated host.rig (hostRun period host moves).world.rig := by
  induction moves using List.reverseRecOn with
  | nil => exact operatedBy_of_same rfl
  | append_singleton earlier move ih =>
      have reached := ih fun before member => operated before (List.mem_append_left _ member)
      have ofRig := ofRig_hostRun period host earlier
      rw [hostRun_append]
      refine reached.trans ?_
      by_cases ticking : move.isTick = true
      · obtain rfl := HostMove.eq_tick_of_isTick ticking
        exact operated_tick ofRig
      · rw [Bool.not_eq_true] at ticking
        have allowed := operated move (List.mem_append_right _ List.mem_cons_self)
        exact (within_step operated_loopClosed ticking allowed _ ofRig).2

/-! ## Without scripts -/

/-- Whether a move is a tick, or does not concern the control loop, the scripts or the shooter. -/
def HostMove.SparesShooter : HostMove → Prop
  | .tick | .overwrite _ | .replaceFiles _ => True
  | .operate change => ∀ rig, (change rig).shooter = rig.shooter
  | _ => False

/-- No script can run during later moves: a failure is latched, the mode has no program, or the pad
is away throughout. -/
def CutOff (later : List HostMove) (session : Session Engine Callable) : Prop :=
  session.controller.latched.isSome = true ∨ session.controller.mode.isScripted = false ∨
    ∀ earlier, earlier <+: later →
      (Session.run scripting (earlier.map HostMove.move) session).world.rig.pad.connected = false

section CutOff

variable {session : Session Engine Callable} {move : HostMove} {later : List HostMove}

theorem midTick_of_cutOff (cutOff : CutOff later session) :
    session.midTick scripting = (.allStop, (session.controller.polled session.world).1,
      (session.controller.polled session.world).2) := by
  refine Session.midTick_of_not_inControl ?_
  rw [Control.Controller.isInControl_polled]
  rcases cutOff with latched | unscripted | unplugged
  · rw [Option.isNone_eq_false_iff.mpr latched, Bool.and_false]
  · rw [unscripted, Bool.false_and, Bool.false_and]
  · have away : session.world.rig.pad.connected = false := unplugged [] List.nil_prefix
    rw [away, Bool.and_false, Bool.false_and]

/-- Scripts that are cut off stay so, and the move leaves the shooter alone unless it is a tick. -/
theorem step_of_cutOff (cutOff : CutOff (move :: later) session) (spares : move.SparesShooter) :
    CutOff later (session.step scripting move.move) ∧
    (session.step scripting move.move).world.rig.shooter =
      (if move.isTick then session.world.rig.shooter.advance else session.world.rig.shooter) ∧
    (session.step scripting move.move).world.rig.volts =
      (if move.isTick then session.world.rig.shooter.output else session.world.rig.volts) := by
  have stillAway (away : ∀ earlier, earlier <+: move :: later → (Session.run scripting
      (earlier.map HostMove.move) session).world.rig.pad.connected = false) (earlier)
      (before : earlier <+: later) : (Session.run scripting (earlier.map HostMove.move)
        (session.step scripting move.move)).world.rig.pad.connected = false :=
    away (move :: earlier) (List.cons_prefix_cons.mpr ⟨rfl, before⟩)
  cases move with
  | tick =>
      have middle := midTick_of_cutOff cutOff
      have unscripted : (session.midTick scripting).2.2.rig.shooter =
          session.world.rig.shooter := by
        rw [middle, Control.Controller.polled_rig, Rig.shooter_readPad]
      have ticked : session.step scripting HostMove.tick.move = Session.endTick .allStop
          (session.controller.polled session.world).1
          (session.controller.polled session.world).2 :=
        congrArg Prod.snd (Session.tick_eq middle)
      have latched := session.controller.latched_polled session.world
      have mode := session.controller.mode_polled session.world
      refine ⟨cutOff.imp (fun failed => ?_) (.imp (fun unscripted => ?_) stillAway), ?_, ?_⟩
      · rw [ticked]
        exact (congrArg Option.isSome latched).trans failed
      · rw [ticked]
        exact (congrArg Mode.isScripted mode).trans unscripted
      · exact (shooter_tick session).trans (congrArg Sequence.advance unscripted)
      · exact (volts_tick session).trans (congrArg Sequence.output unscripted)
  | overwrite _ | replaceFiles _ => exact ⟨cutOff.imp id (.imp id stillAway), rfl, rfl⟩
  | operate change =>
      exact ⟨cutOff.imp id (.imp id stillAway), spares session.world.rig, rfl⟩
  | enter _ _ | exit | bind _ | unbind _ | execute _ | call _ | setSearchPath _
  | bootstrap _ _ => exact spares.elim

/-- Without scripts the ticks are all that happens to the shooter, and the wheels have the volts of
the last one. -/
theorem run_of_cutOff (cutOff : CutOff later session)
    (spares : ∀ move ∈ later, move.SparesShooter) :
    (Session.run scripting (later.map HostMove.move) session).world.rig.shooter =
      Sequence.advance^[later.countP HostMove.isTick] session.world.rig.shooter ∧
    (Session.run scripting (later.map HostMove.move) session).world.rig.volts =
      match later.countP HostMove.isTick with
      | 0 => session.world.rig.volts
      | before + 1 => (Sequence.advance^[before] session.world.rig.shooter).output := by
  induction later generalizing session with
  | nil => exact ⟨rfl, rfl⟩
  | cons move rest ih =>
      obtain ⟨still, shooter, volts⟩ := step_of_cutOff cutOff (spares move List.mem_cons_self)
      obtain ⟨shooterAfter, voltsAfter⟩ :=
        ih still fun later member => spares later (List.mem_cons_of_mem _ member)
      rw [shooter] at shooterAfter voltsAfter
      rw [volts] at voltsAfter
      rw [List.map_cons, Session.run_cons, List.countP_cons, shooterAfter, voltsAfter]
      cases move.isTick with
      | false => exact ⟨rfl, rfl⟩
      | true =>
          refine ⟨rfl, ?_⟩
          -- The last tick is among the others, or it is this one.
          cases rest.countP HostMove.isTick with
          | zero => rfl
          | succ before => rfl

end CutOff

/-- How a rig ends up when its shooter runs out for a number of ticks. -/
structure RanOut (ticks : Nat) (before after : Rig) : Prop where
  remaining : after.shooter.remaining = before.shooter.remaining - ticks
  idle_iff : after.shooter.phase = .idle ↔ before.shooter.remaining ≤ ticks
  /-- A shooter that is still busy is in the sequence it was in. -/
  underway : after.shooter.phase ≠ .idle → after.shooter = { before.shooter with
    remaining := before.shooter.remaining - ticks
    elapsed := before.shooter.elapsed + ticks }
  /-- From the tick after the last of the sequence on, the wheels are given no volts. -/
  volts : before.shooter.remaining < ticks → after.volts = .off

theorem ranOut {session : Session Engine Callable} {later : List HostMove}
    (timed : session.world.rig.shooter.IsTimed) (cutOff : CutOff later session)
    (spares : ∀ move ∈ later, move.SparesShooter) :
    RanOut (later.countP HostMove.isTick) session.world.rig
      (Session.run scripting (later.map HostMove.move) session).world.rig := by
  obtain ⟨shooter, volts⟩ := run_of_cutOff cutOff spares
  have idle_iff := timed.phase_advance_iterate (later.countP HostMove.isTick)
  rw [← shooter] at idle_iff
  refine ⟨?_, idle_iff, fun busy => ?_, fun spent => ?_⟩
  · rw [shooter, timed.advance_iterate]
  · have unspent : later.countP HostMove.isTick < session.world.rig.shooter.remaining :=
      Nat.not_le.mp (mt idle_iff.mpr busy)
    rw [shooter, timed.advance_iterate_of_unspent unspent]
  · obtain ⟨before, last⟩ : ∃ before, later.countP HostMove.isTick = before + 1 :=
      Nat.exists_eq_add_one_of_ne_zero (by omega)
    have idle : (Sequence.advance^[before] session.world.rig.shooter).phase = .idle :=
      (timed.phase_advance_iterate before).mpr (by omega)
    rw [volts, last]
    exact Sequence.output_of_idle idle

/-- In every state that a host reaches a tick advances the shooter once, after the commands that
scripts gave on it. As soon as no script can run any more the shooter runs out, whatever happens to
the pad, the files and the objects of the scripts meanwhile. -/
theorem runs_out_once_cut_off (period : Int32) (host : Host) (settings : Shooter.Settings)
    (operations : List Operation)
    (made : host.rig.shooter = Sequence.run operations (.new settings)) (moves : List HostMove)
    (operated : ∀ move ∈ moves, move.StaysWithin Operated) :
    let session := hostRun period host moves
    (∃ commands : List Operation, (∀ command ∈ commands, command.isCommand = true) ∧
      (session.tick scripting).2.world.rig.shooter =
        (session.world.rig.shooter.run commands).advance ∧
      (session.tick scripting).2.world.rig.volts =
        (session.world.rig.shooter.run commands).output) ∧
    (session.world.rig.shooter.remaining = 0 ↔ session.world.rig.shooter.phase = .idle) ∧
    ∀ later : List HostMove, CutOff later session → (∀ move ∈ later, move.SparesShooter) →
      RanOut (later.countP HostMove.isTick) session.world.rig
        (Session.run scripting (later.map HostMove.move) session).world.rig := by
  intro session
  have timed : session.world.rig.shooter.IsTimed := by
    obtain ⟨further, _, reached⟩ := operated_hostRun period host operated
    rw [reached, made, ← Sequence.run_append]
    exact (Shooter.Sequence.isTimed_new settings).run _
  exact ⟨shooter_tick_commanded (ofRig_hostRun period host moves), timed.idle_iff,
    fun later cutOff spares => ranOut timed cutOff spares⟩

/-- A script starts a shot in a mode that no program drives. -/
def disabledShot : List HostMove := [
  .bind .shooter,
  .enter .disabled none,
  .execute [Deployed.command "shooter" "shoot" []]]

theorem disabled_shot_runs_out :
    let session := hostRun 20 { scripts := {} } disabledShot
    let after := (Session.run scripting (List.replicate 76 .tick) session).world.rig
    session.world.rig.shooter.remaining = 75 ∧
      after.shooter.phase = .idle ∧ after.shooter.remaining = 0 ∧ after.volts = .off := by
  intro session
  have unscripted : session.controller.mode.isScripted = false := by decide +kernel
  have started : session.world.rig.shooter.remaining = 75 := by decide +kernel
  have operated : ∀ move ∈ disabledShot, move.StaysWithin Operated := by
    simp [disabledShot, HostMove.StaysWithin]
  have runsOut : ∀ later, CutOff later session → (∀ move ∈ later, move.SparesShooter) →
      RanOut (later.countP HostMove.isTick) session.world.rig
        (Session.run scripting (later.map HostMove.move) session).world.rig :=
    (runs_out_once_cut_off 20 { scripts := {} } default [] rfl disabledShot operated).2.2
  clear_value session
  intro after
  have spared : ∀ move ∈ List.replicate 76 HostMove.tick, move.SparesShooter := by
    intro move member
    obtain ⟨_, rfl⟩ := List.mem_replicate.mp member
    trivial
  have ranOut : RanOut 76 session.world.rig after := by
    have ran := runsOut _ (.inr (.inl unscripted)) spared
    simpa only [List.map_replicate, List.countP_replicate, HostMove.move, HostMove.isTick,
      ↓reduceIte] using ran
  have spent : session.world.rig.shooter.remaining < 76 := by omega
  exact ⟨started, ranOut.idle_iff.mpr (Nat.le_of_lt spent),
    ranOut.remaining.trans (Nat.sub_eq_zero_of_le (Nat.le_of_lt spent)), ranOut.volts spent⟩

end Engine

end ScriptedRobot
