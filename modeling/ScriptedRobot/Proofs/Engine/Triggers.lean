import ScriptedRobot.Proofs.Capability.Offering
import ScriptedRobot.Proofs.Configuration.Plain
import ScriptedRobot.Proofs.Control.Shots
import ScriptedRobot.Proofs.Engine.HostRuns
import ScriptedRobot.Proofs.Shooter.Countdown
import ScriptedRobot.Proofs.Shooter.Usable
import Mathlib.Data.List.ReduceOption

/-! # Triggers

A trigger decides on every tick for which there is a pad whether the shooter is told to shoot. It
knows the snapshot and what it remembers of earlier ticks; ticks without a pad pass it by. A
callback obeys a trigger if what it does to the shooter is what the trigger decides. The shots of an
activation that is driven by such a callback are told by its trigger alone
(`Follows.startsShot_operated`). -/

namespace ScriptedRobot

namespace Shooter.Sequence

variable {shooter : Sequence} {pulled : Bool}

/-- The shooter after it was told to shoot, or was not. -/
def shootIf (pulled : Bool) (shooter : Sequence) : Sequence :=
  if pulled then shooter.shoot else shooter

theorem isShooting_shootIf (idle : shooter.phase = .idle) :
    (shooter.shootIf pulled).isShooting = pulled := by
  cases pulled with
  | true =>
      rw [shootIf, if_pos rfl, shoot_of_idle idle]
      rfl
  | false =>
      rw [shootIf, if_neg Bool.false_ne_true, isShooting, idle]
      rfl

/-- A shooter at work does not listen. -/
theorem shootIf_of_busy (busy : shooter.phase ≠ .idle) : shooter.shootIf pulled = shooter := by
  have ignored : shooter.shoot = shooter := apply_start_of_busy busy .shoot rfl
  rw [shootIf, ignored, ite_self]

theorem settings_shootIf : (shooter.shootIf pulled).settings = shooter.settings := by
  unfold shootIf
  split
  · exact settings_shoot
  · rfl

theorem IsTimed.shootIf (timed : shooter.IsTimed) (pulled : Bool) :
    (shooter.shootIf pulled).IsTimed := by
  unfold Sequence.shootIf
  split
  · exact timed.apply .shoot
  · exact timed

/-- A tick takes one from the ticks that are left, be they those of a shot that was just started. -/
theorem IsTimed.remaining_advance_shootIf (timed : shooter.IsTimed) (pulled : Bool) :
    (shooter.shootIf pulled).advance.remaining =
      if shooter.remaining = 0 then (if pulled then shooter.settings.shootTicks - 1 else 0)
      else shooter.remaining - 1 := by
  have ticked : (shooter.shootIf pulled).advance.remaining =
      (shooter.shootIf pulled).remaining - 1 :=
    congrArg Sequence.remaining ((timed.shootIf pulled).advance_iterate 1)
  rw [ticked]
  by_cases idle : shooter.phase = .idle
  · rw [Sequence.shootIf, if_pos (timed.idle_iff.mpr idle), shoot_of_idle idle,
      apply_ite Sequence.remaining, timed.idle_iff.mpr idle]
    split <;> rfl
  · rw [if_neg (mt timed.idle_iff.mp idle), shootIf_of_busy idle]

end Shooter.Sequence

namespace Engine

open Capability (IsEquipped machineOf)
open Control (Session padFor)
open Gamepad (Snapshot)
open Script (Callable Machine Run Value)
open Shooter (Sequence)

theorem runCallback_of_start {callback : Callable} {host : Host} {values : List Value}
    {after : Machine Rig} (ran : (Run.call callback []).start (machineOf host) =
      (.ok values, after)) : runCallback callback host = (.ok (), onMachine host after) := by
  unfold runCallback
  rw [run_of_start ran]

/-- What decides on shots. -/
structure Trigger (τ : Type) where
  pulls : τ → Snapshot → Bool
  /-- What is remembered after a tick. -/
  next : τ → Snapshot → τ

namespace Trigger

variable {τ : Type} (trigger : Trigger τ)

/-- What is remembered after ticks. -/
def after (state : τ) (inputs : List (Option Snapshot)) : τ :=
  inputs.reduceOption.foldl trigger.next state

/-- Whether the shooter is told to shoot on a tick. -/
def pullsOn (state : τ) (input : Option Snapshot) : Bool :=
  input.any (trigger.pulls state)

theorem after_append (state : τ) (earlier later : List (Option Snapshot)) :
    trigger.after state (earlier ++ later) =
      trigger.after (trigger.after state earlier) later := by
  unfold after
  rw [List.reduceOption_append, List.foldl_append]

end Trigger

/-- A callback does to the shooter what a trigger decides. What it remembers is told by the machine,
and is no business of the control loop. -/
structure Obeys {τ : Type} (trigger : Trigger τ) (callback : Callable)
    (remembers : τ → Machine Rig → Prop) : Prop where
  same : ∀ {state : τ} {machine other : Machine Rig}, remembers state machine →
    other.store = machine.store → other.registry = machine.registry →
    other.native.poisoned = machine.native.poisoned → remembers state other
  turn : ∀ {state : τ} {machine : Machine Rig}, remembers state machine →
    ∃ values after, (Run.call callback []).start machine = (.ok values, after) ∧
      remembers (trigger.next state machine.native.snapshot) after ∧
      after.native.shooter = machine.native.shooter.shootIf
        (trigger.pulls state machine.native.snapshot)

section Follows

variable {τ : Type} {trigger : Trigger τ} {callback : Callable}
  {remembers : τ → Machine Rig → Prop} {own : OwnHooks} {state : τ}
  {session : Session Engine Callable}

/-- A session is driven by a callback that obeys a trigger. -/
structure Follows (own : OwnHooks) (trigger : Trigger τ) (callback : Callable)
    (remembers : τ → Machine Rig → Prop) (state : τ) (session : Session Engine Callable) :
    Prop where
  obeys : Obeys trigger callback remembers
  driven : session.IsDriven own callback
  remembered : remembers state (machineOf session.world)

/-- Reading the settings of the shooter from a plain configuration does nothing else, so that the
rig is offered when a mode is entered if it was offered before. -/
theorem isEquipped_readied (equipped : IsEquipped (machineOf session.world))
    (plain : Configuration.IsPlain session.world.scripts.store) (mode : Mode) :
    IsEquipped (machineOf (session.readied scripting mode)) := by
  let entering := session.world.note .info .bot ("entering " ++ mode.name ++ " mode")
  obtain ⟨settings, reads⟩ := @plain.reads_shooterSettings Rig
  have ran : run shooterSettings entering = (.ok settings, entering) :=
    run_of_start (reads (machineOf entering) rfl)
  have read : scripting.settings entering = (settings, entering) := by
    change ask shooterSettings {} entering = _
    unfold ask
    rw [ran]
    rfl
  have scripts : (session.readied scripting mode).scripts = session.world.scripts := by
    unfold Session.readied Control.Controller.resetShooter
    rw [read]
    rfl
  have locks : (session.readied scripting mode).rig.poisoned = session.world.rig.poisoned := by
    unfold Session.readied Control.Controller.resetShooter
    rw [read]
    rfl
  refine equipped.of_kept (fun id _ => ?_) (congrArg Engine.registry scripts) locks
  exact congrArg (fun scripts : Engine => scripts.store.table id) scripts

theorem isEquipped_start {host : Host} (equipped : IsEquipped (machineOf host))
    (plain : Configuration.IsPlain host.scripts.store) (period : Int32) (mode : Mode) :
    IsEquipped (machineOf (Session.readied scripting mode
      (.start period host : Session Engine Callable))) :=
  isEquipped_readied equipped plain mode

/-- A session follows a trigger from the start if a program is loaded whose step obeys it, and the
hooks of the start leave behind what the trigger begins with. -/
theorem exists_enter_follows {mode : Mode} {name : String} {program : Control.Program Callable}
    {loaded after : Host} (scripted : mode.ownHooks? = some own)
    (load : Engine.load name (session.readied scripting mode) = (program, loaded))
    (usable : program.kind = none)
    (completes : Control.Program.Completes scripting program.callbacks [.init, .prepare, own.start]
      (loaded.note .info .scripts ("loaded program " ++ program.name)) after)
    (step : program.callbacks.lookup own.step = some callback)
    (obeys : Obeys trigger callback remembers) (remembered : remembers state (machineOf after)) :
    ∃ entered, session.enter scripting mode (some name) = (.ok (), entered) ∧
      entered.world = after ∧ Follows own trigger callback remembers state entered := by
  obtain ⟨entered, ran, world, driven⟩ :=
    Session.exists_enter scripted load usable completes step
  exact ⟨entered, ran, world, obeys, driven, world ▸ remembered⟩

namespace Follows

/-- A tick goes by the decision of the trigger. -/
theorem tick_given (follows : Follows own trigger callback remembers state session)
    (input : Option Snapshot) :
    ((session.given input).midTick scripting).2.2.rig.shooter =
        session.world.rig.shooter.shootIf (trigger.pullsOn state input) ∧
      ((session.given input).tick scripting).2.world.rig.shooter =
        (session.world.rig.shooter.shootIf (trigger.pullsOn state input)).advance ∧
      Follows own trigger callback remembers (trigger.after state [input])
        ((session.given input).tick scripting).2 := by
  obtain ⟨obeys, driven, remembered⟩ := follows
  let before := session.given input
  have drivenBefore : before.IsDriven own callback := ⟨driven.mode, driven.latched, driven.program⟩
  rw [shooter_tick]
  cases input with
  | none =>
      have middle : before.midTick scripting = (.allStop, before.controller.polled before.world) :=
        Session.IsDriven.midTick_unplugged rfl
      have rig := before.controller.polled_rig before.world
      have scripts := before.controller.polled_scripts before.world
      have shooter : (before.midTick scripting).2.2.rig.shooter = session.world.rig.shooter := by
        rw [middle, rig]
        rfl
      have locks : (before.controller.polled before.world).2.rig.poisoned =
          session.world.rig.poisoned := by
        rw [rig]
        rfl
      refine ⟨shooter, congrArg Sequence.advance shooter, obeys,
        drivenBefore.tick_unplugged rfl, ?_⟩
      rw [Session.tick_eq middle]
      refine obeys.same remembered ?_ ?_ ?_
      · exact congrArg Engine.store scripts
      · exact congrArg Engine.registry scripts
      · exact locks
  | some snapshot =>
      let polled := (before.controller.polled before.world).2
      have rig : polled.rig = { before.world.rig with snapshot } :=
        before.controller.polled_rig before.world
      have scripts : polled.scripts = session.world.scripts :=
        before.controller.polled_scripts before.world
      have rememberedPolled : remembers state (machineOf polled) := by
        refine obeys.same remembered ?_ ?_ ?_
        · exact congrArg Engine.store scripts
        · exact congrArg Engine.registry scripts
        · change polled.rig.poisoned = session.world.rig.poisoned
          rw [rig]
          rfl
      obtain ⟨values, after, ran, rememberedAfter, shooter⟩ := obeys.turn rememberedPolled
      have completed : scripting.run callback polled = (.ok (), onMachine polled after) :=
        runCallback_of_start ran
      obtain ⟨middle, world, drivenAfter⟩ := drivenBefore.tick_plugged rfl completed
      change remembers (trigger.next state polled.rig.snapshot) after at rememberedAfter
      change after.native.shooter = polled.rig.shooter.shootIf
        (trigger.pulls state polled.rig.snapshot) at shooter
      rw [rig] at rememberedAfter shooter
      rw [middle]
      refine ⟨shooter, congrArg Sequence.advance shooter, obeys, drivenAfter, ?_⟩
      rw [world]
      exact obeys.same rememberedAfter rfl rfl rfl

/-- So does any number of ticks. -/
theorem operated (follows : Follows own trigger callback remembers state session)
    (inputs : List (Option Snapshot)) :
    Follows own trigger callback remembers (trigger.after state inputs)
      (session.operated scripting inputs) := by
  induction inputs using List.reverseRecOn with
  | nil => exact follows
  | append_singleton earlier input ih =>
      rw [Session.operated_concat, trigger.after_append]
      exact (ih.tick_given input).2.2

/-- A tick starts a shot exactly if the shooter is idle and the trigger decides to shoot. -/
theorem startsShot_operated (follows : Follows own trigger callback remembers state session)
    (earlier : List (Option Snapshot)) (input : Option Snapshot) :
    (session.operated scripting earlier).startsShot scripting input =
      ((session.operated scripting earlier).world.rig.shooter.isIdle &&
        trigger.pullsOn (trigger.after state earlier) input) := by
  unfold Session.startsShot
  rw [((follows.operated earlier).tick_given input).1]
  generalize (session.operated scripting earlier).world.rig.shooter = shooter
  cases idle : shooter.isIdle with
  | false => rfl
  | true => rw [Sequence.isShooting_shootIf (eq_of_beq idle)]

end Follows

end Follows

end Engine

end ScriptedRobot
