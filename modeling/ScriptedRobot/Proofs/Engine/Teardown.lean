import ScriptedRobot.Proofs.Capability.Retraction
import ScriptedRobot.Proofs.Script.Agreement
import ScriptedRobot.Script.Steps

/-! # Scripts after a teardown

The host publishes the subsystems of the rig and retracts them again. A script may have kept
functions of any publication. Once everything that was published is retracted, none of them is
live: scripts neither move the rig nor learn anything about it. -/

namespace ScriptedRobot

open Script (Run ScriptClosed)

namespace Capability

/-- Whatever is live belongs to one of some subsystems, and is retracted with that one. -/
def LiveWithin (bound : List Subsystem) (registry : Registry Rig) : Prop :=
  ∀ (grant : Nat) (entry : Grant Rig), registry.grants[grant]? = some entry → entry.live = true →
    ∃ subsystem ∈ bound, entry.module = subsystem.name ∧
      entry.capability.symbol ∈ symbolsOf subsystem

variable {registry : Registry Rig} {bound : List Subsystem}

theorem LiveWithin.published (coherent : registry.Coherent) (within : LiveWithin bound registry)
    (subsystem : Subsystem) :
    LiveWithin (subsystem :: bound)
      (registry.published subsystem.name (capabilitiesOf subsystem)) := by
  intro grant entry found live
  by_cases old : grant < registry.grants.size
  · have before := Array.getElem?_eq_getElem old
    rw [coherent.getElem?_published before, Option.some.injEq] at found
    subst found
    obtain ⟨owner, member, owned⟩ := within grant _ before (Bool.and_eq_true_iff.mp live).1
    exact ⟨owner, List.mem_cons_of_mem _ member, owned⟩
  · rw [Registry.getElem?_published, if_neg old, Option.map_eq_some_iff] at found
    obtain ⟨capability, placed, rfl⟩ := found
    refine ⟨subsystem, List.mem_cons_self, rfl, ?_⟩
    rw [symbolsOf_eq_map]
    exact List.mem_map_of_mem (List.mem_of_getElem? placed)

theorem LiveWithin.retracted (coherent : registry.Coherent) (within : LiveWithin bound registry)
    (subsystem : Subsystem) :
    LiveWithin (bound.filter (· ≠ subsystem))
      (registry.retracted subsystem.name (symbolsOf subsystem)) := by
  intro grant entry found live
  have inside : grant < registry.grants.size := by
    have reached := (Array.getElem?_eq_some_iff.mp found).1
    rwa [Registry.retracted, Registry.size_switchOffAll] at reached
  have before := Array.getElem?_eq_getElem inside
  rw [coherent.getElem?_retracted before, Option.some.injEq] at found
  subst found
  obtain ⟨lived, spared⟩ := Bool.and_eq_true_iff.mp live
  obtain ⟨owner, member, owned, listed⟩ := within grant _ before lived
  refine ⟨owner, List.mem_filter.mpr ⟨member, ?_⟩, owned, listed⟩
  rw [decide_eq_true_eq]
  intro same
  subst same
  have named : (owner.name == registry.grants[grant].module &&
      (symbolsOf owner).contains registry.grants[grant].capability.symbol) = true := by
    rw [Bool.and_eq_true, beq_iff_eq, List.contains_iff_mem]
    exact ⟨owned.symm, listed⟩
  rw [named] at spared
  cases spared

theorem nodup_symbols (subsystem : Subsystem) :
    ((capabilitiesOf subsystem).map Capability.symbol).Nodup := by
  rw [← symbolsOf_eq_map]
  cases subsystem <;> decide

end Capability

namespace Engine

open Capability (Registry Grant IsInert LiveWithin machineOf symbolsOf capabilitiesOf)

variable {host : Host}

/-- How a host came to have some subsystems bound: a new engine has none, and in between scripts
and the control loop do anything that leaves the registry alone. A subsystem counts as bound or
unbound if that succeeded; what a failed publication showed to a handler was never published. -/
inductive HasBound : List Subsystem → Host → Prop where
  | start (host : Host) : HasBound [] (Engine.start host)
  | bind {bound : List Subsystem} {host : Host} (earlier : HasBound bound host)
      (subsystem : Subsystem) (succeeded : (Engine.bind subsystem host).1 = .ok ()) :
      HasBound (subsystem :: bound) (Engine.bind subsystem host).2
  | unbind {bound : List Subsystem} {host : Host} (earlier : HasBound bound host)
      (subsystem : Subsystem) (succeeded : (Engine.unbind subsystem host).1 = .ok ()) :
      HasBound (bound.filter (· ≠ subsystem)) (Engine.unbind subsystem host).2
  | meanwhile {bound : List Subsystem} {host after : Host} (earlier : HasBound bound host)
      (same : after.scripts.registry = host.scripts.registry) : HasBound bound after

theorem registry_of_run {α : Type} {step : Run Rig α} {value : α} {registry : Registry Rig}
    (succeeded : (run step host).1 = .ok value)
    (effect : ∀ after, step.start (machineOf host) = (.ok value, after) →
      after.registry = registry) : (run step host).2.scripts.registry = registry :=
  effect (step.start (machineOf host)).2 (Prod.ext succeeded rfl)

/-- Every function that is live was handed out for a subsystem that is bound. -/
theorem HasBound.liveWithin {bound : List Subsystem} (history : HasBound bound host) :
    host.scripts.registry.Coherent ∧ LiveWithin bound host.scripts.registry := by
  induction history with
  | start host => exact ⟨Registry.coherent_empty, nofun⟩
  | bind _ subsystem succeeded ih =>
      obtain ⟨coherent, within⟩ := ih
      rw [Engine.bind, registry_of_run succeeded fun _ => Capability.registry_of_publish]
      exact ⟨coherent.published (Capability.nodup_symbols subsystem),
        within.published coherent subsystem⟩
  | unbind _ subsystem succeeded ih =>
      obtain ⟨coherent, within⟩ := ih
      rw [Engine.unbind, registry_of_run succeeded fun _ => Capability.registry_of_retract]
      exact ⟨coherent.retracted, within.retracted coherent subsystem⟩
  | meanwhile _ same ih =>
      rw [same]
      exact ih

theorem HasBound.execute {bound : List Subsystem} (history : HasBound bound host)
    (chunk : Script.Chunk) : HasBound bound (Engine.execute chunk host).2 :=
  history.meanwhile
    ((Capability.sameRegistry_closed.keeps_chunk chunk []).map (fun _ => ()) (machineOf host))

/-- A step leaves the rig alone, and does and answers the same whatever the rig is like. -/
structure Isolated {α : Type} (step : Run Rig α) (host : Host) : Prop where
  rig : (run step host).2.rig = host.rig
  journal : (run step host).2.journal = host.journal
  registry : (run step host).2.scripts.registry = host.scripts.registry
  any_rig : ∀ rig, run step { host with rig } =
    ((run step host).1, { (run step host).2 with rig })

section NoneLive

variable {registry : Registry Rig}

/-- No function of the host is live. -/
def NoneLive (registry : Registry Rig) : Prop :=
  ∀ (grant : Nat) (entry : Grant Rig), registry.grants[grant]? = some entry → ¬ entry.live = true

/-- A machine whose functions are all retired keeps its rig, its journal and its registry. -/
def Dormant (registry : Registry Rig) (before after : Script.Machine Rig) : Prop :=
  before.registry = registry →
    after.registry = registry ∧ after.native = before.native ∧ after.journal = before.journal

variable (retired : NoneLive registry)
include retired

theorem NoneLive.dormant_closed : ScriptClosed (Dormant registry) where
  refl _ same := ⟨same, rfl, rfl⟩
  trans first second same := by
    obtain ⟨middle, native, journal⟩ := first same
    obtain ⟨last, nativeLast, journalLast⟩ := second middle
    exact ⟨last, nativeLast.trans native, journalLast.trans journal⟩
  objects _ _ same := ⟨same, rfl, rfl⟩
  shown _ _ same := ⟨same, rfl, rfl⟩
  perform machine grant entry arguments found live same :=
    absurd live (retired grant entry (same ▸ found))

theorem NoneLive.answersAlike : Script.AnswersAlike registry fun _ _ => True :=
  fun grant entry found live => absurd live (retired grant entry found)

end NoneLive

theorem isolated_of_noneLive {α : Type} {step : Run Rig α}
    (dormant : step.Keeps (Dormant host.scripts.registry))
    (agrees : step.Agrees host.scripts.registry fun _ _ => True) : Isolated step host := by
  obtain ⟨registry, native, journal⟩ := dormant (machineOf host) rfl
  refine ⟨native, journal, registry, fun rig => ?_⟩
  let other : Host := { host with rig }
  obtain ⟨registryOther, nativeOther, journalOther⟩ := dormant (machineOf other) rfl
  obtain ⟨outcome, alike⟩ := agrees (machineOf other) (machineOf host)
    ⟨rfl, rfl, rfl, rfl, trivial⟩
  change run step other = _
  rw [run_eq, run_eq, outcome, alike.store, alike.shown, registryOther, registry, nativeOther,
    journalOther, journal]
  rfl

theorem HasBound.noneLive (history : HasBound [] host) : NoneLive host.scripts.registry := by
  intro grant entry found live
  obtain ⟨_, member, _⟩ := history.liveWithin.2 grant entry found live
  cases member

/-- Once every subsystem that was ever bound is unbound again, nothing that a script calls reaches
the rig: whatever it kept is inert, the whole rig stays as it is, and a script comes to the same
on any other rig. -/
theorem scripts_isolated_after_teardown (history : HasBound [] host) :
    (∀ chunk arguments, Isolated (Run.chunk chunk arguments) host) ∧
    (∀ callable arguments, Isolated (Run.call callable arguments) host) ∧
    (∀ (grant : Nat) (entry : Grant Rig), host.scripts.registry.grants[grant]? = some entry →
      ∀ moment : Script.Machine Rig, moment.registry = host.scripts.registry →
        IsInert moment (.capability grant) entry.capability.neutral) := by
  have retired := history.noneLive
  have dormant := retired.dormant_closed
  have agrees := retired.answersAlike.compositional
  refine ⟨fun chunk arguments => ?_, fun callable arguments => ?_, ?_⟩
  · exact isolated_of_noneLive (dormant.keeps_chunk chunk arguments)
      (agrees.holds_chunk chunk arguments)
  · exact isolated_of_noneLive (dormant.keeps_call callable arguments)
      (agrees.holds_call callable arguments)
  · intro grant entry found moment same
    have inert := retired grant entry found
    rw [← same] at found
    exact Capability.isInert_of_not_live found inert

namespace KeptFunctions

/-! A script keeps a command and a question before the subsystems are unbound in another order. -/

def keep : Script.Chunk := [
  Script.Steps.hold "drivetrain" "drive" "command",
  Script.Steps.hold "shooter" "is_shooting" "question"]

def use : Script.Chunk := [
  .evaluate (.call (Script.Steps.held "command") [.boolean true]),
  .returned [.call (Script.Steps.held "question") []]]

def shooterBound : Host := (Engine.bind .shooter (start { scripts := {} })).2

def drivetrainBound : Host := (Engine.bind .drivetrain shooterBound).2

def allBound : Host := (Engine.bind .gamepad drivetrainBound).2

def keeping : Host := (execute keep allBound).2

def drivetrainUnbound : Host := (Engine.unbind .drivetrain keeping).2

def gamepadUnbound : Host := (Engine.unbind .gamepad drivetrainUnbound).2

def noneBound : Host := (Engine.unbind .shooter gamepadUnbound).2

def shooting : Rig := { shooter := .shoot (.new default) }

theorem succeeded_of_toOption {outcome : Except Script.Value Unit}
    (succeeded : outcome.toOption = some ()) : outcome = .ok () := by
  cases outcome with
  | ok _ => rfl
  | error _ => cases succeeded

theorem hasBound_noneBound : HasBound [] noneBound := by
  have shooter : HasBound [.shooter] shooterBound :=
    (HasBound.start { scripts := {} }).bind .shooter (succeeded_of_toOption (by decide +kernel))
  have drivetrain : HasBound [.drivetrain, .shooter] drivetrainBound :=
    shooter.bind .drivetrain (succeeded_of_toOption (by decide +kernel))
  have gamepad : HasBound [.gamepad, .drivetrain, .shooter] allBound :=
    drivetrain.bind .gamepad (succeeded_of_toOption (by decide +kernel))
  have first : HasBound [.gamepad, .shooter] drivetrainUnbound :=
    (gamepad.execute keep).unbind .drivetrain (succeeded_of_toOption (by decide +kernel))
  have second : HasBound [.shooter] gamepadUnbound :=
    first.unbind .gamepad (succeeded_of_toOption (by decide +kernel))
  exact second.unbind .shooter (succeeded_of_toOption (by decide +kernel))

end KeptFunctions

open KeptFunctions in
/-- The kept command does not drive, and the kept question is answered with no even in the middle
of a shot. -/
theorem kept_functions_do_nothing :
    (run (Run.chunk use []) { noneBound with rig := shooting }).2.rig = shooting ∧
      (run (Run.chunk use []) { noneBound with rig := shooting }).1.toOption.map
        (List.map Script.Value.isTruthy) = some [false] := by
  have isolated := (scripts_isolated_after_teardown hasBound_noneBound).1 use []
  have answer : (run (Run.chunk use []) noneBound).1.toOption.map
      (List.map Script.Value.isTruthy) = some [false] := by
    decide +kernel
  rw [isolated.any_rig shooting]
  dsimp only
  rw [answer]
  exact ⟨rfl, rfl⟩

end Engine

end ScriptedRobot
