import ScriptedRobot.Proofs.Configuration.Lookups
import ScriptedRobot.Proofs.Configuration.Readings
import ScriptedRobot.Proofs.Engine.HostRuns

/-! # Bridges to the robot configuration

The control loop reads the robot configuration through a bridge: any way to look values up on the
host. Looking a value up may run scripts, but nothing except capabilities of the rig is handed out
by it. The engine comes with a bridge of its own, which looks values up in the global table that
scripts set up, and never raises. -/

namespace ScriptedRobot

open Script (Run Value)
open ScriptedRobot.Configuration (Lookup Readings)

namespace Engine

/-! ## Bridges -/

section Steps

variable {α β : Type}

/-- Only capabilities of the rig are handed out. -/
def HandsOutRig (step : StateM Host α) : Prop :=
  ∀ host : Host, host.scripts.registry.OfRig → (step host).2.scripts.registry.OfRig

theorem HandsOutRig.bind {step : StateM Host α} {next : α → StateM Host β}
    (first : HandsOutRig step) (second : ∀ value, HandsOutRig (next value)) :
    HandsOutRig (step >>= next) :=
  fun host ofRig => second _ _ (first host ofRig)

/-- A step of scripts does on every host what a step on the host does. -/
def Performs (step : Run Rig α) (made : StateM Host α) : Prop :=
  ∀ host, run step host = (.ok (made host).1, (made host).2)

theorem performs_pure (value : α) : Performs (pure value) (pure value) :=
  fun _ => rfl

theorem Performs.bind {step : Run Rig α} {made : StateM Host α} {next : α → Run Rig β}
    {madeNext : α → StateM Host β} (first : Performs step made)
    (second : ∀ value, Performs (next value) (madeNext value)) :
    Performs (step >>= next) (made >>= madeNext) :=
  fun host => (run_bind_of_ok (first host) next).trans (second _ _)

theorem performs_ask {step : Run Rig α} (yields : step.Yields) (fallback : α) :
    Performs step (ask step fallback) := by
  intro host
  obtain ⟨value, _, ended⟩ := yields ⟨host.scripts.store, host.scripts.registry, host.rig,
    host.scripts.shown, host.journal⟩
  have outcome : (run step host).1 = .ok value := by
    unfold run
    dsimp only
    rw [ended]
  unfold ask
  generalize run step host = ran at outcome ⊢
  obtain ⟨_, after⟩ := ran
  obtain rfl := outcome
  rfl

theorem Performs.ask_eq {step : Run Rig α} {made : StateM Host α} (performs : Performs step made)
    (fallback : α) (host : Host) : ask step fallback host = made host := by
  unfold ask
  rw [performs host]
  rfl

end Steps

/-- A way to look values of the robot configuration up on the host. -/
structure Bridge where
  lookup : Lookup (StateM Host)
  handsOutRig : ∀ category symbol, HandsOutRig (lookup category symbol)

namespace Bridge

/-- What is found of the settings of the shooter. -/
def readings (bridge : Bridge) (host : Host) : Readings × Host :=
  Readings.take bridge.lookup host

/-- The settings of the shooter as they are configured. -/
def settings (bridge : Bridge) : StateM Host Shooter.Settings :=
  bridge.lookup.shooterSettings

theorem settings_eq (bridge : Bridge) (host : Host) :
    bridge.settings host = ((bridge.readings host).1.settings, (bridge.readings host).2) := by
  unfold settings
  rw [Readings.shooterSettings_eq]
  rfl

theorem handsOutRig_settings (bridge : Bridge) : HandsOutRig bridge.settings := by
  intro host ofRig
  rw [settings_eq]
  have taken : HandsOutRig (Readings.take bridge.lookup) :=
    Readings.take_related (fun step (_ : StateM Host _) => HandsOutRig step)
      (fun _ _ ofRig => ofRig) HandsOutRig.bind bridge.lookup bridge.lookup bridge.handsOutRig
  exact taken host ofRig

/-- The bridge of the engine itself. -/
def own : Bridge where
  lookup category symbol := ask (Configuration.Global.lookup category symbol) none
  handsOutRig category symbol host ofRig :=
    (within_run ((within_closed loopClosed_true.toRigClosed).holds_lookup category symbol) host
      ofRig).1

theorem performs_own (category symbol : String) :
    Performs (Configuration.Global.lookup category symbol) (own.lookup category symbol) :=
  performs_ask (Configuration.Global.yields_lookup category symbol) none

/-- The bridge of the engine reads the settings that the engine reads. -/
theorem settings_own (host : Host) : own.settings host = scripting.settings host := by
  have taken : Performs (Readings.take Configuration.Global.lookup) (Readings.take own.lookup) :=
    Readings.take_related Performs performs_pure Performs.bind _ _ performs_own
  have made : Performs shooterSettings own.settings := by
    unfold shooterSettings settings
    rw [Readings.shooterSettings_eq, Readings.shooterSettings_eq, map_eq_pure_bind,
      map_eq_pure_bind]
    exact taken.bind fun found => performs_pure _
  exact (made.ask_eq {} host).symm

end Bridge

end Engine

end ScriptedRobot
