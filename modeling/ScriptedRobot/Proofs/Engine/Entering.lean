import ScriptedRobot.Deployed.Descriptor
import ScriptedRobot.Proofs.Engine.Bridge
import ScriptedRobot.Proofs.Shooter.Usable

/-! # Entering a mode on a host

Entering a mode resets the shooter with the configured settings if they are usable, and with
settings of which all durations and powers are the defaults if not. Nothing but entering a mode
changes the settings, so that the wheels are given finite volts on every tick until then. -/

namespace ScriptedRobot

open Shooter (Sequence Settings)

/-! ## The settings that are installed -/

namespace Control.Controller

variable {settings : Settings}

theorem usableSettings_of_usable (usable : settings.IsUsable) (period : Int32) :
    (usableSettings period settings).1 = { settings with period } := by
  unfold usableSettings
  dsimp only
  rw [Settings.fault?_eq_none_iff.mpr (usable.withPeriod period)]

theorem usableSettings_of_not_usable (unusable : ¬ settings.IsUsable) (period : Int32) :
    (usableSettings period settings).1 = { period } := by
  have faulty : { settings with period }.fault? ≠ none := by
    intro faultless
    have usable := Settings.fault?_eq_none_iff.mp faultless
    exact unusable (usable.withPeriod settings.period)
  obtain ⟨fault, found⟩ := Option.ne_none_iff_exists'.mp faulty
  unfold usableSettings
  dsimp only
  rw [found]

end Control.Controller

namespace Engine

open Script (Callable)
open Control (ActivationClosed Controller Session)

/-- The shooter has the same settings. -/
def SameSettings (before after : Rig) : Prop :=
  after.shooter.settings = before.shooter.settings

theorem sameSettings_padClosed : PadClosed SameSettings where
  refl _ := rfl
  trans first second := second.trans first
  load _ := Sequence.settings_load
  intake _ := Sequence.settings_load
  shoot _ := Sequence.settings_shoot
  stop _ := rfl
  drive _ _ _ := rfl
  stopDrive _ := rfl
  readPad rig := by
    unfold SameSettings Rig.readPad
    split <;> rfl

/-- How the control loop drives the scripts when it reads the configuration through a bridge. -/
def scriptingThrough (bridge : Bridge) : Control.Scripting Engine Callable :=
  scriptingWith bridge.settings

/-- Through the bridge of the engine the scripts are driven as the engine drives them. -/
theorem scriptingThrough_own : scriptingThrough .own = scripting := by
  have same : Bridge.own.settings = scripting.settings := funext Bridge.settings_own
  exact congrArg scriptingWith same

section Settings

variable (bridge : Bridge)

theorem sameSettings_closed :
    ActivationClosed (scriptingThrough bridge) (Within SameSettings) :=
  sameSettings_padClosed.activationClosed bridge.settings

/-- Whether a move neither enters a mode nor gives the shooter other settings. -/
structure HostMove.KeepsSettings (move : HostMove) : Prop where
  inside : move.move.isEnter = false
  operated : move.StaysWithin SameSettings

theorem sameSettings_step {move : HostMove} (keeps : move.KeepsSettings)
    (session : Session Engine Callable) :
    Within SameSettings session.world
      (session.step (scriptingThrough bridge) move.move).world := by
  have closed := sameSettings_closed bridge
  cases move with
  | enter _ _ => cases keeps.inside
  | tick =>
      exact closed.tick (fun _ ofRig => ⟨ofRig, Sequence.settings_advance⟩) session
  | exit => exact closed.exit session
  | bind _ | unbind _ | execute _ | call _ | setSearchPath _ | bootstrap _ _ | overwrite _
  | replaceFiles _ | operate _ =>
      exact within_outside sameSettings_padClosed.toRigClosed keeps.operated session.world

/-- Ticks give finite volts as long as the settings are usable. -/
theorem isFinite_volts_tick {session : Session Engine Callable}
    (ofRig : session.world.scripts.registry.OfRig)
    (usable : session.world.rig.shooter.settings.IsUsable) :
    (session.tick (scriptingThrough bridge)).2.world.rig.volts.IsFinite := by
  obtain ⟨_, same⟩ := (sameSettings_closed bridge).midTick session ofRig
  rw [volts_tick]
  exact Sequence.isFinite_output (same.symm ▸ usable)

variable (session : Session Engine Callable) (mode : Mode) (programName : Option String)

/-- What is found of the settings of the shooter when a mode is entered. -/
def readingsOnEntering : Configuration.Readings :=
  (bridge.readings
    (session.world.note .info .bot ("entering " ++ mode.name ++ " mode"))).1

/-- Whatever the hooks of the start do and whether they fail, the shooter ends up with the settings
that it was reset with. -/
theorem settings_enter (ofRig : session.world.scripts.registry.OfRig) :
    let entered := (session.enter (scriptingThrough bridge) mode programName).2
    entered.world.scripts.registry.OfRig ∧
      entered.world.rig.shooter.settings = (Controller.usableSettings session.controller.period
        (readingsOnEntering bridge session mode).settings).1 := by
  intro entered
  -- The settings are read after the activation was reported, and the shooter is reset after that.
  let reported : Host := session.world.note .info .bot ("entering " ++ mode.name ++ " mode")
  have ofRigRead : (bridge.settings reported).2.scripts.registry.OfRig :=
    bridge.handsOutRig_settings reported ofRig
  have configured : (bridge.settings reported).1 = (readingsOnEntering bridge session mode).settings :=
    congrArg Prod.fst (bridge.settings_eq reported)
  obtain ⟨ofRigEntered, same⟩ :=
    (sameSettings_closed bridge).enter_of_reset mode programName session ofRigRead
  refine ⟨ofRigEntered, same.trans ?_⟩
  exact congrArg (fun settings =>
    (Controller.usableSettings session.controller.period settings).1) configured

end Settings

/-- Entering a mode leaves the shooter with usable settings, whatever the bridge finds, whatever the
controller did before, and whatever the hooks of the start do: the configured settings with the
period of the controller if they are usable, and otherwise the defaults throughout. On every tick
until a mode is entered again the wheels are given finite volts. -/
theorem usable_settings_once_entered (bridge : Bridge) (period : Int32) (host : Host)
    (moves : List HostMove) (controller : Controller Callable) (mode : Mode)
    (programName : Option String) :
    let session : Session Engine Callable := ⟨controller, (hostRun period host moves).world⟩
    let configured := (readingsOnEntering bridge session mode).settings
    let entered := (session.enter (scriptingThrough bridge) mode programName).2
    let installed := entered.world.rig.shooter.settings
    installed.fault? = none ∧ installed.period = controller.period ∧
    (configured.IsUsable → installed = { configured with period := controller.period }) ∧
    (¬ configured.IsUsable → installed = { period := controller.period }) ∧
    ∀ later : List HostMove, (∀ move ∈ later, move.KeepsSettings) →
      let reached := Session.run (scriptingThrough bridge) (later.map HostMove.move) entered
      (reached.tick (scriptingThrough bridge)).2.world.rig.volts.IsFinite := by
  intro session configured entered installed
  have ofRig : session.world.scripts.registry.OfRig := ofRig_hostRun period host moves
  obtain ⟨ofRigEntered, settings⟩ := settings_enter bridge session mode programName ofRig
  have usual (usable : configured.IsUsable) :
      installed = { configured with period := controller.period } :=
    settings.trans (Controller.usableSettings_of_usable usable controller.period)
  have fallback (unusable : ¬ configured.IsUsable) : installed = { period := controller.period } :=
    settings.trans (Controller.usableSettings_of_not_usable unusable controller.period)
  have sound : installed.IsUsable ∧ installed.period = controller.period := by
    by_cases usable : configured.IsUsable
    · rw [usual usable]
      exact ⟨usable.withPeriod controller.period, rfl⟩
    · rw [fallback usable]
      exact ⟨Settings.isUsable_defaults controller.period, rfl⟩
  refine ⟨Settings.fault?_eq_none_iff.mpr sound.1, sound.2, usual, fallback, ?_⟩
  intro later keeps reached
  obtain ⟨ofRigReached, same⟩ : reached.world.scripts.registry.OfRig ∧
      SameSettings entered.world.rig reached.world.rig := by
    refine within_run_moves sameSettings_padClosed.toRigClosed (fun move member => ?_) entered
      ofRigEntered
    exact sameSettings_step bridge (keeps move member)
  exact isFinite_volts_tick bridge ofRigReached (same.symm ▸ sound.1)

/-- A script configures a power that is not a number. -/
def misconfigured : List HostMove := [
  .bind .shooter,
  .execute [.setGlobal "config" (.table [.text "shooter",
    .table [.text "shoot_power", .number Number.notANumber, .text "shoot_time", .integer 2]])]]

/-- A script starts a shot. -/
def shot : List HostMove :=
  [.execute [Deployed.command "shooter" "shoot" []]]

theorem defaults_replace_power_that_is_not_a_number :
    let session : Session Engine Callable :=
      ⟨.new 10, (hostRun 20 { scripts := {} } misconfigured).world⟩
    let entered := (session.enter scripting .teleop none).2
    let reached := Session.run scripting (shot.map HostMove.move) entered
    entered.world.rig.shooter.settings = { period := 10 } ∧
      reached.world.rig.shooter.phase = .shooting ∧
      (reached.tick scripting).2.world.rig.volts.IsFinite := by
  have keeps : ∀ move ∈ shot, move.KeepsSettings := by
    intro move member
    obtain rfl := List.mem_singleton.mp member
    exact ⟨rfl, trivial⟩
  have entering :=
    usable_settings_once_entered .own 20 { scripts := {} } misconfigured (.new 10) .teleop none
  rw [scriptingThrough_own] at entering
  dsimp only at entering ⊢
  obtain ⟨_, _, _, fallback, finite⟩ := entering
  refine ⟨fallback ?_, ?_, finite shot keeps⟩
  · decide +kernel
  · decide +kernel

end Engine

end ScriptedRobot
