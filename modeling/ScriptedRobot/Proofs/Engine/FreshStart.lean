import ScriptedRobot.Deployed.Descriptor
import ScriptedRobot.Proofs.Configuration.Plain
import ScriptedRobot.Proofs.Engine.HostAgreement
import ScriptedRobot.Proofs.Engine.HostRuns

/-! # Activations start afresh

Entering a mode forgets the activation before it: the controller's record of it is cleared, and the
shooter is reset. Nothing that is left over is noticed in the new activation, with one exception.
The configured settings of the shooter are read before it is reset, and a handler of the
configuration can ask the shooter what it is doing. -/

namespace ScriptedRobot

open Hardware (Command)
open Script (Callable Run Store Value)

namespace Control

variable {ε π : Type}

/-- A session with a trace that begins now. -/
def Session.retraced (session : Session ε π) : Session (Traced ε) (Labelled π) where
  controller :=
    { session.controller with program := session.controller.program.map (Program.labelled 0) }
  world := session.world.traced [] []

theorem Session.erased_retraced (session : Session ε π) : session.retraced.erased = session := by
  have program : (session.controller.program.map (Program.labelled 0)).map Program.erased =
      session.controller.program := by
    cases session.controller.program with
    | none => rfl
    | some program => exact congrArg some (program.erased_labelled 0)
  unfold Session.erased Session.retraced Controller.erased
  dsimp only
  rw [program]
  rfl

/-- Entering a mode and what goes on in the activation. -/
def activation (mode : Mode) (programName : Option String) (inputs : List Input) : List (Move ε) :=
  .enter mode programName :: inputs.map Input.move

theorem traced_activation (mode : Mode) (programName : Option String) (inputs : List Input) :
    (activation mode programName inputs : List (Move ε)).map Move.traced =
      activation mode programName inputs := by
  refine congrArg (List.cons _) ?_
  rw [List.map_map]
  exact List.map_congr_left fun input _ => input.traced_move

/-- The activation with a trace of its own. -/
def Session.tracedActivation (scripting : Scripting ε π) (mode : Mode)
    (programName : Option String) (inputs : List Input) (session : Session ε π) :
    Session (Traced ε) (Labelled π) :=
  Session.run scripting.traced (activation mode programName inputs) session.retraced

/-- The trace tells of the activation itself. -/
theorem Session.erased_tracedActivation (scripting : Scripting ε π) (mode : Mode)
    (programName : Option String) (inputs : List Input) (session : Session ε π) :
    (session.tracedActivation scripting mode programName inputs).erased =
      Session.run scripting (activation mode programName inputs) session := by
  have erased := (Session.run_erased scripting session.retraced
    (activation mode programName inputs)).symm
  rw [Session.erased_retraced, traced_activation] at erased
  exact erased

end Control

namespace Engine

open Capability (Indistinct Registry RigClosed SamePhase machineOf)
open Control (Input Session activation)

/-! ## Reading the settings -/

/-- Two hosts with the same engine and the same pad, in the same state for scripts that do not
ask the shooter. -/
structure SameSurroundings (left right : Host) : Prop where
  scripts : left.scripts = right.scripts
  snapshot : left.rig.snapshot = right.rig.snapshot
  pad : left.rig.pad = right.rig.pad
  poisoned : left.rig.poisoned = right.rig.poisoned

/-- Reading the configured settings of the shooter comes to the same on two hosts. -/
structure ReadsAlike (left right : Host) : Prop where
  settings : (scripting.settings left).1 = (scripting.settings right).1
  scripts : (scripting.settings left).2.scripts = (scripting.settings right).2.scripts
  commands : ∃ commands,
    (scripting.settings left).2.rig.drivetrain.received =
      commands ++ left.rig.drivetrain.received ∧
    (scripting.settings right).2.rig.drivetrain.received =
      commands ++ right.rig.drivetrain.received

theorem settings_of_reads {host : Host} {settings : Shooter.Settings}
    (reads : Configuration.Reads host.scripts.store shooterSettings settings) :
    scripting.settings host = (settings, host) := by
  have ran : run shooterSettings host = (.ok settings, host) := by
    rw [run_eq, reads (machineOf host) rfl]
    rfl
  change ask shooterSettings {} host = _
  unfold ask
  rw [ran]
  rfl

section Reading

variable {left right : Host} (same : SameSurroundings left right)
include same

/-- A handler of the configuration learns no more of the shooter than its phase. -/
theorem readsAlike_of_samePhase (ofRig : left.scripts.registry.OfRig)
    (phase : SamePhase left.rig.shooter right.rig.shooter) : ReadsAlike left right := by
  have answers {registry : Registry Rig} (ofRig : registry.OfRig) :
      Script.AnswersAlike registry (Indistinct SamePhase left.rig.drivetrain.received
        right.rig.drivetrain.received) :=
    Capability.answersAlike_of_ofRig Capability.shooterClosed_samePhase ofRig
  have alike : HostsAlike (Indistinct SamePhase left.rig.drivetrain.received
      right.rig.drivetrain.received) left right :=
    ⟨same.scripts, ofRig, phase, same.snapshot, same.pad, same.poisoned, [], rfl, rfl⟩
  obtain ⟨settings, after⟩ := alike.settings answers
  exact ⟨settings, after.scripts, after.rig.commands⟩

theorem readsAlike_of_isPlain (plain : Configuration.IsPlain left.scripts.store) :
    ReadsAlike left right := by
  obtain ⟨settings, reads⟩ : ∃ settings,
      Configuration.Reads left.scripts.store shooterSettings settings :=
    plain.reads_shooterSettings
  have otherReads : Configuration.Reads right.scripts.store shooterSettings settings :=
    same.scripts ▸ reads
  have settled := settings_of_reads reads
  have otherSettled := settings_of_reads otherReads
  constructor
  · rw [settled, otherSettled]
  · rw [settled, otherSettled]
    exact same.scripts
  · rw [settled, otherSettled]
    exact ⟨[], rfl, rfl⟩

end Reading

/-- The pad is as it was, and so are its snapshot and the locks. -/
def SamePad (before after : Rig) : Prop :=
  after.snapshot = before.snapshot ∧ after.pad = before.pad ∧ after.poisoned = before.poisoned

theorem samePad_closed : RigClosed SamePad where
  refl _ := ⟨rfl, rfl, rfl⟩
  trans := by
    rintro _ _ _ ⟨snapshot, pad, poisoned⟩ ⟨later, laterPad, laterPoisoned⟩
    exact ⟨later.trans snapshot, laterPad.trans pad, laterPoisoned.trans poisoned⟩
  load _ := ⟨rfl, rfl, rfl⟩
  intake _ := ⟨rfl, rfl, rfl⟩
  shoot _ := ⟨rfl, rfl, rfl⟩
  stop _ := ⟨rfl, rfl, rfl⟩
  drive _ _ _ := ⟨rfl, rfl, rfl⟩
  stopDrive _ := ⟨rfl, rfl, rfl⟩

/-- The journal has no bearing on what is read. -/
theorem readsAlike_self (host : Host) (ofRig : host.scripts.registry.OfRig)
    (events : Array Event) :
    (scripting.settings { host with journal := events }).1 = (scripting.settings host).1 ∧
      (scripting.settings { host with journal := events }).2.scripts =
        (scripting.settings host).2.scripts ∧
      (scripting.settings { host with journal := events }).2.rig =
        (scripting.settings host).2.rig := by
  have answers {registry : Registry Rig} (_ : registry.OfRig) :
      Script.AnswersAlike registry (Eq : Rig → Rig → Prop) := by
    rintro _ _ _ _ _ _ _ rfl
    exact ⟨rfl, rfl⟩
  have alike : HostsAlike Eq { host with journal := events } host := ⟨rfl, ofRig, rfl⟩
  obtain ⟨settings, after⟩ := alike.settings answers
  exact ⟨settings, after.scripts, after.rig⟩

section Reset

variable {left right : Host} (same : SameSurroundings left right)
  (ofRig : left.scripts.registry.OfRig) (reads : ReadsAlike left right)
include same ofRig reads

/-- After the settings were read the hosts differ in what their shooters are doing only. -/
theorem hostsAlike_settings (events others : Array Event) :
    (scripting.settings { left with journal := events }).1 =
        (scripting.settings { right with journal := others }).1 ∧
      HostsAlike (Indistinct (fun _ _ => True) left.rig.drivetrain.received
          right.rig.drivetrain.received)
        (scripting.settings { left with journal := events }).2
        (scripting.settings { right with journal := others }).2 := by
  have otherOfRig : right.scripts.registry.OfRig := same.scripts ▸ ofRig
  obtain ⟨settings, scripts, rig⟩ := readsAlike_self left ofRig events
  obtain ⟨otherSettings, otherScripts, otherRig⟩ := readsAlike_self right otherOfRig others
  have closed := within_closed samePad_closed
  obtain ⟨ofRigAfter, snapshot, pad, poisoned⟩ := closed.over_settings left ofRig
  obtain ⟨_, otherSnapshot, otherPad, otherPoisoned⟩ := closed.over_settings right otherOfRig
  refine ⟨?_, ?_, ?_, ?_⟩
  · rw [settings, otherSettings, reads.settings]
  · rw [scripts, otherScripts, reads.scripts]
  · rw [scripts]
    exact ofRigAfter
  · rw [rig, otherRig]
    exact
      { shooter := trivial
        snapshot := snapshot.trans (same.snapshot.trans otherSnapshot.symm)
        pad := pad.trans (same.pad.trans otherPad.symm)
        poisoned := poisoned.trans (same.poisoned.trans otherPoisoned.symm)
        commands := reads.commands }

/-- After the shooter was reset scripts cannot tell the hosts apart. -/
theorem hostsAlike_resetShooter {controller other : Control.Controller Callable}
    (period : controller.period = other.period) (events others : Array Event) :
    HostsAlike (Indistinct Eq left.rig.drivetrain.received right.rig.drivetrain.received)
      (controller.resetShooter scripting { left with journal := events })
      (other.resetShooter scripting { right with journal := others }) := by
  obtain ⟨settings, alike⟩ := hostsAlike_settings same ofRig reads events others
  unfold Control.Controller.resetShooter
  dsimp only
  rw [settings, period]
  exact { alike with rig := { alike.rig with shooter := rfl } }

end Reset

/-! ## Activations -/

/-- What two activations have come to is the same. -/
structure SameSoFar (before otherBefore now otherNow : Session Engine Callable) : Prop where
  ticks : now.controller.ticks = otherNow.controller.ticks
  allStopTicks : now.controller.allStopTicks = otherNow.controller.allStopTicks
  latched : now.controller.latched = otherNow.controller.latched
  program : now.controller.program = otherNow.controller.program
  error : now.controller.errorText? = otherNow.controller.errorText?
  /-- The drivetrains received the same commands in the activation. -/
  commands : ∃ commands,
    now.world.rig.drivetrain.received = commands ++ before.world.rig.drivetrain.received ∧
    otherNow.world.rig.drivetrain.received =
      commands ++ otherBefore.world.rig.drivetrain.received
  outcome : (now.tick scripting).1 = (otherNow.tick scripting).1
  /-- A tick gives the wheels of the shooter the same volts. -/
  volts : (now.tick scripting).2.world.rig.volts = (otherNow.tick scripting).2.world.rig.volts
  result : (now.exit scripting).1 = (otherNow.exit scripting).1

theorem sameSoFar_of_alike {before otherBefore now otherNow : Session Engine Callable}
    (same : now.controller.Alike otherNow.controller)
    (alike : HostsAlike (Indistinct Eq before.world.rig.drivetrain.received
      otherBefore.world.rig.drivetrain.received) now.world otherNow.world) :
    SameSoFar before otherBefore now otherNow := by
  have lockstep := lockstep_hostsAlike before.world.rig.drivetrain.received
    otherBefore.world.rig.drivetrain.received
  obtain ⟨outcome, _, _, volts⟩ := lockstep.tick same alike
  refine
    { ticks := same.ticks, allStopTicks := same.allStopTicks, latched := same.latched
      program := same.program, error := ?_, commands := alike.rig.commands, outcome, volts
      result := (lockstep.exit same alike).1 }
  unfold Control.Controller.errorText?
  rw [same.latched, same.program]

/-- What an activation loaded and called. -/
def told (session : Session (Control.Traced Engine) (Control.Labelled Callable)) :
    List Control.Loaded × List (Nat × Hook × Option Control.CallFailure) :=
  (session.world.loads, session.world.calls.map Control.Call.told)

section Activations

variable {left right : Session Engine Callable}
  (period : left.controller.period = right.controller.period)
  (same : SameSurroundings left.world right.world)
  (ofRig : left.world.scripts.registry.OfRig) (reads : ReadsAlike left.world right.world)
  (mode : Mode) (programName : Option String)
include period same ofRig reads

theorem resetShooter_alike :
    HostsAlike (Indistinct Eq left.world.rig.drivetrain.received
        right.world.rig.drivetrain.received)
      ((left.controller.activate mode).resetShooter scripting
        (left.world.note .info .bot ("entering " ++ mode.name ++ " mode")))
      ((right.controller.activate mode).resetShooter scripting
        (right.world.note .info .bot ("entering " ++ mode.name ++ " mode"))) := by
  have activated : (left.controller.activate mode).period =
      (right.controller.activate mode).period := period
  exact hostsAlike_resetShooter same ofRig reads activated _ _

/-- From entering on, the two activations come to the same. -/
theorem sameSoFar_activation :
    (left.enter scripting mode programName).1 = (right.enter scripting mode programName).1 ∧
      ∀ inputs, SameSoFar left right
        (Session.run scripting (activation mode programName inputs) left)
        (Session.run scripting (activation mode programName inputs) right) := by
  have lockstep := lockstep_hostsAlike left.world.rig.drivetrain.received
    right.world.rig.drivetrain.received
  obtain ⟨result, entered, alike⟩ := lockstep.enter period
    (resetShooter_alike period same ofRig reads mode) programName
  refine ⟨result, fun inputs => ?_⟩
  obtain ⟨now, alikeNow⟩ := lockstep.run_inputs inputs entered alike
  exact sameSoFar_of_alike now alikeNow

/-- The two activations load the same program and run the same callbacks. -/
theorem told_activation (inputs : List Input) :
    told (left.tracedActivation scripting mode programName inputs) =
      told (right.tracedActivation scripting mode programName inputs) := by
  have lockstep := (lockstep_hostsAlike left.world.rig.drivetrain.received
    right.world.rig.drivetrain.received).traced
  have reset : Control.TracedAlike (HostsAlike (Indistinct Eq left.world.rig.drivetrain.received
        right.world.rig.drivetrain.received))
      ((left.retraced.controller.activate mode).resetShooter scripting.traced
        (left.retraced.world.note .info .bot ("entering " ++ mode.name ++ " mode")))
      ((right.retraced.controller.activate mode).resetShooter scripting.traced
        (right.retraced.world.note .info .bot ("entering " ++ mode.name ++ " mode"))) :=
    ⟨resetShooter_alike period same ofRig reads mode, rfl, rfl⟩
  have periods : left.retraced.controller.period = right.retraced.controller.period := period
  obtain ⟨_, entered, alike⟩ := lockstep.enter periods reset programName
  obtain ⟨_, now⟩ := lockstep.run_inputs inputs entered alike
  exact Prod.ext now.loads now.calls

end Activations

namespace InterruptedShot

/-! A shot is under way when teleop is entered. -/

def fresh : Host := { scripts := {} }

def bound : List HostMove := [.bind .shooter, .bind .drivetrain]

def shoot : HostMove := .operate fun rig => rig.changeShooter Shooter.Sequence.shoot

/-- The configuration drives forward whenever it is read while the shooter shoots. -/
def watching : Script.Chunk := [
  .setGlobal "config" (.withHandlers (.table []) (.function [] [
    .branch (Script.Steps.callSymbol "shooter" "is_shooting" [])
      [Deployed.command "drivetrain" "drive" [.number 1.0, .number 0.0]]
      []]) .nil)]

def watched : List HostMove := bound ++ [.execute watching]

theorem sameSurroundings_shoot (moves : List HostMove) :
    SameSurroundings (hostRun 20 fresh moves).world
      (hostRun 20 fresh (moves ++ [shoot])).world := by
  rw [hostRun_append]
  generalize hostRun 20 fresh moves = session
  exact ⟨rfl, rfl, rfl, rfl⟩

theorem period_shoot (moves : List HostMove) :
    (hostRun 20 fresh moves).controller.period =
      (hostRun 20 fresh (moves ++ [shoot])).controller.period := by
  rw [hostRun_append]
  generalize hostRun 20 fresh moves = session
  rfl

end InterruptedShot

end Engine

end ScriptedRobot
