import ScriptedRobot.Engine.Host
import ScriptedRobot.Proofs.Script.Outcome

/-! # The machine of a host

The scripts of a host run on its objects, its registry, its rig and its journal. Everything else
of the host is out of their reach. -/

namespace ScriptedRobot

open Script (Value Run)

/-- The machine that the scripts of a host run on. -/
def Capability.machineOf (host : Host) : Script.Machine Rig :=
  ⟨host.scripts.store, host.scripts.registry, host.rig, host.scripts.shown, host.journal⟩

namespace Engine

open Capability (machineOf)

variable {α β : Type}

/-- A run works on the machine of the host, and nothing else of the host changes. -/
theorem run_eq (step : Run Rig α) (host : Host) :
    run step host =
      ((step.start (machineOf host)).1,
        { scripts := { host.scripts with
            store := (step.start (machineOf host)).2.store
            registry := (step.start (machineOf host)).2.registry
            shown := (step.start (machineOf host)).2.shown }
          rig := (step.start (machineOf host)).2.native
          journal := (step.start (machineOf host)).2.journal }) := rfl

/-- The host with the scripts on another machine. -/
def onMachine (host : Host) (machine : Script.Machine Rig) : Host where
  scripts := { host.scripts with
    store := machine.store, registry := machine.registry, shown := machine.shown }
  rig := machine.native
  journal := machine.journal

theorem run_of_start {step : Run Rig α} {host : Host} {outcome : Except Value α}
    {after : Script.Machine Rig} (ran : step.start (machineOf host) = (outcome, after)) :
    run step host = (outcome, onMachine host after) := by
  rw [run_eq, ran]
  rfl

theorem run_bind (step : Run Rig α) (next : α → Run Rig β) (host : Host) :
    run (step >>= next) host =
      match run step host with
      | (.ok value, after) => run (next value) after
      | (.error raised, after) => (.error raised, after) := by
  unfold run
  dsimp only
  rw [Run.start_bind]
  rcases step.start _ with ⟨_ | _, after⟩ <;> rfl

theorem run_bind_of_ok {step : Run Rig α} {value : α} {host after : Host}
    (ran : run step host = (.ok value, after)) (next : α → Run Rig β) :
    run (step >>= next) host = run (next value) after := by
  rw [run_bind, ran]

theorem run_bind_of_error {step : Run Rig α} {raised : Value} {host after : Host}
    (ran : run step host = (.error raised, after)) (next : α → Run Rig β) :
    run (step >>= next) host = (.error raised, after) := by
  rw [run_bind, ran]

/-- The text that was raised, if one was. -/
def raisedText? : Except Value α → Option String
  | .error (.text raised) => some raised
  | _ => none

theorem eq_of_raisedText? {outcome : Except Value α} {message : String}
    (raised : raisedText? outcome = some message) : outcome = .error (.text message) := by
  unfold raisedText? at raised
  split at raised
  · rw [Option.some.inj raised]
  · cases raised

end Engine

end ScriptedRobot
