import ScriptedRobot.Capability.Publication
import ScriptedRobot.Capability.Subsystems
import ScriptedRobot.Control.World
import ScriptedRobot.Files

/-! # Script engine

The engine owns the objects of the scripts and the registry of capabilities, and knows where
programs are searched for. Together with the rig and the journal it makes the host. -/

namespace ScriptedRobot

/-- The state of the script engine. -/
structure Engine where
  store : Script.Store := .initial
  registry : Capability.Registry Rig := {}
  /-- What scripts reported. -/
  shown : Array (List Script.Value) := #[]
  /-- Where programs and modules are searched for. -/
  searchDirectory : Option String := none
  /-- Whether the configuration module was loaded. -/
  bootstrapped : Bool := false
  files : Files := {}

/-- The engine with the rig and the journal. -/
abbrev Host : Type := Control.World Engine

namespace Engine

open Script (Run Value)

variable {α : Type}

/-- Run a step of a script. The machine it runs on is that of the engine, with the rig behind the
capabilities. -/
def run (step : Run Rig α) (host : Host) : Except Value α × Host :=
  match host with
  | ⟨⟨store, registry, shown, searchDirectory, bootstrapped, files⟩, rig, journal⟩ =>
    match step.start ⟨store, registry, rig, shown, journal⟩ with
    | (outcome, ⟨store, registry, rig, shown, journal⟩) =>
      (outcome,
        ⟨⟨store, registry, shown, searchDirectory, bootstrapped, files⟩, rig, journal⟩)

/-- Run a step that raises nothing, with a value in case it does. -/
def ask (step : Run Rig α) (fallback : α) (host : Host) : α × Host :=
  let (outcome, host) := run step host
  (outcome.toOption.getD fallback, host)

/-- Run a chunk for its effect. -/
def execute (chunk : Script.Chunk) (host : Host) : Except Value Unit × Host :=
  run (discard (Run.chunk chunk [])) host

/-- The complaint of the engine about a raised value. -/
def complaint (raised : Value) : String :=
  "lua error: " ++ raised.errorMessage

/-- The name and version of the language, as scripts see it. -/
def version : Run Rig String := do
  return ((← Run.getGlobal "_VERSION").toText.toOption).getD "Lua"

/-- A new engine. -/
def start (host : Host) : Host :=
  let host := { host with scripts := { files := host.scripts.files } }
  let (version, host) := ask version "Lua" host
  host.note .debug .scripts (version ++ " initialized")

/-- Publish a subsystem. -/
def bind (subsystem : Subsystem) (host : Host) : Except Value Unit × Host :=
  run (Capability.publish subsystem.name (Capability.capabilitiesOf subsystem)) host

/-- Retract a subsystem. -/
def unbind (subsystem : Subsystem) (host : Host) : Except Value Unit × Host :=
  run (Capability.retract subsystem.name (Capability.symbolsOf subsystem)) host

/-- Do something with subsystems one after the other: the last error, if there was one. -/
def forEach (action : Subsystem → Host → Except Value Unit × Host) (subsystems : List Subsystem)
    (host : Host) : Except Value Unit × Host :=
  subsystems.foldl (fun (outcome, host) subsystem =>
    match action subsystem host with
    | (.ok (), host) => (outcome, host)
    | (.error raised, host) => (.error raised, host)) (.ok (), host)

end Engine

end ScriptedRobot
