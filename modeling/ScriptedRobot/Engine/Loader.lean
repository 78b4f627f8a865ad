import ScriptedRobot.Control.Program
import ScriptedRobot.Engine.Search

/-! # Loading programs

A program is a script that returns a factory; the factory returns a descriptor, and the functions
found in it under the names of hooks are the callbacks. They are captured once. The first stage
that fails is the program's error, and then it has no callbacks at all. -/

namespace ScriptedRobot.Engine

open Script (Run Value Callable)
open Control (Program CallFailure)

/-- A raised value as the failure of a program. -/
def failureOf (raised : Value) : ScriptError :=
  ⟨if raised.isNative then .native else .runtime, raised.errorMessage⟩

/-- The statements of a program file, or why there are none. -/
def readProgram (files : Files) (path : String) : Except ScriptError Script.Chunk :=
  match files.content? path with
  | none => .error ⟨.fileNotFound, "file does not exist: " ++ path⟩
  | some .unreadable =>
    .error ⟨.io, "could not read " ++ path ++ ": Input/output error (os error 5)"⟩
  | some content =>
    match scriptOf? content with
    | some chunk => .ok chunk
    | none => .error ⟨.syntaxError, "syntax error"⟩

/-- The functions in a descriptor under the names of hooks. -/
def captureHooks (descriptor : Value) : List Hook → Run Rig (List (Hook × Callable))
  | [] => return []
  | hook :: rest => do
    match ← Run.getIndex descriptor (.text hook.name) with
    | .function callable => return (hook, callable) :: (← captureHooks descriptor rest)
    | _ => captureHooks descriptor rest

/-- Run a program up to its descriptor and capture the callbacks. -/
def captureProgram (chunk : Script.Chunk) :
    Run Rig (Except ScriptError (List (Hook × Callable))) := do
  match Value.first (← Run.chunk chunk []) with
  | .function factory =>
    match Value.first (← Run.call factory []) with
    | .table id => return .ok (← captureHooks (.table id) Hook.all)
    | _ => return .error ⟨.notADescriptor, "did not get a descriptor table"⟩
  | _ => return .error ⟨.notAFactory, "did not get a factory function"⟩

/-- The callbacks of the program in a file. -/
def capture (path : String) (host : Host) :
    Except ScriptError (List (Hook × Callable)) × Host :=
  match readProgram host.scripts.files path with
  | .error error => (.error error, host)
  | .ok chunk =>
    match run (captureProgram chunk) host with
    | (.error raised, host) => (.error (failureOf raised), host)
    | (.ok outcome, host) => (outcome, host)

/-- Load the program in a file under a name. -/
def loadAs (name path : String) (host : Host) : Program Callable × Host :=
  match capture path host with
  | (.error error, host) => ({ name, error := error.message, kind := some error.kind }, host)
  | (.ok callbacks, host) =>
    let names := ", ".intercalate (callbacks.map fun callback => callback.1.name)
    ({ name, callbacks }, host.note .debug .scripts (name ++ ": callbacks [" ++ names ++ "]"))

/-- Load a program by its name. -/
def load (program : String) (host : Host) : Program Callable × Host :=
  let path := resolveProgram host.scripts.searchDirectory program
  let (loaded, host) := loadAs program path host
  if loaded.hasError then (loaded, host.note .warning .scripts (program ++ ": " ++ loaded.error))
  else (loaded, host)

/-- Run a callback. -/
def runCallback (callable : Callable) (host : Host) : Except CallFailure Unit × Host :=
  match run (Run.call callable []) host with
  | (.ok _, host) => (.ok (), host)
  | (.error raised, host) =>
    let error := failureOf raised
    (.error ⟨some error.kind, error.message⟩, host)

/-- The configured settings of the shooter. -/
def shooterSettings : Run Rig Shooter.Settings :=
  let lookup : Configuration.Lookup (Run Rig) := Configuration.Global.lookup
  lookup.shooterSettings

/-- How the control loop drives the scripts of the engine. These scripts give their tables no
finalizers, so that nothing runs when the engine is tidied up. -/
def scripting : Control.Scripting Engine Callable where
  load := load
  run := runCallback
  settings := ask shooterSettings {}
  collect host := host

end ScriptedRobot.Engine
