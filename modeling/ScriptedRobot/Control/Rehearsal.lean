import ScriptedRobot.Configuration.Reading
import ScriptedRobot.Control.Controller

/-! # Rehearsals

Scripts that do nothing but remember which of their callbacks were called, and fail when they are
told to. With them the control loop can be tried without a script machine. -/

namespace ScriptedRobot.Control

/-- What rehearsed scripts do and remember. -/
structure Rehearsal where
  /-- The hooks that loaded programs have callbacks for. -/
  hooks : List Hook := []
  /-- The hooks whose callbacks fail. -/
  failures : List (Hook × CallFailure) := []
  /-- The error that loaded programs carry. -/
  loadFailure : Option CallFailure := none
  /-- The configuration, by category and symbol joined with a point. -/
  configuration : List (String × Configuration.Value) := []
  calls : Array Hook := #[]
  /-- How often the scripts were tidied up. -/
  collections : Nat := 0

namespace Rehearsal

/-- Let the callback of a hook fail. -/
def failOn (rehearsal : Rehearsal) (hook : Hook) (failure : CallFailure) : Rehearsal :=
  { rehearsal with failures := (hook, failure) :: rehearsal.failures }

/-- Let the callback of a hook succeed again. -/
def recover (rehearsal : Rehearsal) (hook : Hook) : Rehearsal :=
  { rehearsal with failures := rehearsal.failures.filter fun failure => failure.1 != hook }

/-- The callbacks of programs that have some of the hooks. -/
def callbacksFor (hooks : List Hook) : List (Hook × Hook) :=
  (Hook.all.filter hooks.contains).map fun hook => (hook, hook)

/-- The program that is loaded under any name. -/
def program (rehearsal : Rehearsal) (name : String) : Program Hook :=
  let callbacks := callbacksFor rehearsal.hooks
  match rehearsal.loadFailure with
  | some failure => { name, callbacks, error := failure.message, kind := failure.kind }
  | none => { name, callbacks }

/-- A value of the configuration. -/
def lookup (rehearsal : Rehearsal) : Configuration.Lookup Id := fun category symbol =>
  rehearsal.configuration.lookup (category ++ "." ++ symbol)

/-- Remember a call. -/
def record (rehearsal : Rehearsal) (hook : Hook) : Rehearsal :=
  { rehearsal with calls := rehearsal.calls.push hook }

/-- What a callback does. -/
def run (hook : Hook) (world : World Rehearsal) :
    Except CallFailure Unit × World Rehearsal :=
  (match world.scripts.failures.lookup hook with
    | some failure => .error failure
    | none => .ok (),
    { world with scripts := world.scripts.record hook })

/-- How rehearsed scripts are driven. -/
def scripting : Scripting Rehearsal Hook where
  load name world := (world.scripts.program name, world)
  run := run
  settings world := (world.scripts.lookup.shooterSettings, world)
  collect world :=
    { world with
      scripts := { world.scripts with collections := world.scripts.collections + 1 } }

/-- Choose other hooks. A program that is loaded already changes with them. -/
def chooseHooks (hooks : List Hook) (controller : Controller Hook) (world : World Rehearsal) :
    Controller Hook × World Rehearsal :=
  ({ controller with
      program := controller.program.map fun program =>
        { program with callbacks := callbacksFor hooks } },
    { world with scripts := { world.scripts with hooks } })

end Rehearsal

end ScriptedRobot.Control
