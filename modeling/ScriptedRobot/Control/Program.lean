import ScriptedRobot.Control.World
import ScriptedRobot.Text.Quoted

/-! # Calling programs

A callback is called only if the program has it. A program that could not be loaded keeps its
error and skips every callback; otherwise the error belongs to the latest call. -/

namespace ScriptedRobot.Control

/-- What became of a call that reports no failure to its caller. -/
inductive CallOutcome where
  | skipped
  | completed
  /-- The call failed, and the program has the error. -/
  | failed
  deriving Repr, DecidableEq

/-- The outcome as one word. -/
def CallOutcome.label : CallOutcome → String
  | .skipped => "Skipped"
  | .completed => "Completed"
  | .failed => "Failed"

namespace Program

variable {ε π : Type}

/-- The hooks the program has callbacks for. -/
def hooks (program : Program π) : List Hook :=
  program.callbacks.map Prod.fst

/-- Whether the program has a callback for a hook. -/
def hasHook (program : Program π) (hook : Hook) : Bool :=
  (program.callbacks.lookup hook).isSome

/-- Whether the program has an error. -/
def hasError (program : Program π) : Bool :=
  !program.error.isEmpty

/-- Whether the program could not be loaded. -/
def isUnusable (program : Program π) : Bool :=
  program.kind.any ErrorKind.isLoadError

/-- The program without an error. -/
def cleared (program : Program π) : Program π :=
  { program with error := "", kind := none }

/-- Call a hook. -/
def invoke (scripting : Scripting ε π) (hook : Hook) (program : Program π) (world : World ε) :
    Except ScriptError CallOutcome × Program π × World ε :=
  if program.isUnusable then (.ok .skipped, program, world)
  else
    match program.callbacks.lookup hook with
    | none => (.ok .skipped, program.cleared, world)
    | some callback =>
      match scripting.run callback world with
      | (.ok (), world) => (.ok .completed, program.cleared, world)
      | (.error failure, world) =>
        (.error ⟨failure.kind.getD .native, failure.message⟩,
          { program with error := failure.message, kind := failure.kind }, world)

/-- Call a hook; a failure is reported to the journal only. -/
def fire (scripting : Scripting ε π) (hook : Hook) (program : Program π) (world : World ε) :
    CallOutcome × Program π × World ε :=
  match program.invoke scripting hook world with
  | (.ok outcome, program, world) => (outcome, program, world)
  | (.error error, program, world) =>
    (.failed, program,
      world.note .warning .scripts (program.name ++ "." ++ hook.name ++ ": " ++ error.message))

/-- Call a hook in a style. -/
def call (scripting : Scripting ε π) (hook : Hook) (style : CallStyle) (program : Program π)
    (world : World ε) : Except ScriptError CallOutcome × Program π × World ε :=
  match style with
  | .mustSucceed => program.invoke scripting hook world
  | .fireAndForget =>
    let (outcome, program, world) := program.fire scripting hook world
    (.ok outcome, program, world)

/-- Report a failed call. -/
def noteFailure (program : Program π) (hook : Hook) (error : ScriptError) (world : World ε) :
    World ε :=
  world.note .error .scripts (program.name ++ "." ++ hook.name ++ " failed: " ++ error.message)

/-- Call hooks in order, up to the first one that fails. -/
def invokeAll (scripting : Scripting ε π) :
    List Hook → Program π → World ε → Except ScriptError Unit × Program π × World ε
  | [], program, world => (.ok (), program, world)
  | hook :: rest, program, world =>
    match program.invoke scripting hook world with
    | (.ok _, program, world) => invokeAll scripting rest program world
    | (.error error, program, world) =>
      (.error error, program, program.noteFailure hook error world)

/-- The program as one line of text. -/
def description (program : Program π) : String :=
  "ScriptModule \x7b name: " ++ Text.quoted program.name ++
  ", hooks: [" ++ ", ".intercalate (program.hooks.map Hook.label) ++
  "], error: " ++ Text.quoted program.error ++ " \x7d"

end Program

end ScriptedRobot.Control
