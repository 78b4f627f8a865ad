import ScriptedRobot.Proofs.Script.Tracking

/-! # Properties that pass from steps to scripts

Some properties of evaluations have nothing to do with the values that are handled. They pass from
the elementary steps of a script to what is put together from them, whatever these steps yield and
raise, and so they hold of every evaluation (`Compositional.holds_chunk`,
`Compositional.holds_call`). -/

namespace ScriptedRobot.Script

open Vettable (isVetted_true)

variable {σ α β : Type}

/-- A property of steps that the elementary steps of a script have, and that passes on to what is
put together from them. -/
structure Compositional (holds : ∀ {α : Type}, Run σ α → Prop) : Prop where
  pure : ∀ {α : Type} (value : α), holds (pure value : Run σ α)
  throw : ∀ {α : Type} (raised : Value), holds (throw raised : Run σ α)
  bind : ∀ {α β : Type} {step : Run σ α} {next : α → Run σ β}, holds step →
    (∀ value, holds (next value)) → holds (step >>= next)
  tryCatch : ∀ {α : Type} {step : Run σ α} {handler : Value → Run σ α}, holds step →
    (∀ raised, holds (handler raised)) → holds (tryCatch step handler)
  useStore : ∀ {α : Type} (change : Store → α × Store),
    holds (Run.useStore change : Run σ α)
  report : ∀ values, holds (Run.report values : Run σ Unit)
  /-- The function may call back into the script. -/
  callGrant : ∀ {call : Call σ}, (∀ callable arguments, holds (call callable arguments)) →
    ∀ id arguments, holds (callGrant call id arguments)

namespace Compositional

variable {holds : ∀ {α : Type}, Run σ α → Prop} (closed : Compositional holds)
include closed

/-- Where every failure is allowed, all values are vetted. -/
theorem tracking : Tracking (fun _ => True) fun step : Run σ _ => holds step where
  pure _ := closed.pure _
  throw _ := closed.throw _
  bind first second := closed.bind first fun value => second value (isVetted_true value)
  tryCatch first second := closed.tryCatch first fun raised => second raised (isVetted_true raised)
  useStore change _ := closed.useStore change
  report _ := closed.report _
  callGrant calls id arguments _ :=
    closed.callGrant (fun callable arguments => calls callable (isVetted_true arguments)) id
      arguments

theorem holds_changeStore (change : Store → Store) :
    holds (Run.changeStore change : Run σ Unit) :=
  closed.tracking.holds_changeStore fun _ _ => isVetted_true _

theorem holds_newTable (table : Table) : holds (Run.newTable table : Run σ Value) :=
  closed.tracking.holds_newTable (isVetted_true table)

theorem holds_call (callable : Callable) (arguments : List Value) :
    holds (Run.call callable arguments : Run σ (List Value)) :=
  closed.tracking.holds_call callable (isVetted_true arguments)

theorem holds_setIndex (table key value : Value) :
    holds (Run.setIndex table key value : Run σ Unit) :=
  closed.tracking.holds_setIndex (isVetted_true table) (isVetted_true key) (isVetted_true value)

theorem holds_chunk (chunk : Chunk) (arguments : List Value) :
    holds (Run.chunk chunk arguments : Run σ (List Value)) :=
  closed.tracking.holds_chunk chunk (isVetted_true arguments)

end Compositional

end ScriptedRobot.Script
