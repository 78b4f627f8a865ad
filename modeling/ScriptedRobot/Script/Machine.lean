import ScriptedRobot.Capability.Grant
import ScriptedRobot.Script.Store

/-! # Script machine

Everything a script can see or change: its objects, the capabilities handed out to it, the
subsystems of type `σ` behind them, what it showed to the host, and the journal. A step of a
script changes the machine and either yields a value or raises one; what was changed before an
error stays changed. -/

namespace ScriptedRobot.Script

/-- The state of a script machine over subsystems of type `σ`. -/
structure Machine (σ : Type) where
  store : Store := .initial
  registry : Capability.Registry σ := {}
  native : σ
  /-- The rows of values that scripts reported, oldest first. -/
  shown : Array (List Value) := #[]
  journal : Array Event := #[]

/-- A step of a script. -/
abbrev Run (σ : Type) : Type → Type :=
  ExceptT Value (StateM (Machine σ))

namespace Run

variable {σ α : Type}

/-- Run a step: its outcome and the machine afterwards. -/
def start (step : Run σ α) (machine : Machine σ) : Except Value α × Machine σ :=
  StateT.run (ExceptT.run step) machine

/-- Raise an error of the language itself. -/
def fail (message : String) : Run σ α :=
  throw (.text message)

/-- Read something off the objects. -/
def readStore (read : Store → α) : Run σ α := do
  return read (← get).store

/-- Change the objects. -/
def changeStore (change : Store → Store) : Run σ Unit :=
  modify fun machine => { machine with store := change machine.store }

/-- Add a table. -/
def newTable (table : Table) : Run σ Value :=
  modifyGet fun machine =>
    let (id, store) := machine.store.newTable table
    (.table id, { machine with store })

/-- Add a function. -/
def newClosure (closure : Closure) : Run σ Value :=
  modifyGet fun machine =>
    let (id, store) := machine.store.newClosure closure
    (.function (.closure id), { machine with store })

/-- Add a variable. -/
def newCell (value : Value) : Run σ Nat :=
  modifyGet fun machine =>
    let (id, store) := machine.store.newCell value
    (id, { machine with store })

/-- Show values to the host. -/
def report (values : List Value) : Run σ Unit :=
  modify fun machine => { machine with shown := machine.shown.push values }

/-- Call a function of the host: the reply, after the subsystems changed and reported. -/
def perform (native : Capability.Native σ) (arguments : List Value) : Run σ Capability.Reply :=
  modifyGet fun machine =>
    let (reply, state, events) := native arguments machine.native
    (reply, { machine with native := state, journal := machine.journal ++ events })

end Run

end ScriptedRobot.Script
