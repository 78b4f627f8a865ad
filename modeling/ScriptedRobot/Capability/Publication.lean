import ScriptedRobot.Script.Evaluation

/-! # Publication

Modules of capabilities appear to scripts as tables of functions under one global table. A new
publication of a module replaces its table and switches the functions of the previous one off. A
retraction switches functions off too, and leaves stand-ins in the table, so that a symbol never
disappears. Scripts may have overwritten the tables: whatever is no table is made anew, and tables
with handlers may raise errors in the middle. -/

namespace ScriptedRobot.Capability

open Script (Value Callable Run)

/-- The global name of the table of modules. -/
def rootName : String := "bot"

namespace Registry

variable {σ : Type}

/-- Switch off every function of a module and forget the module. -/
def retire (registry : Registry σ) (module : String) : Registry σ :=
  ((registry.symbolsOf module).foldl (fun registry symbol => registry.switchOff symbol.2)
    registry).withdraw module

/-- Hand out the functions of a module, in order. -/
def handOutAll (module : String) :
    List (Capability σ) → Registry σ → List (String × Nat) × Registry σ
  | [], registry => ([], registry)
  | capability :: rest, registry =>
    let (grant, registry) := registry.handOut module capability
    let (grants, registry) := handOutAll module rest registry
    ((capability.symbol, grant) :: grants, registry)

end Registry

/-- Grants by symbol, in alphabetical order. Of two grants of one symbol the later counts. -/
def sortGrants (grants : List (String × Nat)) : List (String × Nat) :=
  grants.foldl (fun sorted (symbol, grant) => Text.insertSorted symbol grant sorted) []

/-- The table that a module appears as. -/
def moduleEntries (grants : List (String × Nat)) : Script.Table :=
  grants.foldl (fun table (symbol, grant) =>
    table.set (.text symbol) (.function (.capability grant))) {}

section Steps

variable {σ : Type}

/-- Note an event of the registry. -/
def note (severity : Severity) (message : String) : Run σ Unit :=
  modify fun machine =>
    { machine with journal := machine.journal.push ⟨severity, .bindings, message⟩ }

/-- Change the registry. -/
def changeRegistry (change : Registry σ → Registry σ) : Run σ Unit :=
  modify fun machine => { machine with registry := change machine.registry }

/-- The table of modules, made anew if the global is no table. The table of global names is asked
as any other table is, handlers included. -/
def rootTable : Run σ Value := do
  let globals := Value.table Script.Store.globalsId
  match ← Run.getIndex globals (.text rootName) with
  | .table id => return .table id
  | _ =>
    let table ← Run.newTable {}
    Run.setIndex globals (.text rootName) table
    return table

/-- The table of a module, made anew if there is none. -/
def moduleTable (module : String) : Run σ Value := do
  let root ← rootTable
  match ← Run.getIndex root (.text module) with
  | .table id => return .table id
  | _ =>
    let table ← Run.newTable {}
    Run.setIndex root (.text module) table
    return table

/-- Publish a module. The module counts as published only once its table is in place. -/
def publish (module : String) (capabilities : List (Capability σ)) : Run σ Unit := do
  changeRegistry fun registry => registry.retire module
  let grants ← modifyGet fun machine =>
    let (grants, registry) := machine.registry.handOutAll module capabilities
    (grants, { machine with registry })
  let table ← Run.newTable (moduleEntries grants)
  let root ← rootTable
  Run.setIndex root (.text module) table
  let symbols := sortGrants grants
  note .info ("published bot." ++ module ++ " (" ++ toString symbols.length ++ " symbols)")
  changeRegistry fun registry => registry.record module symbols

/-- Switch off one function and leave a stand-in for it. -/
def retractGrant (table : Value) (symbol : String) (grant : Nat) : Run σ Unit := do
  changeRegistry fun registry => registry.switchOff grant
  match (← get).registry.grants[grant]? with
  | some entry =>
    Run.setIndex table (.text symbol) (.function (.standIn entry.capability.neutral))
  | none => return ()

/-- Retract symbols one after the other: how many of them were published. -/
def retractEach (table : Value) (published : List (String × Nat)) : List String → Run σ Nat
  | [] => return 0
  | symbol :: rest =>
    match published.lookup symbol with
    | none => retractEach table published rest
    | some grant => do
      retractGrant table symbol grant
      return (← retractEach table published rest) + 1

/-- Retract symbols of a module. Unknown modules and symbols are passed over. -/
def retract (module : String) (symbols : List String) : Run σ Unit := do
  let registry := (← get).registry
  if registry.isPublished module then
    let table ← moduleTable module
    let count ← retractEach table (registry.symbolsOf module) symbols
    note .info ("retracted " ++ toString count ++ " symbols from bot." ++ module)
  else
    note .debug ("retract: bot." ++ module ++ " was never published")

/-- Retract every symbol of a module. -/
def retractAll (module : String) : Run σ Unit := do
  retract module ((← get).registry.symbols module)

end Steps

end ScriptedRobot.Capability
