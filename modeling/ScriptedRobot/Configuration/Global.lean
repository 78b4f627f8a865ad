import ScriptedRobot.Configuration.Reading
import ScriptedRobot.Script.Evaluation

/-! # The robot configuration of a script machine

Scripts set the robot configuration up as a global table of tables, and the host reads it. Reads
honour handlers for absent keys, so that they may run scripts; an error that such a script raises
counts as an absent value. Counting and listing look at the entries of a table alone. -/

namespace ScriptedRobot.Configuration.Global

open Script (Run Callable)

variable {σ : Type}

/-- The global name of the configuration. -/
def globalName : String := "config"

/-- Take what a step yields, if it raises nothing. -/
def attempt {α : Type} (step : Run σ α) : Run σ (Option α) :=
  tryCatch (some <$> step) fun _ => return none

/-- The table a value is, if it is one. -/
def asTable? : Script.Value → Option Script.Value
  | .table id => some (.table id)
  | _ => none

/-- The configuration table, if there is one. -/
def configTable : Run σ (Option Script.Value) := do
  return asTable? (← Run.getGlobal globalName)

/-- Whether there is a configuration. -/
def isLoaded : Run σ Bool :=
  Option.isSome <$> configTable

/-- An entry of the configuration table. -/
def entry (key : String) : Run σ (Option Script.Value) := do
  match ← configTable with
  | some table => attempt (Run.getIndex table (.text key))
  | none => return none

/-- The table of a category. -/
def category (key : String) : Run σ (Option Script.Value) := do
  return (← entry key).bind asTable?

/-- A function of the configuration. -/
def function (key : String) : Run σ (Option Callable) := do
  return match ← entry key with
    | some (.function callable) => some callable
    | _ => none

/-- A script value as a configuration value. -/
def ofScript? : Script.Value → Option Value
  | .number value => some (.number value)
  | .integer value => some (.number (Number.ofInt64 value))
  | .boolean value => some (.boolean value)
  | .text value => some (.text value)
  | .table _ => some .table
  | _ => none

/-- Look a value up. Nothing is found under an empty name. -/
def lookup : Lookup (Run σ) := fun categoryName symbol => do
  if categoryName.isEmpty || symbol.isEmpty then return none
  match ← category categoryName with
  | some table => return (← attempt (Run.getIndex table (.text symbol))).bind ofScript?
  | none => return none

/-- What stands for no port. -/
def noPort : Int32 := -1

/-- A script value as the number of a port. -/
def portOf (value : Script.Value) : Int32 :=
  let number? : Option Float := match value with
    | .integer whole => some (Number.ofInt64 whole)
    | .number fraction => some fraction
    | _ => none
  match number? with
  | some number =>
    let port := Number.narrowToInt32 number noPort
    if port < 0 then noPort else port
  | none => noPort

/-- The port of a device: the configuration may compute it, or list it in a table. -/
def port (symbol : String) : Run σ Int32 := do
  if symbol.isEmpty then return noPort
  let value ← match ← function "port" with
    | some callable => attempt (Script.Value.first <$> Run.call callable [.text symbol])
    | none =>
      match ← category "ports" with
      | some table => attempt (Run.getIndex table (.text symbol))
      | none => pure none
  return (value.map portOf).getD noPort

/-- The number of ports: the configuration may compute it, or it is that of the listed ones. -/
def portCount : Run σ Int32 := do
  match ← function "num_ports" with
  | some callable =>
    let value ← attempt (Script.Value.first <$> Run.call callable [])
    return match value with
      | some (.integer whole) => max 0 (Number.narrowToInt32 (Number.ofInt64 whole) 0)
      | some (.number fraction) => max 0 (Number.narrowToInt32 fraction 0)
      | _ => 0
  | none =>
    match ← category "ports" with
    | some table => return Int32.ofNat (← Script.entriesOf table).length
    | none => return 0

/-- A key as a name: texts, and numbers as they are written. -/
def nameOf? : Script.Key → Option String
  | .text value => some value
  | .integer value => some (Script.Value.integer value).display
  | .fraction bits => some (Script.Value.number (Float.ofBits bits)).display
  | _ => none

/-- The names before the first key that is none. -/
def leadingNames : List (Script.Key × Script.Value) → List String
  | [] => []
  | (key, _) :: rest =>
    match nameOf? key with
    | some name => name :: leadingNames rest
    | none => []

/-- The names of the trajectories, in alphabetical order. -/
def trajectoryNames : Run σ (List String) := do
  match ← category "trajectories" with
  | some table =>
    return (leadingNames (← Script.entriesOf table)).mergeSort fun left right =>
      decide (left ≤ right)
  | none => return []

end ScriptedRobot.Configuration.Global
