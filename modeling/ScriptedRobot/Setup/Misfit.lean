import ScriptedRobot.Number.Decimal
import ScriptedRobot.Setup.HostSetup
import ScriptedRobot.Setup.Setting
import ScriptedRobot.Text.Quoted

/-! # From settings to a setup

A table of settings is read into the records of the setup, field by field. Keys that no field has
are passed over, and fields without a setting keep their value. A list in the place of a table
gives the fields in their order. The first setting that does not fit is reported with its path. -/

namespace ScriptedRobot.Setup

/-- What a field expects. -/
inductive Expectation where
  | wholeNumber
  | milliseconds
  | text
  | path
  | scripts
  | control
  | programs
  deriving Repr, DecidableEq

/-- An expectation in words. -/
def Expectation.words : Expectation → String
  | .wholeNumber => "u64"
  | .milliseconds => "i32"
  | .text => "a string"
  | .path => "path string"
  | .scripts => "struct ScriptsConfig"
  | .control => "struct ControlConfig"
  | .programs => "struct ProgramsConfig"

/-- A setting in words. -/
def Setting.words : Setting → String
  | .text value => "string " ++ Text.quoted value
  | .boolean value => if value then "bool true" else "bool false"
  | .unsigned value => "unsigned int \x60" ++ toString value ++ "\x60"
  | .signed value => "signed int \x60" ++ toString value ++ "\x60"
  | .number value => "float \x60" ++ Number.shortest value ++ "\x60"
  | .list _ => "sequence"
  | .table _ => "map"

/-- A setting that does not fit its field: it is of another kind, or a number out of range. -/
structure Misfit where
  path : List String := []
  outOfRange : Bool := false
  found : Setting
  expected : Expectation

/-- The kind of a misfit as one word. -/
def Misfit.label (misfit : Misfit) : String :=
  if misfit.outOfRange then "InvalidValue" else "InvalidType"

/-- A misfit as a sentence. -/
def Misfit.message (misfit : Misfit) : String :=
  (if misfit.outOfRange then "invalid value " else "invalid type: found ") ++
    misfit.found.words ++ ", expected " ++ misfit.expected.words

/-- A misfit seen from one level further up. -/
def Misfit.below (misfit : Misfit) (key : String) : Misfit :=
  { misfit with path := key :: misfit.path }

/-- Reads a setting. -/
abbrev Fitting (α : Type) : Type := Setting → Except Misfit α

/-- A whole number between two bounds. -/
def fitWhole (expected : Expectation) (least greatest : Int) : Fitting Int := fun setting =>
  let value? : Option Int := match setting with
    | .unsigned value => some value
    | .signed value => some value
    | _ => none
  match value? with
  | some value =>
    if least ≤ value ∧ value ≤ greatest then .ok value
    else .error { outOfRange := true, found := setting, expected }
  | none => .error { found := setting, expected }

/-- A number of ticks. -/
def fitTicks : Fitting Nat := fun setting =>
  (fitWhole .wholeNumber 0 (Number.longWordCount - 1) setting).map Int.toNat

/-- A number of milliseconds. -/
def fitMilliseconds : Fitting Int32 := fun setting =>
  (fitWhole .milliseconds Number.int32Least Number.int32Greatest setting).map Int32.ofInt

/-- A text. -/
def fitText (expected : Expectation) : Fitting String
  | .text value => .ok value
  | setting => .error { found := setting, expected }

/-- A field of a record: its key, and how a setting is stored in it. -/
structure Field (ρ : Type) where
  key : String
  store : ρ → Fitting ρ

/-- Store named settings in the fields of a record. -/
def storeEntries {ρ : Type} (fields : List (Field ρ)) :
    ρ → Settings → Except Misfit ρ
  | record, [] => .ok record
  | record, (key, setting) :: rest =>
    match fields.find? (·.key == key) with
    | some field =>
      match field.store record setting with
      | .ok record => storeEntries fields record rest
      | .error misfit => .error (misfit.below key)
    | none => storeEntries fields record rest

/-- Store settings in the fields of a record in their order. -/
def storeInOrder {ρ : Type} : Nat → List (Field ρ) → ρ → List Setting → Except Misfit ρ
  | index, field :: fields, record, setting :: rest =>
    match field.store record setting with
    | .ok record => storeInOrder (index + 1) fields record rest
    | .error misfit => .error (misfit.below (toString index))
  | _, _, record, _ => .ok record

/-- A record, starting from its default value. -/
def fitRecord {ρ : Type} (expected : Expectation) (fields : List (Field ρ)) (record : ρ) :
    Fitting ρ
  | .table entries => storeEntries fields record entries
  | .list settings => storeInOrder 0 fields record settings
  | setting => .error { found := setting, expected }

/-- The fields of the script setup. -/
def scriptFields : List (Field ScriptSetup) := [
  ⟨"search_path", fun setup setting => do
    return { setup with searchPath := some (← fitText .path setting) }⟩,
  ⟨"deploy_dir", fun setup setting => do
    return { setup with deployDirectory := ← fitText .path setting }⟩,
  ⟨"operating_dir", fun setup setting => do
    return { setup with operatingDirectory := some (← fitText .path setting) }⟩,
  ⟨"launch_dir", fun setup setting => do
    return { setup with launchDirectory := some (← fitText .path setting) }⟩,
  ⟨"marker", fun setup setting => do return { setup with marker := ← fitText .text setting }⟩]

/-- The fields of the control setup. -/
def controlFields : List (Field ControlSetup) := [
  ⟨"period_ms", fun setup setting => do
    return { setup with period := some (← fitMilliseconds setting) }⟩,
  ⟨"ticks", fun setup setting => do return { setup with ticks := ← fitTicks setting }⟩]

/-- The fields of the program setup. -/
def programFields : List (Field ProgramSetup) := [
  ⟨"teleop", fun setup setting => do return { setup with teleop := ← fitText .text setting }⟩,
  ⟨"autonomous", fun setup setting => do
    return { setup with autonomous := ← fitText .text setting }⟩,
  ⟨"test", fun setup setting => do return { setup with selfTest := ← fitText .text setting }⟩]

/-- The sections of the setup. -/
def sections : List (Field HostSetup) := [
  ⟨"scripts", fun setup setting => do
    return { setup with scripts := ← fitRecord .scripts scriptFields {} setting }⟩,
  ⟨"control", fun setup setting => do
    return { setup with control := ← fitRecord .control controlFields {} setting }⟩,
  ⟨"programs", fun setup setting => do
    return { setup with programs := ← fitRecord .programs programFields {} setting }⟩]

/-- The setup that settings describe. -/
def HostSetup.ofSettings (settings : Settings) : Except Misfit HostSetup :=
  storeEntries sections {} settings

end ScriptedRobot.Setup
