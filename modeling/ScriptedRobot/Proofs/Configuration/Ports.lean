import ScriptedRobot.Proofs.Configuration.Lookups
import ScriptedRobot.Proofs.Number.Exact

/-! # Ports

The port of a device is the number that the configuration computes or lists for it, whatever scripts
run on the way: what raises, what is absent and what is no number names no port. A number is
truncated and capped. Its sign is looked at last, so that a negative number names no port only from
minus one on: the fractions between minus one and zero have become the port zero by then
(`port_of_found`). -/

namespace ScriptedRobot.Configuration.Global

open Number ( Denotation exactValue? int32Greatest narrowToInt32 towardZero
  towardZero_of_negative towardZero_of_nonnegative)
open Script (Run)

variable {σ : Type} {machine after : Script.Machine σ}

/-! ## What is found -/

/-- What the configuration has for a symbol. It is computed if the configuration has a function for
it, and otherwise it is looked up in a table; what raises finds nothing. -/
inductive Finds (symbol : String) (machine : Script.Machine σ) :
    Option Script.Value → Script.Machine σ → Prop where
  | unnamed (empty : symbol = "") : Finds symbol machine none machine
  | computed {callable : Script.Callable} {outcome : Except Script.Value (List Script.Value)}
      {middle after : Script.Machine σ} (named : symbol ≠ "")
      (isFunction : (function "port").start machine = (.ok (some callable), middle))
      (called : (Run.call callable [.text symbol]).start middle = (outcome, after)) :
      Finds symbol machine (outcome.toOption.map Script.Value.first) after
  | listed {table : Script.Value} {outcome : Except Script.Value Script.Value}
      {middle inner after : Script.Machine σ} (named : symbol ≠ "")
      (noFunction : (function "port").start machine = (.ok none, middle))
      (isTable : (category "ports").start middle = (.ok (some table), inner))
      (read : (Run.getIndex table (.text symbol)).start inner = (outcome, after)) :
      Finds symbol machine outcome.toOption after
  | unlisted {middle after : Script.Machine σ} (named : symbol ≠ "")
      (noFunction : (function "port").start machine = (.ok none, middle))
      (noTable : (category "ports").start middle = (.ok none, after)) :
      Finds symbol machine none after

theorem exists_finds (symbol : String) (machine : Script.Machine σ) :
    ∃ found after, Finds symbol machine found after := by
  by_cases empty : symbol = ""
  · exact ⟨none, machine, .unnamed empty⟩
  obtain ⟨callable, middle, isFunction⟩ := yields_function "port" machine
  cases callable with
  | some callable => exact ⟨_, _, .computed empty isFunction rfl⟩
  | none =>
      obtain ⟨table, inner, isTable⟩ := yields_category "ports" middle
      cases table with
      | none => exact ⟨none, inner, .unlisted empty isFunction isTable⟩
      | some table => exact ⟨_, _, .listed empty isFunction isTable rfl⟩

/-- The port is that of what is found, and reading it never raises. -/
theorem Finds.start_port {symbol : String} {found : Option Script.Value}
    (finds : Finds symbol machine found after) :
    (port symbol).start machine = (.ok ((found.map portOf).getD noPort), after) := by
  unfold port
  cases finds with
  | unnamed empty =>
      rw [empty, if_pos (by decide)]
      rfl
  | @computed callable outcome middle _ named isFunction called =>
      rw [if_neg (by simpa using named), Run.start_bind, isFunction]
      dsimp only
      rw [Run.start_bind, start_attempt, Run.start_map, called]
      cases outcome <;> rfl
  | listed named noFunction isTable read =>
      rw [if_neg (by simpa using named), Run.start_bind, noFunction]
      dsimp only
      rw [Run.start_bind, isTable]
      dsimp only
      rw [Run.start_bind, start_attempt, read]
      rfl
  | unlisted named noFunction noTable =>
      rw [if_neg (by simpa using named), Run.start_bind, noFunction]
      dsimp only
      rw [Run.start_bind, noTable]
      rfl

/-! ## What it amounts to -/

/-- What a number amounts to. -/
inductive Amount where
  | infinite (negative : Bool)
  | exact (value : ℚ)

/-- What a double amounts to, if it is a number. -/
def amountOf? : Denotation → Option Amount
  | .infinite negative => some (.infinite negative)
  | denotation => denotation.value?.map .exact

/-- What a script value amounts to, if it is a number. -/
def amount? : Script.Value → Option Amount
  | .integer value => some (.exact value.toInt)
  | .number value => amountOf? (Number.denote value)
  | _ => none

/-- The port that goes with what was found. -/
structure IsPortOf (found : Option Script.Value) (port : Int32) : Prop where
  noNumber : found.bind amount? = none → port = noPort
  infinite : ∀ negative, found.bind amount? = some (.infinite negative) →
    port.toInt = if negative then -1 else int32Greatest
  /-- Fractions are dropped, and large numbers are capped. -/
  nonnegative : ∀ value : ℚ, found.bind amount? = some (.exact value) → 0 ≤ value →
    port.toInt = min ⌊value⌋ int32Greatest
  negative : ∀ value : ℚ, found.bind amount? = some (.exact value) → value ≤ -1 → port = noPort
  /-- A small negative number loses its sign with its fraction. -/
  negativeFraction : ∀ value : ℚ, found.bind amount? = some (.exact value) → -1 < value →
    value < 0 → port = 0

/-- A narrowed number as a port: the negative ones are replaced. -/
def checked (narrowed : Int32) : Int32 :=
  if narrowed < 0 then noPort else narrowed

theorem portOf_number (value : Float) :
    portOf (.number value) = checked (narrowToInt32 value noPort) := rfl

theorem portOf_integer (value : Int64) :
    portOf (.integer value) = checked (Number.clampToInt32 (towardZero value.toInt)) := by
  have whole : towardZero value.toInt = value.toInt := by
    unfold towardZero
    rw [Int.ceil_intCast, Int.floor_intCast, ite_self]
  rw [whole, ← Number.narrowToInt32_ofInt64 value noPort]
  rfl

theorem exactValue?_of_amountOf? {value : Float} {exact : ℚ}
    (amounts : amountOf? (Number.denote value) = some (.exact exact)) :
    exactValue? value = some exact := by
  unfold exactValue?
  generalize Number.denote value = denotation at amounts ⊢
  cases denotation with
  | notANumber | infinite _ => cases amounts
  | finite _ _ _ =>
      cases amounts
      rfl

theorem narrowToInt32_of_amountOf? {value : Float} {negative : Bool}
    (amounts : amountOf? (Number.denote value) = some (.infinite negative)) (fallback : Int32) :
    narrowToInt32 value fallback =
      Number.clampToInt32 (if negative then Number.int32Least else int32Greatest) := by
  unfold narrowToInt32
  cases read : Number.denote value with
  | infinite sign =>
      rw [read] at amounts
      cases amounts
      rfl
  | notANumber | finite _ _ _ => rw [read] at amounts; cases amounts

theorem narrowToInt32_of_amountOf?_none {value : Float}
    (amounts : amountOf? (Number.denote value) = none) (fallback : Int32) :
    narrowToInt32 value fallback = fallback := by
  unfold narrowToInt32
  cases read : Number.denote value with
  | notANumber => rfl
  | infinite _ | finite _ _ _ => rw [read] at amounts; cases amounts

theorem portOf_of_exact {value : Script.Value} {exact : ℚ}
    (amounts : amount? value = some (.exact exact)) :
    portOf value = checked (Number.clampToInt32 (towardZero exact)) := by
  cases value with
  | integer value =>
      cases amounts
      exact portOf_integer value
  | number value =>
      rw [portOf_number, Number.narrowToInt32_of_exact (exactValue?_of_amountOf? amounts)]
  | nil | boolean _ | text _ | bytes _ | table _ | function _ | failure _ => cases amounts

theorem portOf_of_infinite {value : Script.Value} {negative : Bool}
    (amounts : amount? value = some (.infinite negative)) :
    portOf value = checked (Number.clampToInt32
      (if negative then Number.int32Least else int32Greatest)) := by
  cases value with
  | number value => rw [portOf_number, narrowToInt32_of_amountOf? amounts]
  | nil | boolean _ | integer _ | text _ | bytes _ | table _ | function _ | failure _ =>
      cases amounts

theorem portOf_of_amount?_none {value : Script.Value} (amounts : amount? value = none) :
    portOf value = noPort := by
  cases value with
  | number value =>
      rw [portOf_number, narrowToInt32_of_amountOf?_none amounts]
      rfl
  | integer _ => cases amounts
  | nil | boolean _ | text _ | bytes _ | table _ | function _ | failure _ => rfl

theorem checked_of_negative {value : ℤ} (negative : value < 0) :
    checked (Number.clampToInt32 value) = noPort := by
  have below : Number.clampToInt32 value < 0 := by
    rw [Int32.lt_iff_toInt_lt, Number.toInt_clampToInt32]
    unfold Number.int32Least int32Greatest
    change _ < (0 : ℤ)
    omega
  exact if_pos below

theorem toInt_checked {value : ℤ} (nonnegative : 0 ≤ value) :
    (checked (Number.clampToInt32 value)).toInt = min value int32Greatest := by
  have cut := Number.toInt_clampToInt32 value
  unfold Number.int32Least int32Greatest at *
  have notBelow : ¬ Number.clampToInt32 value < 0 := by
    rw [Int32.lt_iff_toInt_lt, cut]
    change ¬ _ < (0 : ℤ)
    omega
  unfold checked
  rw [if_neg notBelow, cut]
  omega

theorem isPortOf_found (found : Option Script.Value) :
    IsPortOf found ((found.map portOf).getD noPort) := by
  cases found with
  | none => exact ⟨fun _ => rfl, nofun, nofun, nofun, nofun⟩
  | some value =>
      refine ⟨portOf_of_amount?_none, ?_, ?_, ?_, ?_⟩
      · intro negative amounts
        have port := portOf_of_infinite amounts
        cases negative with
        | false => exact (congrArg Int32.toInt port).trans (toInt_checked (by decide))
        | true => exact congrArg Int32.toInt (port.trans (checked_of_negative (by decide)))
      · intro exact amounts nonnegative
        have port := portOf_of_exact amounts
        rw [towardZero_of_nonnegative nonnegative] at port
        exact (congrArg Int32.toInt port).trans (toInt_checked (Int.floor_nonneg.mpr nonnegative))
      · intro exact amounts atMost
        have port := portOf_of_exact amounts
        rw [towardZero_of_negative (by linarith)] at port
        have below : ⌈exact⌉ ≤ -1 := Int.ceil_le.mpr (by exact_mod_cast atMost)
        exact port.trans (checked_of_negative (by omega))
      · intro exact amounts above below
        have port := portOf_of_exact amounts
        have zero : ⌈exact⌉ = 0 :=
          Int.ceil_eq_iff.mpr ⟨by simpa using above, by simpa using below.le⟩
        rw [towardZero_of_negative below, zero] at port
        exact port

/-- The configuration has something or nothing for a symbol, and its port is the one that goes with
that: none without a number, and otherwise the number, truncated and capped. Of the negative numbers
only those from minus one on name no port. -/
theorem port_of_found (symbol : String) (machine : Script.Machine σ) :
    (∃ found after, Finds symbol machine found after) ∧
    ∀ found after, Finds symbol machine found after →
      ∃ port, (Global.port symbol).start machine = (.ok port, after) ∧ IsPortOf found port :=
  ⟨exists_finds symbol machine, fun found _ finds => ⟨_, finds.start_port, isPortOf_found found⟩⟩

namespace SmallNegative

/-! A configuration that lists minus a half. -/

def ports : Script.Table := { entries := [(.text "arm", .number (-0.5))] }

def configuration : Script.Table := { entries := [(.text "ports", .table 4)] }

def store : Script.Store :=
  { tables := #[Script.Store.initialGlobals.set (.text globalName) (.table 3),
      Script.Store.initialPackage, {}, configuration, ports] }

def configured : Script.Machine Unit := { store, native := () }

end SmallNegative

open SmallNegative in
theorem small_negative_number_names_port :
    (amount? (.number (-0.5)) = some (.exact (-1 / 2)) ∧ (-1 / 2 : ℚ) < 0) ∧
      ((Run.getIndex (.table 4) (.text "arm")).start configured).1 = .ok (.number (-0.5)) ∧
      ((Global.port "arm").start configured).1.toOption = some 0 := by
  refine ⟨⟨?_, by norm_num⟩, rfl, by decide +kernel⟩
  have read : Number.denote (-0.5) = .finite true 4503599627370496 (-53) := by decide +kernel
  unfold amount?
  dsimp only
  rw [read]
  change some (Amount.exact _) = _
  congr 2
  norm_num

end ScriptedRobot.Configuration.Global
