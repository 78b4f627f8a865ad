import ScriptedRobot.Proofs.Configuration.Counting
import ScriptedRobot.Proofs.Configuration.Ports

/-! # Integers of the configuration

The host reads an integer of the configuration by way of a floating-point number, which rounds the
large ones. It narrows the number to 32 bits, and so nothing of that is seen: a setting, a port and
a number of ports are the integer itself, cut to the range that counts for them
(`integers_are_clamped`). -/

namespace ScriptedRobot.Configuration

open Number (clampToInt32 int32Greatest int32Least)
open Script (Run)

variable {σ : Type}

namespace Global

variable {machine : Script.Machine σ}

/-! ## What is stored -/

/-- A value in the table of a category. -/
inductive Stored (category symbol : String) (value : Script.Value) (machine : Script.Machine σ) :
    Prop where
  | intro {outer inner : Nat} (configured : globalValue machine = .table outer)
      (listed : (machine.store.table outer).get (.text category) = .table inner)
      (entry : (machine.store.table inner).get (.text symbol) = value)

/-- What is stored under two names is found under them. -/
theorem Stored.seeks {category symbol : String} {value : Script.Value}
    (stored : Stored category symbol value machine) (named : category ≠ "" ∧ symbol ≠ "")
    (present : value ≠ .nil) : Seeks category symbol machine (some value) machine := by
  obtain ⟨configured, listed, entry⟩ := stored
  exact .found named configured (Run.start_getIndex_of_present listed nofun)
    (Run.start_getIndex_of_present entry present)

/-- A port that is stored is found where no port is computed. -/
theorem Stored.finds {symbol : String} {value : Script.Value}
    (stored : Stored "ports" symbol value machine) (named : symbol ≠ "") (present : value ≠ .nil)
    (noFunction : (function "port").start machine = (.ok none, machine)) :
    Finds symbol machine (some value) machine := by
  obtain ⟨configured, listed, entry⟩ := stored
  exact .listed named noFunction
    (start_category_of_table configured (Run.start_getIndex_of_present listed nofun))
    (Run.start_getIndex_of_present entry present)

/-! ## What is read -/

/-- An integer that is found is read as itself, cut to 32 bits. -/
theorem Seeks.start_integer {category symbol : String} {value : Int64}
    {after : Script.Machine σ}
    (seeks : Seeks category symbol machine (some (.integer value)) after) (fallback : Int32) :
    (Lookup.integer lookup category symbol fallback).start machine =
      (.ok (clampToInt32 value.toInt), after) := by
  unfold Lookup.integer
  rw [Run.start_bind, seeks.start_lookup, ← Number.narrowToInt32_ofInt64 value fallback]
  rfl

/-- Where nothing is found an integer is read as the fallback. -/
theorem Seeks.start_integer_of_nothing {category symbol : String} {after : Script.Machine σ}
    (seeks : Seeks category symbol machine none after) (fallback : Int32) :
    (Lookup.integer lookup category symbol fallback).start machine = (.ok fallback, after) := by
  unfold Lookup.integer
  rw [Run.start_bind, seeks.start_lookup]
  rfl

theorem toInt_portOf_integer (value : Int64) :
    (portOf (.integer value)).toInt =
      if value.toInt < 0 then -1 else min value.toInt int32Greatest := by
  have port : portOf (.integer value) = checked (clampToInt32 value.toInt) := by
    rw [← Number.narrowToInt32_ofInt64 value noPort]
    rfl
  rw [port]
  split
  case isTrue negative =>
    rw [checked_of_negative negative]
    rfl
  case isFalse nonnegative => exact toInt_checked (by omega)

theorem toInt_countOf_integer (value : Int64) :
    (countOf (.integer value)).toInt = max 0 (min value.toInt int32Greatest) := by
  have cut := Number.toInt_clampToInt32 value.toInt
  unfold int32Least int32Greatest at *
  unfold countOf
  dsimp only
  rw [Number.toInt_max, Number.narrowToInt32_ofInt64, cut]
  change max (0 : ℤ) _ = _
  omega

/-- An integer that is found is never altered but for being cut to the range of what it is read as:
to 32 bits as a setting, to the ports as a port, and to the numbers that are not negative as a
number of ports. What is stored under names is found under them, and nothing is looked up under an
empty name. -/
theorem integers_are_clamped (value : Int64) :
    (∀ (category symbol : String) (machine after : Script.Machine σ),
      Seeks category symbol machine (some (.integer value)) after → ∀ fallback,
        ∃ read, (Lookup.integer lookup category symbol fallback).start machine = (.ok read, after) ∧
          read.toInt = max int32Least (min int32Greatest value.toInt)) ∧
    (∀ (symbol : String) (machine after : Script.Machine σ),
      Finds symbol machine (some (.integer value)) after →
        ∃ read, (port symbol).start machine = (.ok read, after) ∧
          read.toInt = if value.toInt < 0 then -1 else min value.toInt int32Greatest) ∧
    (∀ machine after : Script.Machine σ, Counts machine (.computed (some (.integer value))) after →
      ∃ read, portCount.start machine = (.ok read, after) ∧
        read.toInt = max 0 (min value.toInt int32Greatest)) ∧
    (∀ (category symbol : String) (machine : Script.Machine σ),
      Stored category symbol (.integer value) machine → category ≠ "" ∧ symbol ≠ "" →
        Seeks category symbol machine (some (.integer value)) machine ∧
        (category = "ports" → (function "port").start machine = (.ok none, machine) →
          Finds symbol machine (some (.integer value)) machine)) ∧
    (∀ (category symbol : String) (machine : Script.Machine σ), category = "" ∨ symbol = "" →
      ∀ fallback,
        (Lookup.integer lookup category symbol fallback).start machine = (.ok fallback, machine)) ∧
    ∀ machine : Script.Machine σ, (port "").start machine = (.ok noPort, machine) := by
  refine ⟨?_, ?_, ?_, ?_, ?_, ?_⟩
  · intro category symbol machine after seeks fallback
    exact ⟨_, seeks.start_integer fallback, Number.toInt_clampToInt32 value.toInt⟩
  · intro symbol machine after finds
    exact ⟨_, finds.start_port, toInt_portOf_integer value⟩
  · intro machine after counts
    exact ⟨_, counts.start_portCount, toInt_countOf_integer value⟩
  · intro category symbol machine stored named
    refine ⟨stored.seeks named nofun, ?_⟩
    rintro rfl noFunction
    exact stored.finds named.2 nofun noFunction
  · intro category symbol machine empty fallback
    exact Seeks.start_integer_of_nothing (.unnamed empty) fallback
  · intro machine
    exact (Finds.unnamed rfl).start_port

namespace LargeInteger

/-! A configuration with an integer that no double stands for: as a setting, as a port, and as the
number of ports. -/

def large : Int64 := 9007199254740993

def entries : Script.Table := { entries := [(.text "arm", .integer large)] }

def configuration : Script.Table where
  entries := [(.text "ports", .table 4), (.text "num_ports", .function (.closure 0))]

def store : Script.Store where
  tables := #[Script.Store.initialGlobals.set (.text globalName) (.table 3),
    Script.Store.initialPackage, {}, configuration, entries]
  closures := #[⟨[], [.returned [.literal (.integer large)]], []⟩]

def configured : Script.Machine Unit := { store, native := () }

end LargeInteger

open LargeInteger in
theorem large_integer_is_clamped :
    (∃ read, (Lookup.integer lookup "ports" "arm" 0).start configured = (.ok read, configured) ∧
      read.toInt = int32Greatest) ∧
    (∃ read, (port "arm").start configured = (.ok read, configured) ∧
      read.toInt = int32Greatest) ∧
    (∃ read, portCount.start configured = (.ok read, configured) ∧ read.toInt = int32Greatest) ∧
    (Lookup.integer lookup "" "arm" 7).start configured = (.ok 7, configured) := by
  obtain ⟨settings, ports, counts, stored, unnamed, _⟩ := @integers_are_clamped Unit large
  obtain ⟨seeks, finds⟩ := stored "ports" "arm" configured
    (@Stored.intro _ _ _ _ _ 3 4 rfl rfl rfl) (by simp)
  exact ⟨settings _ _ _ _ seeks 0, ports _ _ _ (finds rfl rfl),
    counts _ _ (@Counts.computed _ _ (.closure 0) (.ok [.integer large]) _ _ rfl rfl),
    unnamed "" "arm" configured (.inl rfl) 7⟩

namespace NoName

/-! A configuration that stores integers under empty names. -/

def configuration : Script.Table where
  entries := [(.text "", .table 4), (.text "x", .table 5), (.text "ports", .table 5)]

def store : Script.Store where
  tables := #[Script.Store.initialGlobals.set (.text globalName) (.table 3),
    Script.Store.initialPackage, {}, configuration, { entries := [(.text "x", .integer 5)] },
    { entries := [(.text "", .integer 5)] }]

def configured : Script.Machine Unit := { store, native := () }

end NoName

open NoName in
theorem integer_without_name_is_not_read :
    (Stored "" "x" (.integer 5) configured ∧ Stored "x" "" (.integer 5) configured ∧
      Stored "ports" "" (.integer 5) configured) ∧
    ((Lookup.integer lookup "" "x" 0).start configured).1.toOption = some 0 ∧
    ((Lookup.integer lookup "x" "" 0).start configured).1.toOption = some 0 ∧
    ((port "").start configured).1.toOption = some (-1) :=
  ⟨⟨@Stored.intro _ _ _ _ _ 3 4 rfl rfl rfl, @Stored.intro _ _ _ _ _ 3 5 rfl rfl rfl,
    @Stored.intro _ _ _ _ _ 3 5 rfl rfl rfl⟩, rfl, rfl, rfl⟩

end Global

end ScriptedRobot.Configuration
