import ScriptedRobot.Configuration.Global
import ScriptedRobot.Proofs.Configuration.Readings
import ScriptedRobot.Proofs.Script.Tables

/-! # Plain configurations

A configuration whose tables have no handlers is plain. Reading it runs no script: the values are
those in the tables, and the machine is left as it is. -/

namespace ScriptedRobot.Configuration

open Script (Run Store)

variable {σ α β : Type} {store : Store}

/-- No table that is looked at for a configured value has a handler for absent keys. -/
def IsPlain (store : Store) : Prop :=
  ∀ table, (store.table Store.globalsId).get (.text Global.globalName) = .table table →
    (store.table table).readHandler = .nil ∧
      ∀ (category : String) (inner : Nat),
        (store.table table).get (.text category) = .table inner →
          (store.table inner).readHandler = .nil

/-- Where no table has a handler, no configuration has one. -/
theorem isPlain_of_unguarded
    (unguarded : store.tables.all fun table => table.readHandler.isNil) : IsPlain store := by
  have every (id : Nat) : (store.table id).readHandler = .nil := by
    rw [Store.table, Array.getD_eq_getD_getElem?]
    cases found : store.tables[id]? with
    | none => rfl
    | some table =>
        have isNil := Array.all_eq_true_iff_forall_mem.mp unguarded table
          (Array.mem_of_getElem? found)
        exact Script.Value.eq_nil_of_isNil isNil
  exact fun table _ => ⟨every table, fun _ inner _ => every inner⟩

/-- On objects like these a step yields a value, and that is all it does. -/
def Reads (store : Store) (step : Run σ α) (value : α) : Prop :=
  ∀ machine, machine.store = store → step.start machine = (.ok value, machine)

theorem reads_pure (value : α) : Reads store (pure value : Run σ α) value :=
  fun _ _ => rfl

theorem Reads.bind {step : Run σ α} {next : α → Run σ β} {value : α} {result : β}
    (first : Reads store step value) (second : Reads store (next value) result) :
    Reads store (step >>= next) result := by
  intro machine same
  exact Run.start_bind_ok.mpr ⟨value, machine, first machine same, second machine same⟩

theorem Reads.attempt {step : Run σ α} {value : α} (reads : Reads store step value) :
    Reads store (Global.attempt step) (some value) := by
  intro machine same
  unfold Global.attempt
  rw [Run.start_tryCatch, Run.start_map, reads machine same]
  rfl

theorem reads_getIndex {table : Nat} (unguarded : (store.table table).readHandler = .nil)
    (name : String) : Reads store (Run.getIndex (.table table) (.text name) : Run σ Script.Value)
      ((store.table table).get (.text name)) := by
  rintro machine rfl
  exact Run.start_getIndex unguarded name

namespace IsPlain

variable (plain : IsPlain store)
include plain

theorem reads_category (category : String) :
    ∃ table, Reads store (Global.category category : Run σ (Option Script.Value)) table ∧
      ∀ value, table = some value → ∃ inner, value = .table inner ∧
        (store.table inner).readHandler = .nil := by
  have configuration : Reads store (Global.configTable : Run σ (Option Script.Value))
      (Global.asTable? ((store.table Store.globalsId).get (.text Global.globalName))) := by
    rintro machine rfl
    rfl
  cases found : (store.table Store.globalsId).get (.text Global.globalName) with
  | table table =>
      rw [found] at configuration
      obtain ⟨unguarded, inside⟩ := plain table found
      have entry : Reads store (Global.entry category : Run σ (Option Script.Value))
          (some ((store.table table).get (.text category))) :=
        configuration.bind (reads_getIndex unguarded category).attempt
      refine ⟨_, entry.bind (reads_pure _), fun value isTable => ?_⟩
      rw [Option.bind_some] at isTable
      cases inner : (store.table table).get (.text category) with
      | table id =>
          rw [inner] at isTable
          exact ⟨id, (Option.some.inj isTable).symm, inside category id inner⟩
      | nil | boolean _ | integer _ | number _ | text _ | bytes _ | function _ | failure _ =>
          rw [inner] at isTable
          cases isTable
  | nil | boolean _ | integer _ | number _ | text _ | bytes _ | function _ | failure _ =>
      rw [found] at configuration
      have entry : Reads store (Global.entry category : Run σ (Option Script.Value)) none :=
        configuration.bind (reads_pure none)
      exact ⟨none, entry.bind (reads_pure _), nofun⟩

theorem reads_lookup (category symbol : String) :
    ∃ value, Reads store (Global.lookup category symbol : Run σ (Option Value)) value := by
  obtain ⟨table, reads, inside⟩ := @reads_category σ store plain category
  unfold Global.lookup
  split
  · exact ⟨none, reads_pure none⟩
  · cases table with
    | none => exact ⟨none, reads.bind (reads_pure none)⟩
    | some value =>
        obtain ⟨inner, rfl, unguarded⟩ := inside value rfl
        exact ⟨_, reads.bind ((reads_getIndex unguarded symbol).attempt.bind (reads_pure _))⟩

theorem reads_shooterSettings :
    ∃ settings, Reads store
      (Lookup.shooterSettings (Global.lookup : Lookup (Run σ))) settings := by
  have taken : ∃ found, Reads store (Readings.take (Global.lookup : Lookup (Run σ))) found :=
    Readings.take_related (fun step (_ : Run σ _) => ∃ value, Reads store step value)
      (fun value => ⟨value, reads_pure value⟩)
      (fun ⟨value, first⟩ second => (second value).imp fun _ => first.bind)
      Global.lookup Global.lookup plain.reads_lookup
  obtain ⟨found, reads⟩ := taken
  rw [Readings.shooterSettings_eq, map_eq_pure_bind]
  exact ⟨found.settings, reads.bind (reads_pure _)⟩

end IsPlain

end ScriptedRobot.Configuration
