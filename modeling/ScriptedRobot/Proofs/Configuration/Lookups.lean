import ScriptedRobot.Configuration.Global
import ScriptedRobot.Proofs.Script.Tables

/-! # Lookups

A symbol of a category is looked up in three stages: the global table, the table of the category,
and the symbol. At each stage a script may be run, raise, or answer something else than a table.
`Seeks` lists the ways it can go; in each of them looking up raises nothing
(`Seeks.start_lookup`). -/

namespace ScriptedRobot.Configuration.Global

open Script (Run Store)
open Script.Run (Yields yields_pure yields_readStore)

variable {σ : Type} {machine middle after : Script.Machine σ} {outer inner : Nat}

/-! ## Stages -/

/-- What the global name of the configuration stands for. -/
def globalValue (machine : Script.Machine σ) : Script.Value :=
  (machine.store.table Store.globalsId).get (.text globalName)

theorem asTable?_of_ne {value : Script.Value} (noTable : ∀ id, value ≠ .table id) :
    asTable? value = none := by
  cases value with
  | table id => exact (noTable id rfl).elim
  | nil | boolean _ | integer _ | number _ | text _ | bytes _ | function _ | failure _ => rfl

theorem table_or_ne (value : Script.Value) :
    (∃ id, value = .table id) ∨ ∀ id, value ≠ .table id := by
  cases value with
  | table id => exact .inl ⟨id, rfl⟩
  | nil | boolean _ | integer _ | number _ | text _ | bytes _ | function _ | failure _ =>
      exact .inr nofun

theorem start_configTable (machine : Script.Machine σ) :
    (configTable : Run σ (Option Script.Value)).start machine =
      (.ok (asTable? (globalValue machine)), machine) := rfl

/-- Nothing that is attempted raises. -/
theorem start_attempt {α : Type} (step : Run σ α) (machine : Script.Machine σ) :
    (attempt step).start machine =
      (.ok (step.start machine).1.toOption, (step.start machine).2) := by
  unfold attempt
  rw [Run.start_tryCatch, Run.start_map]
  rcases step.start machine with ⟨_ | _, after⟩ <;> rfl

theorem start_entry_of_noTable (noTable : ∀ id, globalValue machine ≠ .table id) (key : String) :
    (entry key).start machine = (.ok none, machine) := by
  unfold entry
  rw [Run.start_bind, start_configTable, asTable?_of_ne noTable]
  rfl

theorem start_entry_of_table (isTable : globalValue machine = .table outer) (key : String) :
    (entry key).start machine =
      (.ok ((Run.getIndex (.table outer) (.text key)).start machine).1.toOption,
        ((Run.getIndex (.table outer) (.text key)).start machine).2) := by
  unfold entry
  rw [Run.start_bind, start_configTable, isTable]
  exact start_attempt _ _

theorem start_category (key : String) (machine : Script.Machine σ) :
    (category key).start machine =
      (((entry key).start machine).1.map (·.bind asTable?), ((entry key).start machine).2) := by
  unfold category
  rw [Run.start_bind]
  rcases (entry key).start machine with ⟨_ | _, _⟩ <;> rfl

theorem yields_attempt {α : Type} (step : Run σ α) : Yields (attempt step) :=
  fun machine => ⟨_, _, start_attempt step machine⟩

theorem yields_configTable : Yields (configTable : Run σ (Option Script.Value)) :=
  fun machine => ⟨_, machine, start_configTable machine⟩

theorem yields_entry (key : String) : Yields (entry key : Run σ (Option Script.Value)) := by
  refine yields_configTable.bind fun table => ?_
  cases table with
  | none => exact yields_pure none
  | some table => exact yields_attempt _

theorem yields_category (key : String) : Yields (category key : Run σ (Option Script.Value)) :=
  (yields_entry key).bind fun _ => yields_pure _

theorem yields_function (key : String) :
    Yields (function key : Run σ (Option Script.Callable)) :=
  (yields_entry key).bind fun _ => yields_pure _

/-- A table is found under a category or nothing. -/
theorem eq_table_of_category {key : String} {found : Option Script.Value}
    (ran : (category key).start machine = (.ok found, after)) :
    found = none ∨ ∃ id, found = some (.table id) := by
  rw [start_category] at ran
  obtain ⟨value, _, entered⟩ := yields_entry key machine
  rw [entered] at ran
  cases ran
  cases value with
  | none => exact .inl rfl
  | some value =>
      obtain ⟨id, rfl⟩ | noTable := table_or_ne value
      · exact .inr ⟨id, rfl⟩
      · exact .inl (asTable?_of_ne noTable)

/-! ## Ways of a lookup -/

/-- What a symbol of a category is found to be, if anything, and the machine after that. -/
inductive Seeks (category symbol : String) (machine : Script.Machine σ) :
    Option Script.Value → Script.Machine σ → Prop where
  | unnamed (empty : category = "" ∨ symbol = "") : Seeks category symbol machine none machine
  | noConfiguration (named : category ≠ "" ∧ symbol ≠ "")
      (noTable : ∀ id, globalValue machine ≠ .table id) : Seeks category symbol machine none machine
  | categoryRaises {outer : Nat} {raised : Script.Value} {after : Script.Machine σ}
      (named : category ≠ "" ∧ symbol ≠ "") (configured : globalValue machine = .table outer)
      (raises : (Run.getIndex (.table outer) (.text category)).start machine =
        (.error raised, after)) :
      Seeks category symbol machine none after
  | noCategory {outer : Nat} {value : Script.Value} {after : Script.Machine σ}
      (named : category ≠ "" ∧ symbol ≠ "") (configured : globalValue machine = .table outer)
      (found : (Run.getIndex (.table outer) (.text category)).start machine = (.ok value, after))
      (noTable : ∀ id, value ≠ .table id) : Seeks category symbol machine none after
  | symbolRaises {outer inner : Nat} {raised : Script.Value} {middle after : Script.Machine σ}
      (named : category ≠ "" ∧ symbol ≠ "") (configured : globalValue machine = .table outer)
      (found : (Run.getIndex (.table outer) (.text category)).start machine =
        (.ok (.table inner), middle))
      (raises : (Run.getIndex (.table inner) (.text symbol)).start middle =
        (.error raised, after)) :
      Seeks category symbol machine none after
  | found {outer inner : Nat} {value : Script.Value} {middle after : Script.Machine σ}
      (named : category ≠ "" ∧ symbol ≠ "") (configured : globalValue machine = .table outer)
      (found : (Run.getIndex (.table outer) (.text category)).start machine =
        (.ok (.table inner), middle))
      (read : (Run.getIndex (.table inner) (.text symbol)).start middle = (.ok value, after)) :
      Seeks category symbol machine (some value) after

theorem exists_seeks (category symbol : String) (machine : Script.Machine σ) :
    ∃ found after, Seeks category symbol machine found after := by
  by_cases empty : category = "" ∨ symbol = ""
  · exact ⟨none, machine, .unnamed empty⟩
  have named : category ≠ "" ∧ symbol ≠ "" := not_or.mp empty
  obtain ⟨outer, configured⟩ | noTable := table_or_ne (globalValue machine)
  · cases found : (Run.getIndex (.table outer) (.text category)).start machine with
    | mk outcome middle =>
        cases outcome with
        | error raised => exact ⟨none, middle, .categoryRaises named configured found⟩
        | ok value =>
            obtain ⟨inner, rfl⟩ | noTable := table_or_ne value
            · cases read : (Run.getIndex (.table inner) (.text symbol)).start middle with
              | mk outcome after =>
                  cases outcome with
                  | error raised => exact ⟨none, after, .symbolRaises named configured found read⟩
                  | ok value => exact ⟨some value, after, .found named configured found read⟩
            · exact ⟨none, middle, .noCategory named configured found noTable⟩
  · exact ⟨none, machine, .noConfiguration named noTable⟩

/-- With both names a lookup goes on in the table that is found under the category. -/
theorem start_lookup_of_category {category symbol : String} {found : Option Script.Value}
    (named : category ≠ "" ∧ symbol ≠ "")
    (ran : (Global.category category).start machine = (.ok found, middle)) :
    (lookup category symbol).start machine = found.elim (.ok none, middle) fun table =>
      (.ok (((Run.getIndex table (.text symbol)).start middle).1.toOption.bind ofScript?),
        ((Run.getIndex table (.text symbol)).start middle).2) := by
  unfold lookup
  rw [if_neg (by simpa using named), Run.start_bind, ran]
  cases found with
  | none => rfl
  | some table =>
      dsimp only
      rw [Run.start_bind, start_attempt]
      rfl

theorem start_category_of_entry {key : String} {found : Option Script.Value}
    (entered : (entry key).start machine = (.ok found, after)) :
    (category key).start machine = (.ok (found.bind asTable?), after) := by
  rw [start_category, entered]
  rfl

theorem start_category_of_table {key : String} {value : Script.Value}
    (configured : globalValue machine = .table outer)
    (found : (Run.getIndex (.table outer) (.text key)).start machine = (.ok value, after)) :
    (category key).start machine = (.ok (asTable? value), after) := by
  rw [start_category_of_entry (start_entry_of_table configured key), found]
  rfl

section Unguarded

variable {key : String} (configured : globalValue machine = .table outer)
  (unguarded : (machine.store.table outer).readHandler = .nil)
include configured unguarded

theorem start_function_of_function {callable : Script.Callable}
    (isFunction : (machine.store.table outer).get (.text key) = .function callable) :
    (function key).start machine = (.ok (some callable), machine) := by
  unfold function
  rw [Run.start_bind, start_entry_of_table configured, Run.start_getIndex unguarded, isFunction]
  rfl

theorem start_function_of_absent (absent : (machine.store.table outer).get (.text key) = .nil) :
    (function key).start machine = (.ok none, machine) := by
  unfold function
  rw [Run.start_bind, start_entry_of_table configured, Run.start_getIndex unguarded, absent]
  rfl

theorem start_category_of_unguarded (key : String) :
    (category key).start machine =
      (.ok (asTable? ((machine.store.table outer).get (.text key))), machine) :=
  start_category_of_table configured (Run.start_getIndex unguarded key)

end Unguarded

/-- Looking up yields the value that is found as a setting, and never raises. -/
theorem Seeks.start_lookup {category symbol : String} {found : Option Script.Value}
    (seeks : Seeks category symbol machine found after) :
    (lookup category symbol).start machine = (.ok (found.bind ofScript?), after) := by
  cases seeks with
  | unnamed empty =>
      unfold lookup
      rw [if_pos (by simpa using empty)]
      rfl
  | noConfiguration named noTable =>
      rw [start_lookup_of_category named
        (start_category_of_entry (start_entry_of_noTable noTable category))]
      rfl
  | categoryRaises named configured raises =>
      have nothing := start_category_of_entry (start_entry_of_table configured category)
      rw [raises] at nothing
      rw [start_lookup_of_category named nothing]
      rfl
  | noCategory named configured found noTable =>
      have nothing := start_category_of_table configured found
      rw [asTable?_of_ne noTable] at nothing
      rw [start_lookup_of_category named nothing]
      rfl
  | symbolRaises named configured found raises =>
      rw [start_lookup_of_category named (start_category_of_table configured found)]
      dsimp only [asTable?, Option.elim]
      rw [raises]
      rfl
  | found named configured found read =>
      rw [start_lookup_of_category named (start_category_of_table configured found)]
      dsimp only [asTable?, Option.elim]
      rw [read]
      rfl

theorem yields_lookup (category symbol : String) :
    Yields (lookup category symbol : Run σ (Option Value)) := by
  intro machine
  obtain ⟨_, after, seeks⟩ := exists_seeks category symbol machine
  exact ⟨_, after, seeks.start_lookup⟩

end ScriptedRobot.Configuration.Global
