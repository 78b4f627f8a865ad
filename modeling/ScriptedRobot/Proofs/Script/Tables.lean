import ScriptedRobot.Proofs.Script.Outcome
import ScriptedRobot.Proofs.Text.Lookup

/-! # Tables

What reading finds after a write: the value under the key that was written, and what was there
before under every other key and in every other table. Reading and writing the entries of a table
without handlers raises nothing and runs nothing, and gives no table a handler. -/

namespace ScriptedRobot

namespace Script

theorem Value.eq_nil_of_isNil {value : Value} (isNil : value.isNil = true) : value = .nil := by
  cases value with
  | nil => rfl
  | boolean _ | integer _ | number _ | text _ | bytes _ | table _ | function _ | failure _ =>
      cases isNil

namespace Table

theorem lookup_put (key other : Key) (value : Value) (entries : List (Key × Value)) :
    (put key value entries).lookup other =
      if other = key then some value else entries.lookup other := by
  induction entries with
  | nil => exact Text.lookup_cons_eq_ite (key, value) [] other
  | cons entry rest ih =>
      unfold put
      split
      case isTrue same =>
        subst same
        simp only [Text.lookup_cons_eq_ite]
        split <;> rfl
      case isFalse different =>
        simp only [Text.lookup_cons_eq_ite, ih]
        by_cases same : other = key
        · simp only [same, Ne.symm different, ↓reduceIte]
        · simp only [same, ↓reduceIte]

/-- A write sets the value under its key and leaves the other keys alone. -/
theorem get_set (table : Table) (key other : Key) (value : Value) :
    (table.set key value).get other = if other = key then value else table.get other := by
  unfold set get
  cases value with
  | nil =>
      change ((table.entries.filter fun entry => entry.1 ≠ key).lookup other).getD .nil = _
      rw [Text.lookup_filter_ne]
      split <;> rfl
  | boolean _ | integer _ | number _ | text _ | bytes _ | table _ | function _ | failure _ =>
      change ((put key _ table.entries).lookup other).getD .nil = _
      rw [lookup_put]
      split <;> rfl

theorem mem_keys_put (key other : Key) (value : Value) (entries : List (Key × Value)) :
    other ∈ (put key value entries).map Prod.fst ↔
      other = key ∨ other ∈ entries.map Prod.fst := by
  induction entries with
  | nil => simp only [put, List.map_cons, List.map_nil, List.mem_singleton, List.not_mem_nil,
      or_false]
  | cons entry rest ih =>
      unfold put
      split
      case isTrue same =>
        subst same
        simp only [List.map_cons, List.mem_cons, or_self_left]
      case isFalse different =>
        simp only [List.map_cons, List.mem_cons, ih]
        exact or_left_comm

/-- A write of a function adds its key. -/
theorem mem_keys_set_function (table : Table) (key other : Key) (callable : Callable) :
    other ∈ (table.set key (.function callable)).keys ↔ other = key ∨ other ∈ table.keys :=
  mem_keys_put key other (.function callable) table.entries

/-- A change of a table that leaves its handlers alone. -/
def KeepsHandlers (change : Table → Table) : Prop :=
  ∀ table, (change table).readHandler = table.readHandler ∧
    (change table).writeHandler = table.writeHandler

theorem keepsHandlers_set (key : Key) (value : Value) :
    KeepsHandlers fun table => table.set key value := by
  intro table
  dsimp only [set]
  split
  · exact ⟨rfl, rfl⟩
  · exact ⟨rfl, rfl⟩

/-- Functions under their names, added to a table one after the other. -/
def setFunctions {α : Type} (callable : α → Callable) (table : Table)
    (functions : List (String × α)) : Table :=
  functions.foldl (fun table entry => table.set (.text entry.1) (.function (callable entry.2))) table

section SetFunctions

variable {α : Type} (callable : α → Callable) (table : Table) (functions : List (String × α))

/-- Of two functions under one name the later counts. -/
theorem get_setFunctions (name : String) :
    (setFunctions callable table functions).get (.text name) =
      match functions.reverse.lookup name with
      | some value => .function (callable value)
      | none => table.get (.text name) := by
  induction functions generalizing table with
  | nil => rfl
  | cons entry rest ih =>
      refine (ih _).trans ?_
      rw [List.reverse_cons, List.lookup_append]
      cases rest.reverse.lookup name with
      | some value => rfl
      | none =>
          rw [get_set, Option.none_or, Text.lookup_cons_eq_ite]
          by_cases same : name = entry.1
          · simp only [same, ↓reduceIte]
          · simp only [same, Key.text.injEq, ↓reduceIte, List.lookup_nil]

theorem get_setFunctions_of_ne {key : Key} (other : ∀ entry ∈ functions, key ≠ .text entry.1) :
    (setFunctions callable table functions).get key = table.get key := by
  induction functions generalizing table with
  | nil => rfl
  | cons entry rest ih =>
      refine (ih _ fun later member => other later (List.mem_cons_of_mem _ member)).trans ?_
      rw [get_set, if_neg (other entry List.mem_cons_self)]

theorem mem_keys_setFunctions (key : Key) :
    key ∈ (setFunctions callable table functions).keys ↔
      key ∈ table.keys ∨ ∃ entry ∈ functions, key = .text entry.1 := by
  induction functions generalizing table with
  | nil => simp only [setFunctions, List.foldl_nil, List.not_mem_nil, false_and, exists_false,
      or_false]
  | cons entry rest ih =>
      refine (ih _).trans ?_
      rw [mem_keys_set_function]
      simp only [List.mem_cons, exists_eq_or_imp]
      exact or_assoc.trans or_left_comm

theorem keepsHandlers_setFunctions :
    KeepsHandlers fun table => setFunctions callable table functions := by
  intro table
  induction functions generalizing table with
  | nil => exact ⟨rfl, rfl⟩
  | cons entry rest ih =>
      obtain ⟨reads, writes⟩ :=
        keepsHandlers_set (.text entry.1) (.function (callable entry.2)) table
      obtain ⟨readsRest, writesRest⟩ :=
        ih (table.set (.text entry.1) (.function (callable entry.2)))
      exact ⟨readsRest.trans reads, writesRest.trans writes⟩

end SetFunctions

end Table

namespace Store

variable (store : Store)

@[simp] theorem size_modifyTable (id : Nat) (change : Table → Table) :
    (store.modifyTable id change).tables.size = store.tables.size :=
  Array.size_modify

@[simp] theorem size_newTable (table : Table) :
    (store.newTable table).2.tables.size = store.tables.size + 1 :=
  Array.size_push table

theorem table_modifyTable_self {id : Nat} (there : id < store.tables.size)
    (change : Table → Table) :
    (store.modifyTable id change).table id = change (store.table id) := by
  unfold modifyTable table
  simp only [Array.getD_eq_getD_getElem?, Array.getElem?_modify, ↓reduceIte,
    Array.getElem?_eq_getElem there, Option.map_some, Option.getD_some]

theorem table_modifyTable_of_ne {id other : Nat} (different : other ≠ id)
    (change : Table → Table) :
    (store.modifyTable id change).table other = store.table other := by
  unfold modifyTable table
  simp only [Array.getD_eq_getD_getElem?, Array.getElem?_modify, Ne.symm different, ↓reduceIte]

theorem table_newTable_self (table : Table) :
    (store.newTable table).2.table store.tables.size = table := by
  unfold newTable Store.table
  simp only [Array.getD_eq_getD_getElem?, Array.getElem?_push_size, Option.getD_some]

theorem table_newTable_of_ne {other : Nat} (old : other ≠ store.tables.size) (table : Table) :
    (store.newTable table).2.table other = store.table other := by
  unfold newTable Store.table
  simp only [Array.getD_eq_getD_getElem?, Array.getElem?_push, old, ↓reduceIte]

/-- A change of one table changes that one at most. -/
theorem table_modifyTable (id other : Nat) (change : Table → Table) :
    (store.modifyTable id change).table other = store.table other ∨
      (store.modifyTable id change).table other = change (store.table other) := by
  unfold modifyTable table
  simp only [Array.getD_eq_getD_getElem?, Array.getElem?_modify]
  split
  · cases store.tables[other]? with
    | none => exact .inl rfl
    | some table => exact .inr rfl
  · exact .inl rfl

theorem handlers_modifyTable {change : Table → Table} (keeps : Table.KeepsHandlers change)
    (id other : Nat) :
    ((store.modifyTable id change).table other).readHandler = (store.table other).readHandler ∧
      ((store.modifyTable id change).table other).writeHandler =
        (store.table other).writeHandler := by
  rcases store.table_modifyTable id other change with same | changed
  · rw [same]
    exact ⟨rfl, rfl⟩
  · rw [changed]
    exact keeps (store.table other)

theorem modifyTable_id (id : Nat) : (store.modifyTable id fun table => table) = store := by
  have same : store.tables.modify id (fun table => table) = store.tables := by
    refine Array.ext_getElem? fun position => ?_
    rw [Array.getElem?_modify]
    split
    · exact Option.map_id_apply
    · rfl
  rw [modifyTable, same]

/-- Two changes of one table are one change. -/
theorem modifyTable_modifyTable (id : Nat) (first second : Table → Table) :
    (store.modifyTable id first).modifyTable id second =
      store.modifyTable id fun table => second (first table) := by
  unfold modifyTable
  congr 1
  refine Array.ext_getElem? fun position => ?_
  simp only [Array.getElem?_modify]
  split
  · exact Option.map_map second first _
  · rfl

/-- A new table looks like one that is not there. -/
theorem table_newTable (other : Nat) : (store.newTable {}).2.table other = store.table other := by
  unfold newTable table
  simp only [Array.getD_eq_getD_getElem?, Array.getElem?_push]
  split
  next last =>
    rw [last, Array.getElem?_eq_none (Nat.le_refl _)]
    rfl
  next => rfl

theorem table_fresh : (store.newTable {}).2.table (store.newTable {}).1 = {} := by
  rw [table_newTable]
  unfold newTable table
  simp

end Store

namespace Run

variable {σ : Type} {machine : Machine σ} {id : Nat}

theorem start_readIndex (unguarded : (machine.store.table id).readHandler = .nil)
    (call : Call σ) (limit : Nat) (description name : String) :
    (readIndex call (limit + 1) ⟨.table id, description⟩ (.text name)).start machine =
      (.ok ((machine.store.table id).get (.text name)), machine) := by
  unfold readIndex
  dsimp only
  rw [start_bind, start_readStore]
  dsimp only [Key.ofValue?, Option.map_some, Option.getD_some]
  rw [unguarded]
  cases (machine.store.table id).get (.text name) <;> rfl

theorem start_writeIndex (unguarded : (machine.store.table id).writeHandler = .nil)
    (call : Call σ) (limit : Nat) (description name : String) (value : Value) :
    (writeIndex call (limit + 1) ⟨.table id, description⟩ (.text name) value).start machine =
      (.ok (), { machine with
        store := machine.store.modifyTable id fun table => table.set (.text name) value }) := by
  unfold writeIndex
  dsimp only
  rw [start_bind, start_readStore]
  dsimp only [Key.ofValue?, Option.map_some, Option.getD_some]
  rw [unguarded]
  cases (machine.store.table id).get (.text name) <;> rfl

/-- Only tables are written to. -/
theorem start_writeIndex_of_ne_table {object : Value} (absent : ∀ id, object ≠ .table id)
    (call : Call σ) (limit : Nat) (description : String) (key value : Value) :
    ((writeIndex call (limit + 1) ⟨object, description⟩ key value).start machine).2 = machine := by
  cases object with
  | table id => exact absurd rfl (absent id)
  | nil | boolean _ | integer _ | number _ | text _ | bytes _ | function _ | failure _ => rfl

theorem start_getIndex (unguarded : (machine.store.table id).readHandler = .nil) (name : String) :
    (getIndex (.table id) (.text name)).start machine =
      (.ok ((machine.store.table id).get (.text name)), machine) :=
  start_readIndex unguarded (callAt callLimit) 1999 "" name

theorem start_setIndex (unguarded : (machine.store.table id).writeHandler = .nil) (name : String)
    (value : Value) : (setIndex (.table id) (.text name) value).start machine =
      (.ok (), { machine with
        store := machine.store.modifyTable id fun table => table.set (.text name) value }) :=
  start_writeIndex unguarded (callAt callLimit) 1999 "" name value

/-- An entry that is present is read without asking a handler. -/
theorem start_readIndex_of_present {name : String} {value : Value}
    (entry : (machine.store.table id).get (.text name) = value) (present : value ≠ .nil)
    (call : Call σ) (limit : Nat) (description : String) :
    (readIndex call (limit + 1) ⟨.table id, description⟩ (.text name)).start machine =
      (.ok value, machine) := by
  unfold readIndex
  dsimp only
  rw [start_bind, start_readStore]
  dsimp only [Key.ofValue?, Option.map_some, Option.getD_some]
  rw [entry]
  cases value with
  | nil => exact absurd rfl present
  | boolean _ | integer _ | number _ | text _ | bytes _ | table _ | function _ | failure _ => rfl

theorem start_getIndex_of_present {name : String} {value : Value}
    (entry : (machine.store.table id).get (.text name) = value) (present : value ≠ .nil) :
    (getIndex (.table id) (.text name)).start machine = (.ok value, machine) :=
  start_readIndex_of_present entry present (callAt callLimit) 1999 ""

theorem start_getIndex_of_taken {name : String}
    (taken : (machine.store.table id).get (.text name) = .nil →
      (machine.store.table id).readHandler = .nil) :
    (getIndex (.table id) (.text name)).start machine =
      (.ok ((machine.store.table id).get (.text name)), machine) := by
  by_cases absent : (machine.store.table id).get (.text name) = .nil
  · exact start_getIndex (taken absent) name
  · exact start_getIndex_of_present rfl absent

/-- An entry that is present is written without asking a handler. -/
theorem start_setIndex_of_taken {name : String}
    (taken : (machine.store.table id).get (.text name) = .nil →
      (machine.store.table id).writeHandler = .nil) (value : Value) :
    (setIndex (.table id) (.text name) value).start machine = (.ok (), { machine with
      store := machine.store.modifyTable id fun table => table.set (.text name) value }) := by
  cases found : (machine.store.table id).get (.text name) with
  | nil => exact start_setIndex (taken found) name value
  | _ =>
      unfold setIndex handlerLimit writeIndex
      dsimp only
      rw [start_bind, start_readStore]
      dsimp only [Key.ofValue?, Option.map_some, Option.getD_some]
      rw [found]
      rfl

section Assignment

variable {object key : Expr} {value : Value}

/-- The value of an expression in a script with one argument. -/
abbrev evaluated (expression : Expr) (argument : Value) : Run σ Value :=
  one (evalExpr (callAt callLimit) { rest := [argument] } expression)

/-- A script that assigns its argument to an entry ends with the write. -/
theorem start_chunk_setIndex {objectValue keyValue : Value}
    (objectIs : (evaluated object value).start machine = (.ok objectValue, machine))
    (keyIs : (evaluated key value).start machine = (.ok keyValue, machine)) :
    ((chunk [.setIndex object key .rest] [value]).start machine).2 =
      ((writeIndex (callAt callLimit) handlerLimit
        ⟨objectValue, object.description { rest := [value] }⟩ keyValue value).start machine).2 := by
  have valueIs : (evaluated .rest value).start machine = (.ok value, machine) := rfl
  unfold chunk evalBlock evalStmt
  rw [start_bind, start_bind, start_bind, objectIs]
  dsimp only
  rw [start_bind, keyIs]
  dsimp only
  rw [start_bind, valueIs]
  dsimp only
  rw [start_bind]
  rcases (writeIndex (callAt callLimit) handlerLimit
    ⟨objectValue, object.description { rest := [value] }⟩ keyValue value).start machine with
    ⟨_ | _, after⟩
  · rfl
  · rfl

theorem start_chunk_setIndex_of_error {raised : Value}
    (objectRaises : (evaluated object value).start machine = (.error raised, machine)) :
    ((chunk [.setIndex object key .rest] [value]).start machine).2 = machine := by
  unfold chunk evalBlock evalStmt
  rw [start_bind, start_bind, start_bind, objectRaises]

end Assignment

end Run

end Script

end ScriptedRobot
