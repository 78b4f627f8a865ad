import ScriptedRobot.Proofs.Capability.Namespace
import ScriptedRobot.Script.Steps

/-! # Assignments of scripts

A script may assign what stands in the place of all modules, of one module or of one function. The
places stay tidy if no table with handlers and no table of the namespace is assigned to the first
two (`Place.tidy_assign`). -/

namespace ScriptedRobot.Capability

open Script (Value Run Store Table)

variable {σ : Type}

/-- Where scripts look for modules and functions. -/
inductive Place where
  | root
  | module (name : String)
  | symbol (owner name : String)

namespace Place

/-- The script that puts its argument into a place. -/
def assign : Place → Script.Chunk
  | .root => [.setGlobal rootName .rest]
  | .module name => [.setIndex Script.Steps.root (.text name) .rest]
  | .symbol owner name => [.setIndex (Script.Steps.root.field owner) (.text name) .rest]

/-- Whether a value may be put into a place: tables must not have handlers, nor stand elsewhere in
the namespace. What is put in the place of a function may be anything. -/
def Admits (store : Store) : Place → Value → Prop
  | .root, value => ∀ root, value = .table root → IsNamespace store root
  | .module name, value => FitsModule store name value
  | .symbol _ _, _ => True

variable {machine : Script.Machine σ}

theorem store_assign_root (value : Value) :
    ((Run.chunk Place.root.assign [value]).start machine).2.store =
      machine.store.modifyTable Store.globalsId fun table => table.set (.text rootName) value :=
  rfl

/-- Assigning a module changes the table of modules, or nothing if there is none. -/
theorem store_assign_module (tidy : Tidy machine.store) (name : String) (value : Value) :
    ((Run.chunk (Place.module name).assign [value]).start machine).2.store = machine.store ∨
      ∃ root, rootValue machine.store = .table root ∧
        ((Run.chunk (Place.module name).assign [value]).start machine).2.store =
          machine.store.modifyTable root fun table => table.set (.text name) value := by
  have objectIs : (Run.evaluated Script.Steps.root value).start machine =
      (.ok (rootValue machine.store), machine) := rfl
  have keyIs : (Run.evaluated (.text name) value).start machine = (.ok (.text name), machine) := rfl
  unfold assign
  rw [Run.start_chunk_setIndex objectIs keyIs]
  by_cases present : ∃ root, rootValue machine.store = .table root
  · obtain ⟨root, rooted⟩ := present
    have writes := (tidy.root root rooted).plain.writeHandler
    refine .inr ⟨root, rooted, ?_⟩
    rw [rooted]
    exact congrArg (fun ended => ended.2.store) (Run.start_writeIndex writes _ 1999 _ _ _)
  · refine .inl (congrArg Script.Machine.store ?_)
    exact Run.start_writeIndex_of_ne_table (fun root rooted => present ⟨root, rooted⟩) _ 1999 _ _ _

/-- Reading a module off a tidy table of modules gives what stands in its place, or raises. -/
theorem start_module (tidy : Tidy machine.store) (owner : String) (value : Value) :
    (∃ raised, (Run.evaluated (Script.Steps.root.field owner) value).start machine =
        (.error raised, machine)) ∨
      (Run.evaluated (Script.Steps.root.field owner) value).start machine =
        (.ok (moduleValue machine.store owner), machine) := by
  have opened : (Run.evaluated (Script.Steps.root.field owner) value).start machine =
      (Script.one (do return [← Script.readIndex (Script.callAt Script.callLimit)
        Script.handlerLimit ⟨rootValue machine.store, " (global 'bot')"⟩
        (.text owner)])).start machine := rfl
  rw [opened, Script.one, Run.start_map, Run.start_bind]
  unfold moduleValue
  cases rooted : rootValue machine.store with
  | table root =>
      have reads := (tidy.root root rooted).plain.readHandler
      rw [show Script.handlerLimit = 1999 + 1 from rfl, Run.start_readIndex reads]
      exact .inr rfl
  | text _ | bytes _ => exact .inr rfl
  | nil | boolean _ | integer _ | number _ | function _ | failure _ => exact .inl ⟨_, rfl⟩

/-- Assigning a function changes the table of its module, or nothing if there is none. -/
theorem store_assign_symbol (tidy : Tidy machine.store) (owner name : String) (value : Value) :
    ((Run.chunk (Place.symbol owner name).assign [value]).start machine).2.store = machine.store ∨
      ∃ id, moduleValue machine.store owner = .table id ∧
        ((Run.chunk (Place.symbol owner name).assign [value]).start machine).2.store =
          machine.store.modifyTable id fun table => table.set (.text name) value := by
  have keyIs : (Run.evaluated (.text name) value).start machine = (.ok (.text name), machine) := rfl
  unfold assign
  obtain ⟨raised, objectRaises⟩ | objectIs := start_module tidy owner value
  · rw [Run.start_chunk_setIndex_of_error objectRaises]
    exact .inl rfl
  rw [Run.start_chunk_setIndex objectIs keyIs]
  by_cases present : ∃ id, moduleValue machine.store owner = .table id
  · obtain ⟨id, placed⟩ := present
    have writes := (tidy.module placed).1.writeHandler
    refine .inr ⟨id, placed, ?_⟩
    rw [placed]
    exact congrArg (fun ended => ended.2.store) (Run.start_writeIndex writes _ 1999 _ _ _)
  · refine .inl (congrArg Script.Machine.store ?_)
    exact Run.start_writeIndex_of_ne_table (fun id placed => present ⟨id, placed⟩) _ 1999 _ _ _

/-- What is admitted into a place keeps the namespace tidy. -/
theorem tidy_assign (tidy : Tidy machine.store) {place : Place} {value : Value}
    (admitted : place.Admits machine.store value) :
    Tidy ((Run.chunk place.assign [value]).start machine).2.store := by
  cases place with
  | root =>
      rw [store_assign_root]
      exact (tidy_setRoot tidy.globals admitted).1
  | module name =>
      obtain same | ⟨root, rooted, written⟩ := store_assign_module tidy name value
      · rw [same]
        exact tidy
      · rw [written]
        exact tidy_setModule tidy rooted admitted
  | symbol owner name =>
      obtain same | ⟨id, placed, written⟩ := store_assign_symbol tidy owner name value
      · rw [same]
        exact tidy
      · rw [written]
        exact tidy_changeContents tidy (Table.keepsHandlers_set (.text name) value) placed

end Place

end ScriptedRobot.Capability
