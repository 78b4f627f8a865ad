import ScriptedRobot.Deployed.Configuration
import ScriptedRobot.Proofs.Configuration.Lookups
import ScriptedRobot.Proofs.Script.Execution

/-! # The deployed configuration module

Running the configuration module yields a table with its settings and its two functions, which refer
to the table itself. On any machine that still has the function for types, it becomes a deployed
configuration when it is assigned to its global name, whatever is stored as its ports
(`isDeployed_deploy`). -/

namespace ScriptedRobot.Deployed

open Configuration.Global (globalName globalValue)
open Script
open Script.Run

variable {σ : Type} {module cell : Nat} {machine middle after : Machine σ}

/-! ## Data -/

/-- The machine with more tables. -/
def addTables (added : Array Table) (machine : Machine σ) : Machine σ :=
  { machine with store := { machine.store with tables := machine.store.tables ++ added } }

theorem addTables_empty (machine : Machine σ) : addTables #[] machine = machine := by
  simp [addTables]

theorem addTables_addTables (first second : Array Table) (machine : Machine σ) :
    addTables second (addTables first machine) = addTables (first ++ second) machine := by
  simp [addTables, Array.append_assoc]

theorem table_addTables {id : Nat} (old : id < machine.store.tables.size) (added : Array Table) :
    (addTables added machine).store.table id = machine.store.table id := by
  simp [addTables, Store.table, Array.getD_eq_getD_getElem?, Array.getElem?_append_left old]

/-- The expression has one value, and to evaluate it adds tables at most. -/
def IsData (expression : Expr) : Prop :=
  ∀ {σ : Type} (call : Call σ) (scope : Scope) (machine : Machine σ), ∃ value added,
    (evalExpr call scope expression).start machine = (.ok [value], addTables added machine)

theorem isData_literal (literal : Literal) : IsData (.literal literal) := by
  intro σ call scope machine
  refine ⟨literal.value, #[], ?_⟩
  rw [addTables_empty, evalExpr]
  rfl

/-- Names and values by turns. -/
def alternating (fields : List (String × Value)) : List Value :=
  fields.flatMap fun field => [.text field.1, field.2]

theorem exists_start_tableOf (table : Table) (fields : List (String × Value))
    (machine : Machine σ) :
    ∃ filled, (tableOf table (alternating fields)).start machine = (.ok filled, machine) := by
  induction fields generalizing table with
  | nil => exact ⟨table, rfl⟩
  | cons field rest ih => exact ih (table.set (.text field.1) field.2)

theorem exists_start_evalSingles {fields : List (String × Expr)}
    (data : ∀ field ∈ fields, IsData field.2) (call : Call σ) (scope : Scope)
    (machine : Machine σ) :
    ∃ values added, (evalSingles call scope
        (fields.flatMap fun field => [.text field.1, field.2])).start machine =
      (.ok (alternating values), addTables added machine) := by
  induction fields generalizing machine with
  | nil => exact ⟨[], #[], by rw [addTables_empty, List.flatMap_nil, evalSingles]; rfl⟩
  | cons field rest ih =>
      obtain ⟨value, first, evaluated⟩ := data field List.mem_cons_self call scope machine
      obtain ⟨values, second, others⟩ :=
        ih (fun field member => data field (List.mem_cons_of_mem _ member))
          (addTables first machine)
      refine ⟨(field.1, value) :: values, first ++ second, ?_⟩
      rw [List.flatMap_cons, List.cons_append, List.cons_append, List.nil_append, evalSingles,
        start_bind, start_one (start_text field.1)]
      dsimp only
      rw [evalSingles, start_bind, start_bind, start_one evaluated]
      dsimp only
      rw [start_bind, others, addTables_addTables]
      rfl

theorem isData_record {fields : List (String × Expr)} (data : ∀ field ∈ fields, IsData field.2) :
    IsData (record fields) := by
  intro σ call scope machine
  obtain ⟨values, added, evaluated⟩ := exists_start_evalSingles data call scope machine
  obtain ⟨filled, built⟩ := exists_start_tableOf {} values (addTables added machine)
  refine ⟨.table (addTables added machine).store.tables.size, added ++ #[filled], ?_⟩
  rw [record, evalExpr, start_bind, evaluated]
  dsimp only
  rw [start_bind, built, ← addTables_addTables]
  rfl

/-! ## The module -/

/-- The machine with an entry set in a table. -/
def setEntry (id : Nat) (name : String) (value : Value) (machine : Machine σ) : Machine σ :=
  { machine with
    store := machine.store.modifyTable id fun table => table.set (.text name) value }

theorem size_setEntry (id : Nat) (name : String) (value : Value) (machine : Machine σ) :
    (setEntry id name value machine).store.tables.size = machine.store.tables.size :=
  Store.size_modifyTable _ _ _

theorem get_setEntry {id : Nat} (there : id < machine.store.tables.size) (name : String)
    (value : Value) (key : Key) : ((setEntry id name value machine).store.table id).get key =
      if key = .text name then value else (machine.store.table id).get key := by
  rw [setEntry, Store.table_modifyTable_self _ there, Table.get_set]

theorem table_setEntry_of_ne {id other : Nat} (different : other ≠ id) (name : String)
    (value : Value) :
    (setEntry id name value machine).store.table other = machine.store.table other :=
  Store.table_modifyTable_of_ne _ different _

theorem handlers_setEntry (id other : Nat) (name : String) (value : Value)
    (machine : Machine σ) :
    ((setEntry id name value machine).store.table other).readHandler =
        (machine.store.table other).readHandler ∧
      ((setEntry id name value machine).store.table other).writeHandler =
        (machine.store.table other).writeHandler :=
  Store.handlers_modifyTable _ (Table.keepsHandlers_set (.text name) value) id other

/-- All tables but the module stay as they are. -/
def KeepsTables (module : Nat) (before after : Machine σ) : Prop :=
  ∀ id ≠ module, id < before.store.tables.size →
    id < after.store.tables.size ∧ after.store.table id = before.store.table id

theorem KeepsTables.trans (first : KeepsTables module machine middle)
    (second : KeepsTables module middle after) : KeepsTables module machine after := by
  intro id other there
  obtain ⟨thereMiddle, same⟩ := first id other there
  obtain ⟨thereAfter, sameAfter⟩ := second id other thereMiddle
  exact ⟨thereAfter, sameAfter.trans same⟩

theorem keepsTables_addTables (module : Nat) (added : Array Table) (machine : Machine σ) :
    KeepsTables module machine (addTables added machine) := by
  intro id _ there
  refine ⟨?_, table_addTables there added⟩
  simp only [addTables, Array.size_append]
  omega

theorem keepsTables_setEntry (module : Nat) (name : String) (value : Value) (machine : Machine σ) :
    KeepsTables module machine (setEntry module name value machine) := by
  intro id other there
  refine ⟨?_, table_setEntry_of_ne other name value⟩
  rw [size_setEntry]
  exact there

/-- The table has the defined function under a name, which refers to the table itself. -/
inductive HasFunction (module : Nat) (name : String) (defined : Expr) (machine : Machine σ) :
    Prop where
  | intro {id cell : Nat} {closure : Closure}
      (entry : (machine.store.table module).get (.text name) = .function (.closure id))
      (there : machine.store.closures[id]? = some closure)
      (isFunction : defined = .function closure.parameters closure.body)
      (captures : closure.captured.lookup descriptorName = some cell)
      (refers : machine.store.cells[cell]? = some (.table module))

theorem HasFunction.setEntry {name other : String} {defined : Expr}
    (has : HasFunction module name defined machine) (there : module < machine.store.tables.size)
    (different : name ≠ other) (value : Value) :
    HasFunction module name defined (setEntry module other value machine) := by
  obtain ⟨entry, closure, isFunction, captures, refers⟩ := has
  refine .intro ?_ closure isFunction captures refers
  rw [get_setEntry there, if_neg (by simpa using different), entry]

/-- A module to be: its table is new and has no handlers, and its variable holds it. -/
structure IsModule (module cell : Nat) (machine : Machine σ) : Prop where
  there : module < machine.store.tables.size
  other : module ≠ Store.globalsId
  reads : (machine.store.table module).readHandler = .nil
  writes : (machine.store.table module).writeHandler = .nil
  refers : machine.store.cells[cell]? = some (.table module)
  type : (machine.store.table Store.globalsId).get (.text "type") = .function (.builtin .type)

namespace IsModule

theorem globals_there (isModule : IsModule module cell machine) :
    Store.globalsId < machine.store.tables.size :=
  Nat.zero_lt_of_lt isModule.there

theorem addTables (isModule : IsModule module cell machine) (added : Array Table) :
    IsModule module cell (addTables added machine) where
  there := by
    have there := isModule.there
    simp only [Deployed.addTables, Array.size_append]
    omega
  other := isModule.other
  reads := by rw [table_addTables isModule.there, isModule.reads]
  writes := by rw [table_addTables isModule.there, isModule.writes]
  refers := isModule.refers
  type := by
    rw [table_addTables isModule.globals_there, isModule.type]

theorem setEntry (isModule : IsModule module cell machine) (name : String) (value : Value) :
    IsModule module cell (setEntry module name value machine) where
  there := by
    rw [size_setEntry]
    exact isModule.there
  other := isModule.other
  reads := (handlers_setEntry module module name value machine).1.trans isModule.reads
  writes := (handlers_setEntry module module name value machine).2.trans isModule.writes
  refers := isModule.refers
  type := by
    rw [table_setEntry_of_ne (Ne.symm isModule.other), isModule.type]

/-- A module is kept by what leaves the tables and the variables alone. -/
theorem newClosure (isModule : IsModule module cell machine) (closure : Closure) :
    IsModule module cell { machine with store := (machine.store.newClosure closure).2 } :=
  ⟨isModule.there, isModule.other, isModule.reads, isModule.writes, isModule.refers, isModule.type⟩

variable (call : Call σ) {scope : Scope}

theorem start_define (isModule : IsModule module cell machine)
    (isAfter : IsModule module cell after) (named : scope.cell? descriptorName = some cell)
    {name : String} {expression : Expr} {value : Value} (rest : List Stmt)
    (evaluated : (evalExpr call scope expression).start machine = (.ok [value], after)) :
    (evalBlock call scope (define name expression :: rest)).start machine =
      (evalBlock call scope rest).start (Deployed.setEntry module name value after) := by
  have object : (evalExpr call scope descriptor).start machine = (.ok [.table module], machine) :=
    start_variable named isModule.refers
  rw [define, start_block rest, start_setEntry object evaluated isAfter.writes]
  · rfl
  · nofun

/-- Definitions of data are gone through one after the other. -/
theorem exists_start_data (isModule : IsModule module cell machine)
    (named : scope.cell? descriptorName = some cell) {body : List Stmt}
    (data : ∀ statement ∈ body, ∃ name expression, statement = define name expression ∧
      IsData expression) :
    ∃ after, IsModule module cell after ∧ KeepsTables module machine after ∧
      ∀ rest, (evalBlock call scope (body ++ rest)).start machine =
        (evalBlock call scope rest).start after := by
  induction body generalizing machine with
  | nil => exact ⟨machine, isModule, fun _ _ _ => ⟨‹_›, rfl⟩, fun _ => rfl⟩
  | cons statement body ih =>
      obtain ⟨name, expression, rfl, isData⟩ := data _ List.mem_cons_self
      obtain ⟨value, added, evaluated⟩ := isData call scope machine
      obtain ⟨after, isAfter, kept, others⟩ := ih ((isModule.addTables added).setEntry name value)
        fun statement member => data statement (List.mem_cons_of_mem _ member)
      have first := (keepsTables_addTables module added machine).trans
        (keepsTables_setEntry module name value _)
      refine ⟨after, isAfter, first.trans kept, fun rest => ?_⟩
      rw [List.cons_append, isModule.start_define call (isModule.addTables added) named _ evaluated,
        others]

/-- The definition of a function. -/
theorem exists_start_function (isModule : IsModule module cell machine)
    (named : scope.cell? descriptorName = some cell)
    (captures : scope.visible.lookup descriptorName = some cell) (name : String)
    (defined : Expr) {parameters : List String} {body : List Stmt}
    (isFunction : defined = .function parameters body) :
    ∃ after, IsModule module cell after ∧ KeepsTables module machine after ∧
      HasFunction module name defined after ∧
      (∀ other before, other ≠ name → HasFunction module other before machine →
        HasFunction module other before after) ∧
      ∀ rest, (evalBlock call scope (define name defined :: rest)).start machine =
        (evalBlock call scope rest).start after := by
  subst isFunction
  let closure : Closure := ⟨parameters, body, scope.visible⟩
  have isAfter := isModule.newClosure closure
  refine ⟨_, isAfter.setEntry name (.function (.closure machine.store.closures.size)),
    keepsTables_setEntry module name _ _, ?_, ?_,
    fun rest => isModule.start_define call isAfter named rest (start_function parameters body)⟩
  · refine .intro ?_ Array.getElem?_push_size rfl captures isModule.refers
    rw [get_setEntry isAfter.there, if_pos rfl]
  · intro other before different has
    obtain ⟨entry, there, isFunction, captures, refers⟩ := has
    have kept : HasFunction module other before
        { machine with store := (machine.store.newClosure closure).2 } :=
      .intro entry (getElem?_push_of_some there closure) isFunction captures refers
    exact kept.setEntry isAfter.there different _

end IsModule

/-! ## Loading -/

/-- The definitions that come before those of the functions. -/
def settings : List Stmt :=
  (configuration.drop 1).take 6

theorem configuration_eq : configuration = .declare [descriptorName] [.table []] ::
    (settings ++ define "port" portFunction :: define "num_ports" portCountFunction ::
      [.returned [descriptor]]) := rfl

theorem data_settings : ∀ statement ∈ settings, ∃ name expression,
    statement = define name expression ∧ IsData expression := by
  have text (content : String) : IsData (.text content) := isData_literal _
  have integer (content : Int64) : IsData (.integer content) := isData_literal _
  have number (content : Float) : IsData (.number content) := isData_literal _
  intro statement member
  simp only [settings, configuration, describing, List.cons_append, List.drop_succ_cons,
    List.drop_zero, List.take_succ_cons, List.take_zero, List.mem_cons, List.not_mem_nil,
    or_false] at member
  rcases member with rfl | rfl | rfl | rfl | rfl | rfl
  all_goals exact ⟨_, _, rfl, isData_record (by simp [text, integer, number, isData_record])⟩

/-- The machine with a fresh table in a fresh variable. -/
def opened (machine : Machine σ) : Machine σ :=
  { machine with store :=
    ((machine.store.newTable {}).2.newCell (.table machine.store.tables.size)).2 }

theorem isModule_opened (type : (machine.store.table Store.globalsId).get (.text "type") =
      .function (.builtin .type)) :
    IsModule machine.store.tables.size machine.store.cells.size (opened machine) := by
  have nonempty : machine.store.tables.size ≠ 0 := by
    intro empty
    have absent : machine.store.table Store.globalsId = {} := by
      simp [Store.table, Store.globalsId, Array.getD_eq_getD_getElem?, empty]
    rw [absent] at type
    cases type
  have fresh : (opened machine).store.table machine.store.tables.size = {} :=
    Store.table_newTable_self _ _
  refine ⟨?_, nonempty, by rw [fresh], by rw [fresh], Array.getElem?_push_size, ?_⟩
  · exact Nat.lt_of_lt_of_eq (Nat.lt_succ_self _) (Store.size_newTable machine.store {}).symm
  · exact (congrArg (Table.get · _) (Store.table_newTable _ _)).trans type

theorem keepsTables_opened (machine : Machine σ) :
    KeepsTables machine.store.tables.size machine (opened machine) := by
  intro id _ old
  exact ⟨Nat.lt_of_lt_of_eq (Nat.lt_succ_of_lt old) (Store.size_newTable machine.store {}).symm,
    Store.table_newTable machine.store id⟩

/-- The module is opened by the declaration of its table. -/
theorem start_opening (call : Call σ) (rest : List Stmt) (machine : Machine σ) :
    (evalBlock call {} (.declare [descriptorName] [.table []] :: rest)).start machine =
      (evalBlock call { own := [(descriptorName, machine.store.cells.size)] } rest).start
        (opened machine) := by
  have isFresh : (evalArguments call {} [.table []]).start machine =
      (.ok [.table machine.store.tables.size],
        { machine with store := (machine.store.newTable {}).2 }) :=
    start_evalArguments_singleton (by rw [evalExpr]; rfl)
  have isDeclared : (declareAll [descriptorName] [.table machine.store.tables.size]).start
      { machine with store := (machine.store.newTable {}).2 } =
        (.ok [(descriptorName, machine.store.cells.size)], opened machine) := rfl
  rw [start_declare rest isFresh isDeclared]
  rfl

/-- Running the configuration module yields its table with the two functions. -/
theorem exists_start_configuration (machine : Machine σ)
    (type : (machine.store.table Store.globalsId).get (.text "type") =
      .function (.builtin .type)) :
    ∃ after, (Run.chunk configuration []).start machine =
        (.ok [.table machine.store.tables.size], after) ∧
      IsModule machine.store.tables.size machine.store.cells.size after ∧
      (∀ id < machine.store.tables.size, after.store.table id = machine.store.table id) ∧
      HasFunction machine.store.tables.size "port" portFunction after ∧
      HasFunction machine.store.tables.size "num_ports" portCountFunction after := by
  let scope : Scope := { own := [(descriptorName, machine.store.cells.size)] }
  have named : scope.cell? descriptorName = some machine.store.cells.size := rfl
  obtain ⟨filled, isFilled, keptData, ranData⟩ :=
    (isModule_opened type).exists_start_data (callAt callLimit) named data_settings
  obtain ⟨first, isFirst, keptPort, port, -, ranPort⟩ :=
    isFilled.exists_start_function (callAt callLimit) named rfl "port" portFunction rfl
  obtain ⟨after, isAfter, keptPortCount, portCount, keeps, ranPortCount⟩ :=
    isFirst.exists_start_function (callAt callLimit) named rfl "num_ports" portCountFunction rfl
  have kept := (((keepsTables_opened machine).trans keptData).trans keptPort).trans keptPortCount
  have isEnding : (evalArguments (callAt callLimit) scope [descriptor]).start after =
      (.ok [.table machine.store.tables.size], after) :=
    start_evalArguments_singleton (start_variable named isAfter.refers)
  have ran : (evalBlock (callAt callLimit) {} configuration).start machine =
      (.ok (.returned [.table machine.store.tables.size]), after) := by
    rw [configuration_eq, start_opening, ranData, ranPort, ranPortCount,
      start_block_returned [] isEnding]
  refine ⟨after, ?_, isAfter, fun id old => (kept id (Nat.ne_of_lt old) old).2,
    keeps _ _ (by decide) port, portCount⟩
  rw [Run.chunk, start_bind, ran]
  rfl

/-- The machine with the module as its configuration and a value as its ports. -/
def deploy (module : Nat) (ports : Value) (machine : Machine σ) : Machine σ :=
  setEntry module "ports" ports (setEntry Store.globalsId globalName (.table module) machine)

theorem get_deploy (isModule : IsModule module cell machine) (ports : Value) :
    ((deploy module ports machine).store.table module).get (.text "ports") = ports := by
  rw [deploy, get_setEntry, if_pos rfl]
  rw [size_setEntry]
  exact isModule.there

theorem table_deploy {id : Nat} (other : id ≠ module) (otherGlobals : id ≠ Store.globalsId)
    (ports : Value) : (deploy module ports machine).store.table id = machine.store.table id := by
  rw [deploy, table_setEntry_of_ne other, table_setEntry_of_ne otherGlobals]

/-- The configuration is the deployed module, and the function for types is in its place. -/
structure IsDeployed (module : Nat) (machine : Machine σ) : Prop where
  configured : globalValue machine = .table module
  unguarded : (machine.store.table module).readHandler = .nil
  type : (machine.store.table Store.globalsId).get (.text "type") = .function (.builtin .type)
  port : HasFunction module "port" portFunction machine
  portCount : HasFunction module "num_ports" portCountFunction machine

/-- Once it is loaded and assigned, the module is deployed, whatever its ports are. -/
theorem isDeployed_deploy (isModule : IsModule module cell machine)
    (port : HasFunction module "port" portFunction machine)
    (portCount : HasFunction module "num_ports" portCountFunction machine) (ports : Value) :
    IsDeployed module (deploy module ports machine) := by
  let named : Machine σ := setEntry Store.globalsId globalName (.table module) machine
  have same : named.store.table module = machine.store.table module :=
    table_setEntry_of_ne isModule.other _ _
  have isNamed : IsModule module cell named := by
    refine ⟨?_, isModule.other, by rw [same, isModule.reads], by rw [same, isModule.writes],
      isModule.refers, ?_⟩
    · rw [size_setEntry]
      exact isModule.there
    · rw [get_setEntry isModule.globals_there, if_neg (by decide), isModule.type]
  have keeps {name : String} {defined : Expr} (different : name ≠ "ports")
      (has : HasFunction module name defined machine) :
      HasFunction module name defined (deploy module ports machine) := by
    obtain ⟨entry, there, isFunction, captures, refers⟩ := has
    rw [← same] at entry
    exact (HasFunction.intro entry there isFunction captures refers).setEntry isNamed.there
      different ports
  have isDeployed := isNamed.setEntry "ports" ports
  refine ⟨?_, isDeployed.reads, isDeployed.type, keeps (by decide) port,
    keeps (by decide) portCount⟩
  unfold globalValue deploy
  rw [table_setEntry_of_ne isModule.other.symm, get_setEntry isModule.globals_there, if_pos rfl]

end ScriptedRobot.Deployed
