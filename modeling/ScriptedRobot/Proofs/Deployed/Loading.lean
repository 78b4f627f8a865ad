import ScriptedRobot.Proofs.Configuration.Deployment
import ScriptedRobot.Proofs.Capability.Offering
import ScriptedRobot.Proofs.Configuration.PortFunctions
import ScriptedRobot.Proofs.Engine.Capture
import ScriptedRobot.Proofs.Files.Tree

/-! # Loading deployed programs

The factory of a deployed program sets up its variables and fills its descriptor with callbacks,
which see these variables. Loading the program runs the factory once, and captures the callbacks
under the names of hooks (`exists_load`). -/

namespace ScriptedRobot.Deployed

open Capability (IsEquipped Tidy isEquipped_withRig machineOf withRig)
open Engine (onMachine run run_of_start)
open Script
open Script.Run

/-! ## Callbacks -/

section Callbacks

variable {σ : Type} {module cell : Nat} {machine middle after : Machine σ} {name : String}
  {body : List Stmt} {captured : List (String × Nat)} {callbacks : List (String × List Stmt)}

/-- The descriptor has a function without parameters under a name, which sees some variables. -/
inductive HasCallback (module : Nat) (captured : List (String × Nat)) (name : String)
    (body : List Stmt) (machine : Machine σ) : Prop where
  | intro (id : Nat)
      (entry : (machine.store.table module).get (.text name) = .function (.closure id))
      (there : machine.store.closures[id]? = some ⟨[], body, captured⟩)

/-- A descriptor to be: its table is there and has no handlers, and its variable holds it. -/
structure IsDescriptor (module cell : Nat) (machine : Machine σ) : Prop where
  there : module < machine.store.tables.size
  reads : (machine.store.table module).readHandler = .nil
  writes : (machine.store.table module).writeHandler = .nil
  refers : machine.store.cells[cell]? = some (.table module)

/-- The callbacks were added to the descriptor, and nothing else was done. -/
structure Described (module : Nat) (captured : List (String × Nat))
    (callbacks : List (String × List Stmt)) (machine after : Machine σ) : Prop where
  rest : ∃ tables closures, after = { machine with
    store := { machine.store with tables, closures } }
  others : ∀ id ≠ module, after.store.table id = machine.store.table id
  closures : ∀ (id : Nat) (closure : Closure), machine.store.closures[id]? = some closure →
    after.store.closures[id]? = some closure
  defined : ∀ entry ∈ callbacks, HasCallback module captured entry.1 entry.2 after
  undefined : ∀ name ∉ callbacks.map Prod.fst,
    (after.store.table module).get (.text name) = (machine.store.table module).get (.text name)

/-- What was added first stays if the names are others. -/
theorem Described.append {earlier later : List (String × List Stmt)}
    (first : Described module captured earlier machine middle)
    (second : Described module captured later middle after)
    (distinct : ∀ entry ∈ earlier, entry.1 ∉ later.map Prod.fst) :
    Described module captured (earlier ++ later) machine after where
  rest := by
    obtain ⟨_, _, rfl⟩ := first.rest
    obtain ⟨tables, closures, rfl⟩ := second.rest
    exact ⟨tables, closures, rfl⟩
  others id other := (second.others id other).trans (first.others id other)
  closures id closure found := second.closures id closure (first.closures id closure found)
  defined entry member := by
    rcases List.mem_append.mp member with early | late
    · obtain ⟨id, written, there⟩ := first.defined entry early
      refine .intro id ?_ (second.closures id _ there)
      rw [second.undefined entry.1 (distinct entry early), written]
    · exact second.defined entry late
  undefined name unnamed := by
    rw [List.map_append, List.mem_append, not_or] at unnamed
    exact (second.undefined name unnamed.2).trans (first.undefined name unnamed.1)

theorem isDescriptor_opened (machine : Machine σ) :
    IsDescriptor machine.store.tables.size machine.store.cells.size (opened machine) := by
  have fresh : (opened machine).store.table machine.store.tables.size = {} :=
    Store.table_newTable_self _ _
  refine ⟨?_, by rw [fresh], by rw [fresh], Array.getElem?_push_size⟩
  exact Nat.lt_of_lt_of_eq (Nat.lt_succ_self _) (Store.size_newTable machine.store {}).symm

/-- A new variable is no business of a descriptor. -/
theorem IsDescriptor.addCell (isDescriptor : IsDescriptor module cell machine) (value : Value) :
    IsDescriptor module cell (addCell value machine) :=
  ⟨isDescriptor.there, isDescriptor.reads, isDescriptor.writes,
    cell_addCell_of_some isDescriptor.refers value⟩

namespace IsDescriptor

variable (isDescriptor : IsDescriptor module cell machine) (call : Call σ) {scope : Scope}
  (named : scope.cell? descriptorName = some cell)
include isDescriptor named

theorem exists_passes_callback (name : String) (body : List Stmt) :
    ∃ after, Passes call [callback name body] scope machine scope after ∧
      Described module scope.visible [(name, body)] machine after ∧
      IsDescriptor module cell after := by
  let closure : Closure := ⟨[], body, scope.visible⟩
  let middle : Machine σ := { machine with store := (machine.store.newClosure closure).2 }
  let function : Value := .function (.closure machine.store.closures.size)
  have object : (evalExpr call scope descriptor).start machine = (.ok [.table module], machine) :=
    start_variable named isDescriptor.refers
  have there : module < middle.store.tables.size := isDescriptor.there
  obtain ⟨reads, writes⟩ := handlers_setEntry module module name function middle
  refine ⟨setEntry module name function middle, .statement nofun ?_,
    ⟨⟨_, _, rfl⟩, fun id other => ?_, fun id kept found => ?_, fun entry member => ?_,
      fun other unnamed => ?_⟩,
    ⟨?_, reads.trans isDescriptor.reads, writes.trans isDescriptor.writes, isDescriptor.refers⟩⟩
  · rw [callback, define, start_setEntry object (start_function [] body) isDescriptor.writes]
    rfl
  · exact table_setEntry_of_ne other name function
  · exact getElem?_push_of_some found closure
  · obtain rfl := List.mem_singleton.mp member
    refine .intro machine.store.closures.size ?_ Array.getElem?_push_size
    rw [get_setEntry there, if_pos rfl]
  · have different : Key.text other ≠ .text name := by
      intro same
      rw [Key.text.injEq] at same
      exact unnamed (List.mem_singleton.mpr same)
    rw [get_setEntry there, if_neg different]
    rfl
  · rw [size_setEntry]
    exact there

/-- Callbacks are added one after the other. -/
theorem exists_passes_callbacks (distinct : (callbacks.map Prod.fst).Nodup) :
    ∃ after, Passes call (callbacks.map fun entry => callback entry.1 entry.2) scope machine scope
        after ∧
      Described module scope.visible callbacks machine after ∧
      IsDescriptor module cell after := by
  induction callbacks generalizing machine with
  | nil =>
      exact ⟨machine, .nil, ⟨⟨_, _, rfl⟩, fun _ _ => rfl, fun _ _ => id, nofun, fun _ _ => rfl⟩,
        isDescriptor⟩
  | cons entry rest ih =>
      obtain ⟨name, body⟩ := entry
      obtain ⟨unnamed, distinctRest⟩ := List.nodup_cons.mp distinct
      obtain ⟨middle, first, describedFirst, isDescriptorFirst⟩ :=
        isDescriptor.exists_passes_callback call named name body
      obtain ⟨after, others, describedRest, isDescriptorRest⟩ := ih isDescriptorFirst distinctRest
      refine ⟨after, first.cons others, describedFirst.append describedRest ?_, isDescriptorRest⟩
      rintro _ member
      obtain rfl := List.mem_singleton.mp member
      exact unnamed

end IsDescriptor

end Callbacks

/-! ## Programs -/

section Programs

variable {σ : Type} {body : List Stmt} {machine : Machine σ}

/-- The machine with the factory of a program. -/
def withFactory (body : List Stmt) (machine : Machine σ) : Machine σ :=
  { machine with store := (machine.store.newClosure ⟨[], describing body, []⟩).2 }

theorem start_chunk_program (body : List Stmt) (machine : Machine σ) :
    (Run.chunk (program body) []).start machine =
      (.ok [.function (.closure machine.store.closures.size)], withFactory body machine) := by
  have made : (evalArguments (callAt callLimit) {} [.function [] (describing body)]).start machine =
      (.ok [.function (.closure machine.store.closures.size)], withFactory body machine) :=
    start_evalArguments_singleton (start_function [] (describing body))
  rw [Run.chunk, start_bind, program, start_block_returned [] made]
  rfl

/-- A callback whose statements are passed completes. -/
theorem start_call_of_passes {id : Nat} {captured : List (String × Nat)} {inner : Scope}
    {after : Machine σ} (there : machine.store.closures[id]? = some ⟨[], body, captured⟩)
    (passes : Passes (callAt 199) body { captured } machine inner after) :
    (Run.call (.closure id) []).start machine = (.ok [], after) := by
  refine (start_callClosure there rfl).trans ?_
  change (((evalBlock (callAt 199) { captured } body).start machine).1.map Flow.values,
    ((evalBlock (callAt 199) { captured } body).start machine).2) = _
  rw [passes.start_evalBlock]
  rfl

/-- A variable is declared in a new cell. -/
theorem passes_declare {call : Call σ} {scope : Scope} {name : String} {expression : Expr}
    {value : Value} {middle : Machine σ}
    (evaluated : (evalExpr call scope expression).start machine = (.ok [value], middle)) :
    Passes call [.declare [name] [expression]] scope machine
      { scope with own := (name, middle.store.cells.size) :: scope.own }
      (addCell value middle) := by
  have declared : (declareAll [name] [value]).start middle =
      (.ok [(name, middle.store.cells.size)], addCell value middle) := rfl
  exact .declare (start_evalArguments_singleton evaluated) declared

/-- The scope of the statements of a factory. -/
def factoryScope (machine : Machine σ) : Scope :=
  { own := [(descriptorName, machine.store.cells.size)] }

/-- The machine on which the statements of a factory are run. -/
def inFactory (body : List Stmt) (machine : Machine σ) : Machine σ :=
  opened (withFactory body machine)

/-- What a factory returns is its descriptor, once its statements are passed. -/
theorem start_call_factory {inner : Scope} {made : Machine σ}
    (passes : Passes (callAt 199) body (factoryScope machine) (inFactory body machine) inner made)
    {module cell : Nat} (named : inner.cell? descriptorName = some cell)
    (refers : made.store.cells[cell]? = some (.table module)) :
    (Run.call (.closure machine.store.closures.size) []).start (withFactory body machine) =
      (.ok [.table module], made) := by
  have there : (withFactory body machine).store.closures[machine.store.closures.size]? =
      some ⟨[], describing body, []⟩ := Array.getElem?_push_size
  have ended : (evalArguments (callAt 199) inner [descriptor]).start made =
      (.ok [.table module], made) :=
    start_evalArguments_singleton (start_variable named refers)
  have ran : (evalBlock (callAt 199) {} (describing body)).start (withFactory body machine) =
      (.ok (.returned [.table module]), made) := by
    rw [describing, List.cons_append, start_opening]
    refine (passes _).trans ?_
    rw [start_block_returned [] ended]
  refine (start_callClosure there rfl).trans ?_
  change (((evalBlock (callAt 199) {} (describing body)).start _).1.map Flow.values,
    ((evalBlock (callAt 199) {} (describing body)).start _).2) = _
  rw [ran]
  rfl

end Programs

/-- The statements of the file that a name of a program leads to. -/
def scriptNamed? (host : Host) (name : String) : Option Chunk :=
  (host.scripts.files.content?
    (Engine.resolveProgram host.scripts.searchDirectory name)).bind Engine.scriptOf?

section Loads

variable {body : List Stmt} {inner : Scope} {made : Machine Rig} {module cell : Nat} (host : Host)

/-- Without handlers the hooks are looked up in the table itself. -/
theorem lookupsFind_of_unguarded (unguarded : (made.store.table module).readHandler = .nil)
    (hooks : List Hook) :
    Engine.LookupsFind (.table module) hooks (onMachine host made)
      (hooks.map fun hook => (hook, (made.store.table module).get (.text hook.name)))
      (onMachine host made) := by
  induction hooks with
  | nil => exact .none
  | cons hook rest ih => exact .next (run_of_start (start_getIndex unguarded hook.name)) ih

variable {host}

/-- A deployed program is loaded without an error. Its callbacks are the functions that its factory
put into the descriptor under the names of hooks. -/
theorem exists_load {name : String}
    (script : scriptNamed? host name = some (program body))
    (passes : Passes (callAt 199) body (factoryScope (machineOf host))
      (inFactory body (machineOf host)) inner made)
    (named : inner.cell? descriptorName = some cell)
    (refers : made.store.cells[cell]? = some (.table module))
    (unguarded : (made.store.table module).readHandler = .nil) :
    ∃ loaded journal,
      Engine.load name host = (loaded, { onMachine host made with journal }) ∧
      loaded.kind = none ∧
      ∀ hook callable, loaded.callbacks.lookup hook = some callable ↔
        (made.store.table module).get (.text hook.name) = .function callable := by
  obtain ⟨content, there, compiled⟩ := Option.bind_eq_some_iff.mp script
  have chunkEnds := run_of_start (start_chunk_program body (machineOf host))
  have factoryEnds : run (Run.call (.closure (machineOf host).store.closures.size) [])
      (onMachine host (withFactory body (machineOf host))) =
        (.ok [.table module], onMachine host made) :=
    run_of_start (start_call_factory passes named refers)
  let found : List (Hook × Value) :=
    Hook.all.map fun hook => (hook, (made.store.table module).get (.text hook.name))
  have lookups : Engine.LookupsFind (.table module) Hook.all (onMachine host made) found
      (onMachine host made) := lookupsFind_of_unguarded host unguarded Hook.all
  have finds : Engine.LoadFinds _ host found (onMachine host made) :=
    ⟨_, module, _, ⟨_, _, _, ⟨content, _, there, compiled, chunkEnds⟩, rfl, factoryEnds⟩, rfl,
      lookups⟩
  have loaded := finds.capture_eq
  refine ⟨{ name, callbacks := Engine.functionsOf found }, ?_, ?_, ?_, fun hook callable => ?_⟩
  case refine_2 =>
    unfold Engine.load Engine.loadAs
    dsimp only
    rw [loaded]
    rfl
  case refine_3 => rfl
  case refine_4 =>
    rw [lookups.lookup_functionsOf (by decide), List.mem_map]
    constructor
    · rintro ⟨_, _, same⟩
      obtain ⟨rfl, entry⟩ := Prod.mk.inj same
      exact entry
    · intro entry
      exact ⟨hook, hook.mem_all, congrArg (Prod.mk hook) entry⟩

/-- What is left of a load: the callbacks of the program, which see the variables that its factory
has set up. Nothing that was there before has changed. -/
structure Loaded (host : Host) (captured : List (String × Nat))
    (callbacks : List (String × List Stmt)) (made : Machine Rig)
    (program : Control.Program Callable) (after : Host) : Prop where
  usable : program.kind = none
  defined : ∀ hook body, (hook.name, body) ∈ callbacks → ∃ id,
    program.callbacks.lookup hook = some (.closure id) ∧
      after.scripts.store.closures[id]? = some ⟨[], body, captured⟩
  undefined : ∀ hook, hook.name ∉ callbacks.map Prod.fst → program.callbacks.lookup hook = none
  tables : ∀ id < host.scripts.store.tables.size,
    after.scripts.store.table id = host.scripts.store.table id
  closures : ∀ (id : Nat) (closure : Closure), made.store.closures[id]? = some closure →
    after.scripts.store.closures[id]? = some closure
  cells : after.scripts.store.cells = made.store.cells
  registry : after.scripts.registry = host.scripts.registry
  rig : after.rig = host.rig

/-- A load keeps what scripts are offered. -/
theorem Loaded.isEquipped {captured : List (String × Nat)} {callbacks : List (String × List Stmt)}
    {program : Control.Program Callable} {after : Host}
    (loaded : Loaded host captured callbacks made program after)
    (equipped : IsEquipped (machineOf host)) : IsEquipped (machineOf after) :=
  equipped.of_kept loaded.tables loaded.registry (congrArg Rig.poisoned loaded.rig)

/-- A program is loaded whose factory only sets up variables before it fills its descriptor. -/
theorem exists_loaded {name : String} {setup : List Stmt} {callbacks : List (String × List Stmt)}
    (script : scriptNamed? host name =
      some (program (setup ++ callbacks.map fun entry => callback entry.1 entry.2)))
    (passes : Passes (callAt 199) setup (factoryScope (machineOf host))
      (inFactory (setup ++ callbacks.map fun entry => callback entry.1 entry.2) (machineOf host))
      inner made)
    (declared : ∃ cells closures, made = { opened (machineOf host) with
      store := { (opened (machineOf host)).store with cells, closures } })
    (named : inner.cell? descriptorName = some cell)
    (refers : made.store.cells[cell]? = some (.table host.scripts.store.tables.size))
    (distinct : (callbacks.map Prod.fst).Nodup) :
    ∃ loaded after, Engine.load name host = (loaded, after) ∧
      Loaded host inner.visible callbacks made loaded after := by
  let module := host.scripts.store.tables.size
  have same (id : Nat) : made.store.table id = (opened (machineOf host)).store.table id := by
    obtain ⟨_, _, rfl⟩ := declared
    rfl
  have fresh : made.store.table module = {} := (same module).trans (Store.table_newTable_self _ _)
  have there : module < made.store.tables.size := by
    obtain ⟨_, _, rfl⟩ := declared
    exact (isDescriptor_opened (machineOf host)).there
  have rest : made.registry = host.scripts.registry ∧ made.native = host.rig := by
    obtain ⟨_, _, rfl⟩ := declared
    exact ⟨rfl, rfl⟩
  have isDescriptor : IsDescriptor module cell made :=
    ⟨there, by rw [fresh], by rw [fresh], refers⟩
  obtain ⟨full, passesCallbacks, described, isDescriptorFull⟩ :=
    isDescriptor.exists_passes_callbacks (callAt 199) named distinct
  obtain ⟨loaded, journal, ran, usable, captured⟩ := exists_load script
    (passes.append passesCallbacks) named isDescriptorFull.refers isDescriptorFull.reads
  obtain ⟨_, _, rfl⟩ := described.rest
  refine ⟨loaded, _, ran, usable, fun hook body listed => ?_, fun hook unnamed => ?_,
    fun id old => ?_, described.closures, rfl, rest.1, rest.2⟩
  · obtain ⟨id, entry, there⟩ := described.defined _ listed
    exact ⟨id, (captured hook _).mpr entry, there⟩
  · rw [Option.eq_none_iff_forall_ne_some]
    intro callable found
    have entry := (captured hook callable).mp found
    rw [described.undefined hook.name unnamed, fresh] at entry
    cases entry
  · have kept : made.store.table id = host.scripts.store.table id :=
      (same id).trans (Store.table_newTable _ id)
    exact (described.others id (Nat.ne_of_lt old)).trans kept

end Loads

/-! ## Robots -/

/-- A script in the working directory. -/
def filesWith (name : String) (script : Chunk) : Files where
  entries := [([name], .file (.script script))]

/-- A new host with a script that has set it up, and with its rig bound. -/
def robotWith (setup : Chunk) (name : String) (script : Chunk) : Host :=
  withRig (Engine.execute setup
    (Engine.start { scripts := { files := filesWith name script } })).2

theorem scripts_start (host : Host) :
    (Engine.start host).scripts = { files := host.scripts.files } := rfl

theorem scriptNamed?_run {α : Type} (step : Run Rig α) (host : Host) (name : String) :
    scriptNamed? (run step host).2 name = scriptNamed? host name := rfl

theorem scriptNamed?_start (period : Int32) (host : Host) (name : String) :
    scriptNamed? (Control.Session.start period host : Control.Session Engine Callable).world name =
      scriptNamed? host name := rfl

theorem scriptNamed?_robotWith {name : String} {script : Chunk} (setup : Chunk)
    (resolved : Engine.resolveProgram none name = name)
    (placed : (filesWith name script).place? name = some [name]) :
    scriptNamed? (robotWith setup name script) name = some script := by
  have content : (filesWith name script).content? name = some (.script script) := by
    rw [Files.content?_of_place placed]
    simp [Files.entry?, filesWith]
  simp only [robotWith, withRig, Subsystem.all, List.foldl_cons, List.foldl_nil, Engine.bind,
    Engine.execute, scriptNamed?_run]
  rw [scriptNamed?, scripts_start]
  dsimp only
  rw [resolved, content]
  rfl

theorem isEquipped_robotWith {setup : Chunk} {name : String} {script : Chunk}
    (tidy : Tidy (Engine.execute setup
      (Engine.start { scripts := { files := filesWith name script } })).2.scripts.store)
    (unlocked : (robotWith setup name script).rig.poisoned = []) :
    IsEquipped (machineOf (robotWith setup name script)) := by
  unfold robotWith at unlocked ⊢
  exact isEquipped_withRig tidy ((Engine.HasBound.start _).execute setup).liveWithin.1 unlocked

end ScriptedRobot.Deployed
