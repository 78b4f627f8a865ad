import ScriptedRobot.Proofs.Capability.Revocation
import ScriptedRobot.Proofs.Engine.Machine
import ScriptedRobot.Proofs.Script.Tables

/-! # Retractions that raise

A retraction gets hold of the table of its module, and then works off its symbols one after the
other: it switches the function of a symbol off, and leaves a stand-in for it in the table. Scripts
may have put handlers behind the tables that raise an error at any of these accesses, also behind
the table of global names, where the table of modules is looked up. The retraction then ends, and
the symbols it has not come to stay as they are. -/

namespace ScriptedRobot.Capability

open Script (Value Run Store)

variable {σ : Type} {machine after : Script.Machine σ}

namespace Registry

variable {registry : Registry σ} {module symbol : String} {done : List String} {grant : Nat}

theorem retracted_concat (published : (registry.symbolsOf module).lookup symbol = some grant) :
    registry.retracted module (done ++ [symbol]) =
      (registry.retracted module done).switchOff grant := by
  unfold retracted switchOffAll
  simp only [List.filterMap_append, List.filterMap_cons, published, List.filterMap_nil,
    List.foldl_append, List.foldl_cons, List.foldl_nil]

/-- A symbol is live after a retraction if it was before and its function was not switched off. -/
theorem isLive_retracted (published : (registry.symbolsOf module).lookup symbol = some grant) :
    (registry.retracted module done).isLive module symbol =
      (registry.isLive module symbol &&
        !(done.filterMap fun symbol => (registry.symbolsOf module).lookup symbol).contains grant) := by
  have kept : ((registry.retracted module done).symbolsOf module).lookup symbol = some grant := by
    rw [retracted, symbolsOf_switchOffAll, published]
  rw [isLive_of_lookup kept, isLive_of_lookup published]
  unfold isLiveGrant
  rw [retracted, getElem?_switchOffAll]
  cases registry.grants[grant]? <;> rfl

theorem contains_filterMap_lookup
    (published : (registry.symbolsOf module).lookup symbol = some grant) (worked : symbol ∈ done) :
    (done.filterMap fun symbol => (registry.symbolsOf module).lookup symbol).contains grant =
      true :=
  List.contains_iff_mem.mpr (List.mem_filterMap.mpr ⟨symbol, worked, published⟩)

theorem isLive_retracted_of_mem (worked : symbol ∈ done) :
    (registry.retracted module done).isLive module symbol = false := by
  cases published : (registry.symbolsOf module).lookup symbol with
  | none =>
      refine isLive_of_lookup_none ?_
      rw [retracted, symbolsOf_switchOffAll, published]
  | some grant =>
      rw [isLive_retracted published, contains_filterMap_lookup published worked]
      exact Bool.and_false _

theorem getElem?_retracted_of_mem
    (published : (registry.symbolsOf module).lookup symbol = some grant) (worked : symbol ∈ done) :
    (registry.retracted module done).grants[grant]? =
      registry.grants[grant]?.map fun entry => { entry with live := false } := by
  rw [retracted, getElem?_switchOffAll, contains_filterMap_lookup published worked]
  simp only [Bool.not_true, Bool.and_false]

end Registry

/-! ## Where a retraction ends -/

/-- A function is switched off before anything of a script can run. -/
theorem start_retractGrant_eq (table : Value) (symbol : String) (grant : Nat)
    (machine : Script.Machine σ) :
    (retractGrant table symbol grant).start machine =
      match machine.registry.grants[grant]? with
      | none => (.ok (), { machine with registry := machine.registry.switchOff grant })
      | some entry =>
        (Run.setIndex table (.text symbol) (.function (.standIn entry.capability.neutral))).start
          { machine with registry := machine.registry.switchOff grant } := by
  have off : (machine.registry.switchOff grant).grants[grant]? =
      machine.registry.grants[grant]?.map fun entry => { entry with live := false } :=
    Array.getElem?_modify.trans (if_pos rfl)
  unfold retractGrant
  rw [Run.start_bind, start_changeRegistry]
  dsimp only
  rw [Run.start_bind, Run.start_get]
  dsimp only
  rw [off]
  cases machine.registry.grants[grant]? <;> rfl

/-- Whatever becomes of the stand-in, the function is switched off. -/
theorem registry_of_retractGrant {table : Value} {symbol : String} {grant : Nat}
    {outcome : Except Value Unit}
    (ended : (retractGrant table symbol grant).start machine = (outcome, after)) :
    after.registry = machine.registry.switchOff grant := by
  rw [start_retractGrant_eq] at ended
  split at ended
  · exact congrArg Script.Machine.registry (congrArg Prod.snd ended).symm
  · exact (sameRegistry_closed.keeps_setIndex _ _ _).of_start ended

/-- A loop over symbols that raises has worked off the symbols before the one it raised at. -/
theorem start_retractEach_error {table raised : Value} {published : List (String × Nat)}
    {symbols : List String}
    (ended : (retractEach table published symbols).start machine = (.error raised, after)) :
    ∃ earlier symbol later grant count middle, symbols = earlier ++ symbol :: later ∧
      (retractEach table published earlier).start machine = (.ok count, middle) ∧
      published.lookup symbol = some grant ∧
      (retractGrant table symbol grant).start middle = (.error raised, after) := by
  induction symbols generalizing machine with
  | nil => cases ended
  | cons symbol rest ih =>
      unfold retractEach at ended
      cases looked : published.lookup symbol with
      | none =>
          rw [looked] at ended
          obtain ⟨earlier, failed, later, grant, count, middle, rfl, worked, rest⟩ := ih ended
          refine ⟨symbol :: earlier, failed, later, grant, count, middle, rfl, ?_, rest⟩
          unfold retractEach
          rw [looked]
          exact worked
      | some grant =>
          rw [looked] at ended
          rw [Run.start_bind_error] at ended
          -- Either this symbol raises, or it is worked off and a later one raises.
          obtain raises | ⟨_, middle, first, ended⟩ := ended
          · exact ⟨[], symbol, rest, grant, 0, machine, rfl, rfl, looked, raises⟩
          · rw [Run.start_bind_error] at ended
            obtain ended | ⟨_, _, _, ended⟩ := ended
            · obtain ⟨earlier, failed, later, other, count, last, rfl, worked, rest⟩ := ih ended
              refine ⟨symbol :: earlier, failed, later, other, count + 1, last, rfl, ?_, rest⟩
              unfold retractEach
              rw [looked]
              dsimp only
              rw [Run.start_bind, first]
              dsimp only
              rw [Run.start_bind, worked]
              rfl
            · cases ended

/-- How a retraction ends, and the symbols it has worked off by then. -/
inductive RetractEnds (module : String) (symbols : List String) (machine : Script.Machine σ) :
    List String → Except Value Unit → Script.Machine σ → Prop where
  | completed {after : Script.Machine σ} : RetractEnds module symbols machine symbols (.ok ()) after
  /-- The table of the module, or the table of modules, could not be got hold of. -/
  | untouched {raised : Value} {after : Script.Machine σ}
      (raises : (moduleTable module).start machine = (.error raised, after)) :
      RetractEnds module symbols machine [] (.error raised) after
  /-- The stand-in for a symbol could not be written. -/
  | interrupted {table raised : Value} {earlier later : List String} {symbol : String}
      {grant count : Nat} {found middle after : Script.Machine σ}
      (split : symbols = earlier ++ symbol :: later)
      (tableFound : (moduleTable module).start machine = (.ok table, found))
      (worked : (retractEach table (machine.registry.symbolsOf module) earlier).start found =
        (.ok count, middle))
      (published : (machine.registry.symbolsOf module).lookup symbol = some grant)
      (raises : (retractGrant table symbol grant).start middle = (.error raised, after)) :
      RetractEnds module symbols machine (earlier ++ [symbol]) (.error raised) after

theorem RetractEnds.eq_of_ok {module : String} {symbols done : List String}
    {outcome : Except Value Unit} (ends : RetractEnds module symbols machine done outcome after)
    (completed : outcome = .ok ()) : done = symbols := by
  cases ends with
  | completed => rfl
  | untouched _ | interrupted _ _ _ _ _ => cases completed

/-- Every retraction switches off the functions of the symbols it has worked off, and no others. -/
theorem start_retract (machine : Script.Machine σ) (module : String) (symbols : List String) :
    ∃ done, RetractEnds module symbols machine done ((retract module symbols).start machine).1
        ((retract module symbols).start machine).2 ∧
      ((retract module symbols).start machine).2.registry =
        machine.registry.retracted module done := by
  cases ended : (retract module symbols).start machine with
  | mk outcome after =>
  cases outcome with
  | ok _ => exact ⟨symbols, .completed, registry_of_retract ended⟩
  | error raised =>
      unfold retract at ended
      rw [Run.start_bind, Run.start_get] at ended
      dsimp only at ended ⊢
      split at ended
      case isFalse => cases ended
      rw [Run.start_bind_error] at ended
      obtain raises | ⟨table, found, tableFound, ended⟩ := ended
      · exact ⟨[], .untouched raises,
          (sameRegistry_closed.keeps_moduleTable module).of_start raises⟩
      rw [Run.start_bind_error] at ended
      obtain ended | ⟨_, _, _, ended⟩ := ended
      case inr => cases ended
      obtain ⟨earlier, symbol, later, grant, count, middle, split, worked, published, raises⟩ :=
        start_retractEach_error ended
      refine ⟨earlier ++ [symbol], .interrupted split tableFound worked published raises, ?_⟩
      -- Handlers have run in between, but no script changes the registry.
      have sameFound : found.registry = machine.registry :=
        (sameRegistry_closed.keeps_moduleTable module).of_start tableFound
      rw [registry_of_retractGrant raises, registry_of_retractEach worked, sameFound,
        Registry.retracted_concat published]
      rfl

/-! ## The table of modules -/

/-- What stands where scripts look for the table of modules. -/
def rootValue (store : Store) : Value :=
  (store.table Store.globalsId).get (.text rootName)

/-- The objects after a new table of modules was put in place. -/
def withRoot (store : Store) : Store :=
  (store.newTable {}).2.modifyTable Store.globalsId fun table =>
    table.set (.text rootName) (.table (store.newTable {}).1)

theorem handlers_withRoot (store : Store) :
    ((withRoot store).table (store.newTable {}).1).readHandler = .nil ∧
      ((withRoot store).table (store.newTable {}).1).writeHandler = .nil := by
  obtain ⟨reads, writes⟩ := (store.newTable {}).2.handlers_modifyTable
    (Script.Table.keepsHandlers_set (.text rootName) (.table (store.newTable {}).1))
    Store.globalsId (store.newTable {}).1
  rw [store.table_fresh] at reads writes
  exact ⟨reads, writes⟩

/-- A new table of modules has no tables in it, except itself where it is the global table too. -/
theorem get_withRoot {store : Store} {module : String} {entry : Nat}
    (listed : ((withRoot store).table (store.newTable {}).1).get (.text module) = .table entry) :
    entry = (store.newTable {}).1 := by
  rcases (store.newTable {}).2.table_modifyTable Store.globalsId (store.newTable {}).1
    (fun table => table.set (.text rootName) (.table (store.newTable {}).1)) with same | set
  · rw [withRoot, same, store.table_fresh] at listed
    cases listed
  · rw [withRoot, set, store.table_fresh] at listed
    have looked : ([(Script.Key.text rootName, Value.table (store.newTable {}).1)].lookup
        (.text module)).getD .nil = .table entry := listed
    rw [Text.lookup_cons_eq_ite] at looked
    split at looked
    · exact (Value.table.inj looked).symm
    · cases looked

/-- The table of modules, made anew if there is none. -/
def ensureRoot (store : Store) : Nat × Store :=
  match rootValue store with
  | .table root => (root, store)
  | _ => (store.tables.size, withRoot store)

theorem ensureRoot_of_root {store : Store} {root : Nat} (rooted : rootValue store = .table root) :
    ensureRoot store = (root, store) := by
  rw [ensureRoot, rooted]

theorem ensureRoot_of_no_root {store : Store} (absent : ∀ root, rootValue store ≠ .table root) :
    ensureRoot store = (store.tables.size, withRoot store) := by
  unfold ensureRoot
  split
  case h_1 root rooted => exact absurd rooted (absent root)
  case h_2 => rfl

/-! ## Tables without handlers -/

/-- No handler is asked when the host looks for the table of modules, or puts a new one in its
place: something stands there, or the table of global names has no handlers. -/
def GlobalsUnguarded (store : Store) : Prop :=
  rootValue store = .nil →
    (store.table Store.globalsId).readHandler = .nil ∧
      (store.table Store.globalsId).writeHandler = .nil

/-- No handler takes part in the retraction of a module: the table of global names has none that
would be asked, and neither the table of modules nor the table of the module has one, as far as they
are tables at all. -/
structure Unguarded (module : String) (store : Store) : Prop where
  globals : GlobalsUnguarded store
  root : ∀ root, rootValue store = .table root →
    (store.table root).readHandler = .nil ∧ (store.table root).writeHandler = .nil ∧
    ∀ entry, (store.table root).get (.text module) = .table entry →
      (store.table entry).writeHandler = .nil

/-- If no handler is asked, the host finds what scripts find, or makes it. -/
theorem start_rootTable (globals : GlobalsUnguarded machine.store) :
    rootTable.start machine = (.ok (.table (ensureRoot machine.store).1),
      { machine with store := (ensureRoot machine.store).2 }) := by
  unfold rootTable
  rw [Run.start_bind, Run.start_getIndex_of_taken fun absent => (globals absent).1]
  dsimp only
  split
  case h_1 root rooted =>
    rw [ensureRoot_of_root rooted]
    rfl
  case h_2 absent =>
    have added : (Run.newTable {} : Run σ Value).start machine =
        (.ok (.table (machine.store.newTable {}).1),
          { machine with store := (machine.store.newTable {}).2 }) := rfl
    have still := machine.store.table_newTable Store.globalsId
    rw [ensureRoot_of_no_root absent, Run.start_bind, added]
    dsimp only
    rw [Run.start_bind, Run.start_setIndex_of_taken]
    · rfl
    · dsimp only
      rw [still]
      exact fun absent => (globals absent).2

/-- If the table of modules is made anew no handler comes in. -/
theorem handlers_ensureRoot {store : Store} {module : String}
    (unguarded : Unguarded module store) :
    let found := (ensureRoot store).2
    let root := (ensureRoot store).1
    (found.table root).readHandler = .nil ∧ (found.table root).writeHandler = .nil ∧
      ∀ entry, (found.table root).get (.text module) = .table entry →
        (found.table entry).writeHandler = .nil := by
  by_cases present : ∃ root, rootValue store = .table root
  · obtain ⟨root, rooted⟩ := present
    rw [ensureRoot_of_root rooted]
    exact unguarded.root root rooted
  · obtain ⟨reads, writes⟩ := handlers_withRoot store
    rw [ensureRoot_of_no_root fun root rooted => present ⟨root, rooted⟩]
    refine ⟨reads, writes, fun entry listed => ?_⟩
    rw [get_withRoot listed]
    exact writes

theorem start_moduleTable {module : String} (unguarded : Unguarded module machine.store) :
    ∃ id found, (moduleTable module).start machine = (.ok (.table id), found) ∧
      (found.store.table id).writeHandler = .nil := by
  obtain ⟨reads, writes, entries⟩ := handlers_ensureRoot unguarded
  let root := (ensureRoot machine.store).1
  let middle : Script.Machine σ := { machine with store := (ensureRoot machine.store).2 }
  unfold moduleTable
  rw [Run.start_bind, start_rootTable unguarded.globals]
  dsimp only
  rw [Run.start_bind, Run.start_getIndex reads]
  dsimp only
  split
  next id listed => exact ⟨id, middle, rfl, entries id listed⟩
  next =>
    let id := (middle.store.newTable {}).1
    let made : Script.Machine σ := { middle with store := (middle.store.newTable {}).2 }
    have added : (Run.newTable {} : Run σ Value).start middle = (.ok (.table id), made) := rfl
    have fresh : (made.store.table id).writeHandler = .nil :=
      congrArg Script.Table.writeHandler middle.store.table_fresh
    have rootWrites : (made.store.table root).writeHandler = .nil :=
      (congrArg Script.Table.writeHandler (middle.store.table_newTable root)).trans writes
    rw [Run.start_bind, added]
    dsimp only
    rw [Run.start_bind, Run.start_setIndex rootWrites]
    refine ⟨id, _, rfl, ?_⟩
    have kept := made.store.handlers_modifyTable
      (Script.Table.keepsHandlers_set (.text module) (.table id)) root id
    exact kept.2.trans fresh

theorem start_retractGrant_of_unguarded {id : Nat} {symbol : String} {grant : Nat}
    (unguarded : (machine.store.table id).writeHandler = .nil) :
    ∃ after, (retractGrant (.table id) symbol grant).start machine = (.ok (), after) ∧
      (after.store.table id).writeHandler = .nil := by
  rw [start_retractGrant_eq]
  cases machine.registry.grants[grant]? with
  | none => exact ⟨_, rfl, unguarded⟩
  | some entry =>
      refine ⟨_, Run.start_setIndex ?_ _ _, ?_⟩
      · exact unguarded
      · have kept := machine.store.handlers_modifyTable
          (Script.Table.keepsHandlers_set (.text symbol)
            (.function (.standIn entry.capability.neutral))) id id
        exact kept.2.trans unguarded

theorem start_retractEach_of_unguarded {id : Nat} (published : List (String × Nat))
    (symbols : List String) (unguarded : (machine.store.table id).writeHandler = .nil) :
    ∃ count after, (retractEach (.table id) published symbols).start machine =
      (.ok count, after) := by
  induction symbols generalizing machine with
  | nil => exact ⟨0, machine, rfl⟩
  | cons symbol rest ih =>
      unfold retractEach
      cases published.lookup symbol with
      | none => exact ih unguarded
      | some grant =>
          obtain ⟨middle, first, still⟩ := start_retractGrant_of_unguarded unguarded
          obtain ⟨count, after, others⟩ := ih still
          refine ⟨count + 1, after, ?_⟩
          dsimp only
          rw [Run.start_bind, first]
          dsimp only
          rw [Run.start_bind, others]
          rfl

/-- Without handlers no retraction raises. -/
theorem start_retract_of_unguarded {module : String} (symbols : List String)
    (unguarded : Unguarded module machine.store) :
    ((retract module symbols).start machine).1 = .ok () := by
  unfold retract
  rw [Run.start_bind, Run.start_get]
  dsimp only
  split
  · obtain ⟨id, found, tableFound, writes⟩ := start_moduleTable unguarded
    obtain ⟨count, after, worked⟩ := start_retractEach_of_unguarded
      (machine.registry.symbolsOf module) symbols writes
    rw [Run.start_bind, tableFound]
    dsimp only
    rw [Run.start_bind, worked]
    rfl
  · rfl

/-! ## What is revoked -/

theorem start_retractAll (module : String) : (retractAll module).start machine =
    (retract module (machine.registry.symbols module)).start machine := by
  unfold retractAll
  rw [Run.start_bind, Run.start_get]

/-- What has been revoked when some symbols of a module were worked off. -/
structure Revokes (module : String) (done : List String) (before after : Script.Machine σ) :
    Prop where
  /-- What was worked off is switched off, and everything else is as it was. -/
  registry : after.registry = before.registry.retracted module done
  isLive_eq : ∀ symbol grant, (before.registry.symbolsOf module).lookup symbol = some grant →
    after.registry.isLive module symbol = (before.registry.isLive module symbol &&
      !(done.filterMap fun symbol => (before.registry.symbolsOf module).lookup symbol).contains
        grant)
  not_live : ∀ symbol ∈ done, after.registry.isLive module symbol = false
  /-- The published functions are inert, as long as the registry is left alone. -/
  inert : ∀ symbol ∈ done, ∀ (grant : Nat) (entry : Grant σ),
    (before.registry.symbolsOf module).lookup symbol = some grant →
    before.registry.grants[grant]? = some entry →
    ∀ moment : Script.Machine σ, moment.registry = after.registry →
      IsInert moment (.capability grant) entry.capability.neutral
  /-- So are the functions of earlier publications. A function that is live without being recorded
  was handed out by a publication that failed; no retraction is about it. -/
  inert_earlier : ∀ (grant : Nat) (entry : Grant σ), before.registry.grants[grant]? = some entry →
    entry.module = module → entry.capability.symbol ∈ done →
    (entry.live = true →
      (before.registry.symbolsOf module).lookup entry.capability.symbol = some grant) →
    ∀ moment : Script.Machine σ, moment.registry = after.registry →
      IsInert moment (.capability grant) entry.capability.neutral

theorem revokes_of_registry {module : String} {done : List String} {before : Script.Machine σ}
    (registry : after.registry = before.registry.retracted module done) :
    Revokes module done before after := by
  have inert : ∀ symbol ∈ done, ∀ (grant : Nat) (entry : Grant σ),
      (before.registry.symbolsOf module).lookup symbol = some grant →
      before.registry.grants[grant]? = some entry →
      ∀ moment : Script.Machine σ, moment.registry = after.registry →
        IsInert moment (.capability grant) entry.capability.neutral := by
    intro symbol worked grant entry published found moment same
    have off := Registry.getElem?_retracted_of_mem published worked
    rw [found, ← registry, ← same] at off
    have retired := isInert_of_not_live off Bool.false_ne_true
    exact retired
  refine ⟨registry, fun symbol grant published => ?_, fun symbol worked => ?_, inert, ?_⟩
  · rw [registry]
    exact Registry.isLive_retracted published
  · rw [registry]
    exact Registry.isLive_retracted_of_mem worked
  · intro grant entry found owned worked recorded moment same
    by_cases live : entry.live = true
    · exact inert _ worked grant entry (recorded live) found moment same
    · have still := before.registry.getElem?_switchOffAll (done.filterMap fun symbol =>
        (before.registry.symbolsOf module).lookup symbol) grant
      rw [← Registry.retracted, ← registry, ← same, found] at still
      have retired := isInert_of_not_live still (by simp [live])
      exact retired

/-- Whatever scripts made of the tables, a retraction works off a part of its symbols: all of them
if it ends well, and otherwise those up to the access that raised. What was handed out for a symbol
that was worked off is inert from then on, and everything else is as it was. Only handlers can make
a retraction raise: those of the table of modules and of the table of the module, and those of the
table of global names if it has no table of modules in it. -/
theorem retract_revokes_until_raise (machine : Script.Machine σ) (module : String)
    (symbols : List String) :
    let ended := (retract module symbols).start machine
    (∃ done, RetractEnds module symbols machine done ended.1 ended.2 ∧
      Revokes module done machine ended.2 ∧ (ended.1 = .ok () → done = symbols)) ∧
    (Unguarded module machine.store → ended.1 = .ok ()) ∧
    (retractAll module).start machine =
      (retract module (machine.registry.symbols module)).start machine ∧
    (∀ (subsystem : Subsystem) (host : Host),
      let unbound := (retract subsystem.name (symbolsOf subsystem)).start (machineOf host)
      (Engine.unbind subsystem host).1 = unbound.1 ∧
      (Engine.unbind subsystem host).2.scripts.registry = unbound.2.registry) := by
  intro ended
  obtain ⟨done, ends, registry⟩ := start_retract machine module symbols
  exact ⟨⟨done, ends, revokes_of_registry registry, ends.eq_of_ok⟩,
    start_retract_of_unguarded symbols, start_retractAll module, fun subsystem host => ⟨rfl, rfl⟩⟩

namespace GuardedTable

/-! A script puts a table in the place of all modules that raises whenever it is asked for one. -/

def go : Capability Counters := Probe.bump.capability "go" "moves"

/-- What the script assigns. -/
def guard : Script.Expr :=
  .withHandlers (.table []) (.function [] [.evaluate (.raise (.text "no"))]) .nil

def actions : List (Action Counters) :=
  [.publish "drive" [go], .script [.setGlobal rootName guard] []]

def guarded : Script.Machine Counters := ((Action.steps actions).start { native := [] }).2

end GuardedTable

open GuardedTable in
theorem guarded_retraction_leaves_function_live :
    ((retract "drive" ["go"]).start guarded).1.toOption = none ∧
      ((retract "drive" ["go"]).start guarded).2.registry.isLive "drive" "go" = true := by
  exact ⟨by decide +kernel, by decide +kernel⟩

end ScriptedRobot.Capability
