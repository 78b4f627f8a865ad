import ScriptedRobot.Proofs.Capability.Namespace

/-! # What publications and retractions leave for scripts

As long as the places of the modules are tidy, publications and retractions always succeed. A
publication puts a new table into the place of its module (`tableReplaced_of_publish`), and a
retraction puts stand-ins into the table that is there (`standInsPlaced_of_retract`). -/

namespace ScriptedRobot.Capability

open Script (Value Key Callable Run Store Table)

variable {σ : Type} {id : Nat}

/-! ## Publications -/

/-- A publication puts the table of its functions in the place of the module. -/
theorem start_publish_of_tidy {machine : Script.Machine σ} (tidy : Tidy machine.store)
    (module : String) (capabilities : List (Capability σ)) :
    ∃ after, (publish module capabilities).start machine = (.ok (), after) ∧
      after.store = withModule machine.store module
        (machine.registry.offered module capabilities) := by
  have tidyMade := tidy_newTable tidy (machine.registry.offered module capabilities)
  obtain ⟨tidyRoot, rooted, _⟩ := tidy_ensureRoot tidyMade
  have writes := (tidyRoot.root _ rooted).plain.writeHandler
  unfold publish
  rw [Run.start_bind, start_changeRegistry]
  dsimp only
  rw [Run.start_bind, Run.start_modifyGet]
  dsimp only
  rw [Run.start_bind]
  unfold Run.newTable
  rw [Run.start_modifyGet]
  dsimp only
  rw [Run.start_bind, start_rootTable tidyMade.globalsUnguarded]
  dsimp only
  rw [Run.start_bind, Run.start_setIndex]
  · exact ⟨_, rfl, rfl⟩
  · exact writes

/-- What a publication leaves: a new table with one function for each name, all of them running. -/
structure TableReplaced (module : String) (capabilities : List (Capability σ))
    (before after : Script.Machine σ) : Prop where
  fresh : ∃ id, before.store.tables.size ≤ id ∧ moduleValue after.store module = .table id
  keys : ∀ key, key ∈ (contents after.store module).keys ↔
    ∃ symbol ∈ capabilities.map Capability.symbol, key = .text symbol
  runs : ∀ symbol ∈ capabilities.map Capability.symbol, ∃ callable, ∃ capability ∈ capabilities,
    capability.symbol = symbol ∧
      (contents after.store module).get (.text symbol) = .function callable ∧
      ∀ moment, SameRegistry after moment → Runs moment callable capability
  others : ∀ other, other ≠ module →
    moduleValue after.store other = moduleValue before.store other ∧
      contents after.store other = contents before.store other

section Publish

variable {machine after : Script.Machine σ} (tidy : Tidy machine.store) {module : String}
  {capabilities : List (Capability σ)}

theorem keys_offered (registry : Registry σ) (key : Key) :
    key ∈ (registry.offered module capabilities).keys ↔
      ∃ symbol ∈ capabilities.map Capability.symbol, key = .text symbol := by
  have members := Table.mem_keys_setFunctions .capability {}
    (registry.handedOut module capabilities) key
  rw [← Registry.map_fst_handedOut registry module capabilities]
  refine members.trans ?_
  simp only [Table.keys, List.map_nil, List.not_mem_nil, false_or, List.mem_map,
    exists_exists_and_eq_and]

theorem handlers_offered (registry : Registry σ) (module : String)
    (capabilities : List (Capability σ)) :
    (registry.offered module capabilities).readHandler = .nil ∧
      (registry.offered module capabilities).writeHandler = .nil :=
  Table.keepsHandlers_setFunctions .capability (registry.handedOut module capabilities) {}

include tidy in
theorem contents_of_publish (store : after.store = withModule machine.store module
      (machine.registry.offered module capabilities)) :
    contents after.store module = machine.registry.offered module capabilities := by
  obtain ⟨reads, writes⟩ := handlers_offered machine.registry module capabilities
  rw [store]
  exact contents_withModule tidy module reads writes

include tidy in
theorem tableReplaced_of_publish
    (store : after.store = withModule machine.store module
      (machine.registry.offered module capabilities))
    (registry : after.registry = machine.registry.published module capabilities) :
    TableReplaced module capabilities machine after := by
  have offered := contents_of_publish tidy store
  refine ⟨⟨machine.store.tables.size, Nat.le_refl _, ?_⟩, fun key => ?_, fun symbol member => ?_,
    fun other different => ⟨?_, ?_⟩⟩
  · rw [store, moduleValue_withModule tidy, if_pos rfl]
  · rw [offered]
    exact keys_offered machine.registry key
  · rw [← Registry.map_fst_handedOut machine.registry module] at member
    obtain ⟨grant, found, handed⟩ := exists_lookup_reverse member
    obtain ⟨capability, listed, named, live⟩ := Registry.getElem?_of_handedOut handed
    refine ⟨.capability grant, capability, listed, named, ?_, fun moment same => ?_⟩
    · rw [offered, Registry.offered, get_moduleEntries, found]
    · rw [← registry, ← show moment.registry = after.registry from same] at live
      exact runs_of_live live rfl
  · rw [store, moduleValue_withModule tidy, if_neg different]
  · rw [store, contents_withModule_of_ne tidy module different]

end Publish

/-! ## Retractions -/

theorem start_moduleTable_eq {machine : Script.Machine σ} (tidy : Tidy machine.store)
    (module : String) :
    (moduleTable module).start machine = (.ok (.table (ensureModule machine.store module).1),
      { machine with store := (ensureModule machine.store module).2 }) := by
  obtain ⟨tidyFound, rooted, _⟩ := tidy_ensureRoot tidy
  have plain := (tidyFound.root _ rooted).plain
  unfold moduleTable
  rw [Run.start_bind, start_rootTable tidy.globalsUnguarded]
  dsimp only
  rw [Run.start_bind, Run.start_getIndex]
  case unguarded => exact plain.readHandler
  dsimp only
  rw [← moduleValue_of_root rooted]
  split
  case h_1 id placed =>
    rw [ensureModule_of_table placed]
    rfl
  case h_2 absent =>
    have rootedMade := (rootValue_newTable tidyFound {}).trans rooted
    have writes := (plain.newTable {}).writeHandler
    rw [ensureModule_of_no_table absent, withModule, ensureRoot_of_root rootedMade, Run.start_bind]
    unfold Run.newTable
    rw [Run.start_modifyGet]
    dsimp only
    rw [Run.start_bind, Run.start_setIndex]
    · rfl
    · exact writes

/-- The stand-ins that a retraction leaves, one for each of its symbols that was published. -/
def standIns (registry : Registry σ) (published : List (String × Nat)) (symbols : List String) :
    List (String × Script.Neutral) :=
  symbols.filterMap fun symbol =>
    ((published.lookup symbol).bind fun grant => registry.grants[grant]?).map fun entry =>
      (symbol, entry.capability.neutral)

theorem standIns_switchOff (registry : Registry σ) (published : List (String × Nat))
    (symbols : List String) (retired : Nat) :
    standIns (registry.switchOff retired) published symbols =
      standIns registry published symbols := by
  unfold standIns
  congr 1
  funext symbol
  cases published.lookup symbol with
  | none => rfl
  | some grant =>
      simp only [Option.bind_some, Registry.switchOff, Array.getElem?_modify]
      split
      · rw [Option.map_map]
        rfl
      · rfl

theorem setFunctions_standIns_cons (registry : Registry σ) (published : List (String × Nat))
    (symbol : String) (rest : List String) (table : Table) :
    table.setFunctions .standIn (standIns registry published (symbol :: rest)) =
      (table.setFunctions .standIn (standIns registry published [symbol])).setFunctions .standIn
        (standIns registry published rest) := by
  have split : standIns registry published (symbol :: rest) =
      standIns registry published [symbol] ++ standIns registry published rest := by
    change standIns registry published ([symbol] ++ rest) = _
    exact List.filterMap_append
  rw [split]
  exact List.foldl_append

theorem start_retractGrant_of_writes {machine : Script.Machine σ} {published : List (String × Nat)}
    {symbol : String} {grant : Nat} (looked : published.lookup symbol = some grant)
    (writes : (machine.store.table id).writeHandler = .nil) :
    ∃ after, (retractGrant (.table id) symbol grant).start machine = (.ok (), after) ∧
      after.registry = machine.registry.switchOff grant ∧
      after.store = machine.store.modifyTable id fun table =>
        table.setFunctions .standIn (standIns machine.registry published [symbol]) := by
  rw [start_retractGrant_eq]
  unfold standIns
  simp only [List.filterMap_cons, List.filterMap_nil, looked, Option.bind_some]
  cases machine.registry.grants[grant]? with
  | none => exact ⟨_, rfl, rfl, (machine.store.modifyTable_id id).symm⟩
  | some entry =>
      refine ⟨_, Run.start_setIndex ?_ _ _, rfl, rfl⟩
      exact writes

theorem start_retractEach_of_writes (machine : Script.Machine σ) (published : List (String × Nat))
    (symbols : List String) (writes : (machine.store.table id).writeHandler = .nil) :
    ∃ count after, (retractEach (.table id) published symbols).start machine = (.ok count, after) ∧
      after.store = machine.store.modifyTable id fun table =>
        table.setFunctions .standIn (standIns machine.registry published symbols) := by
  induction symbols generalizing machine with
  | nil => exact ⟨0, machine, rfl, (machine.store.modifyTable_id id).symm⟩
  | cons symbol rest ih =>
      unfold retractEach
      cases looked : published.lookup symbol with
      | none =>
          have skipped : standIns machine.registry published (symbol :: rest) =
              standIns machine.registry published rest := by
            simp only [standIns, List.filterMap_cons, looked, Option.bind_none, Option.map_none]
          rw [skipped]
          exact ih machine writes
      | some grant =>
          obtain ⟨middle, first, registry, store⟩ := start_retractGrant_of_writes looked writes
          have still : (middle.store.table id).writeHandler = .nil := by
            have kept := machine.store.handlers_modifyTable
              (Table.keepsHandlers_setFunctions .standIn
                (standIns machine.registry published [symbol])) id id
            rw [store]
            exact kept.2.trans writes
          obtain ⟨count, after, others, last⟩ := ih middle still
          rw [registry, standIns_switchOff, store, Store.modifyTable_modifyTable] at last
          refine ⟨count + 1, after, ?_, ?_⟩
          · dsimp only
            rw [Run.start_bind, first]
            dsimp only
            rw [Run.start_bind, others]
            rfl
          · rw [last]
            simp only [setFunctions_standIns_cons machine.registry published symbol rest]

/-- A retraction leaves its stand-ins in the table of the module. -/
theorem start_retract_of_tidy {machine : Script.Machine σ} (tidy : Tidy machine.store)
    {module : String} (known : machine.registry.isPublished module = true)
    (symbols : List String) :
    ∃ after, (retract module symbols).start machine = (.ok (), after) ∧
      after.store = (ensureModule machine.store module).2.modifyTable
        (ensureModule machine.store module).1 fun table => table.setFunctions .standIn
          (standIns machine.registry (machine.registry.symbolsOf module) symbols) := by
  have ensured := ensured_ensureModule tidy module
  have writes := (ensured.tidy.module ensured.placed).1.writeHandler
  unfold retract
  rw [Run.start_bind, Run.start_get]
  dsimp only
  rw [if_pos known, Run.start_bind, start_moduleTable_eq tidy]
  dsimp only
  let found : Script.Machine σ := { machine with store := (ensureModule machine.store module).2 }
  obtain ⟨count, after, worked, same⟩ := start_retractEach_of_writes found
    (machine.registry.symbolsOf module) symbols writes
  rw [Run.start_bind, worked]
  exact ⟨_, rfl, same⟩

/-- A module that is not published is passed over. -/
theorem start_retract_of_not_isPublished {machine : Script.Machine σ} {module : String}
    (unknown : ¬ machine.registry.isPublished module = true) (symbols : List String) :
    ∃ after, (retract module symbols).start machine = (.ok (), after) ∧
      after.store = machine.store ∧ after.registry = machine.registry := by
  unfold retract
  rw [Run.start_bind, Run.start_get]
  dsimp only
  rw [if_neg unknown]
  exact ⟨_, rfl, rfl, rfl⟩

/-- What a retraction leaves: a stand-in for each of its symbols that was published, and everything
else as it was. -/
structure StandInsPlaced (module : String) (symbols : List String)
    (before after : Script.Machine σ) : Prop where
  root : ∃ root, rootValue after.store = .table root
  sameRoot : ∀ root, rootValue before.store = .table root → rootValue after.store = .table root
  table : ∃ id, moduleValue after.store module = .table id
  sameTable : ∀ id, moduleValue before.store module = .table id →
    moduleValue after.store module = .table id
  standIns : ∀ symbol ∈ symbols, symbol ∈ before.registry.symbols module →
    ∃ (grant : Nat) (entry : Grant σ) (callable : Callable),
      (before.registry.symbolsOf module).lookup symbol = some grant ∧
      before.registry.grants[grant]? = some entry ∧ entry.module = module ∧
      entry.capability.symbol = symbol ∧
      (contents after.store module).get (.text symbol) = .function callable ∧
      ∀ moment : Script.Machine σ, IsInert moment callable entry.capability.neutral
  rest : ∀ key, (∀ symbol ∈ symbols, symbol ∈ before.registry.symbols module →
      key ≠ .text symbol) →
    (contents after.store module).get key = (contents before.store module).get key
  others : ∀ other, other ≠ module →
    moduleValue after.store other = moduleValue before.store other ∧
      contents after.store other = contents before.store other

theorem isInert_standIn (machine : Script.Machine σ) (neutral : Script.Neutral) :
    IsInert machine (.standIn neutral) neutral :=
  fun _ _ => rfl

section Retract

variable {registry : Registry σ} {module : String} {symbols : List String}

theorem mem_standIns {published : List (String × Nat)} {symbol : String}
    {neutral : Script.Neutral} :
    (symbol, neutral) ∈ standIns registry published symbols ↔
      symbol ∈ symbols ∧ ∃ (grant : Nat) (entry : Grant σ),
        published.lookup symbol = some grant ∧ registry.grants[grant]? = some entry ∧
          entry.capability.neutral = neutral := by
  unfold standIns
  simp only [List.mem_filterMap, Option.map_eq_some_iff, Option.bind_eq_some_iff, Prod.mk.injEq]
  constructor
  · rintro ⟨name, listed, entry, ⟨grant, looked, found⟩, rfl, same⟩
    exact ⟨listed, grant, entry, looked, found, same⟩
  · rintro ⟨listed, grant, entry, looked, found, same⟩
    exact ⟨symbol, listed, entry, ⟨grant, looked, found⟩, rfl, same⟩

theorem get_standIns {published : List (String × Nat)} {symbol : String} {grant : Nat}
    {entry : Grant σ} (listed : symbol ∈ symbols) (looked : published.lookup symbol = some grant)
    (found : registry.grants[grant]? = some entry) (table : Table) :
    (table.setFunctions .standIn (standIns registry published symbols)).get (.text symbol) =
      .function (.standIn entry.capability.neutral) := by
  have member : (symbol, entry.capability.neutral) ∈ standIns registry published symbols :=
    mem_standIns.mpr ⟨listed, grant, entry, looked, found, rfl⟩
  obtain ⟨neutral, last, lastMember⟩ := exists_lookup_reverse (List.mem_map_of_mem member)
  obtain ⟨_, grantLast, entryLast, lookedLast, foundLast, rfl⟩ := mem_standIns.mp lastMember
  rw [looked, Option.some.injEq] at lookedLast
  subst lookedLast
  rw [found, Option.some.injEq] at foundLast
  subst foundLast
  rw [Table.get_setFunctions, last]

theorem mem_symbols_of_mem_standIns {entry : String × Script.Neutral}
    (member : entry ∈ standIns registry (registry.symbolsOf module) symbols) :
    entry.1 ∈ symbols ∧ entry.1 ∈ registry.symbols module := by
  obtain ⟨listed, grant, _, looked, _⟩ := mem_standIns.mp member
  exact ⟨listed, Registry.mem_symbols_iff.mpr ⟨grant, looked⟩⟩

theorem contents_of_retract {before after : Store} (tidy : Tidy before)
    {functions : List (String × Script.Neutral)}
    (store : after = (ensureModule before module).2.modifyTable (ensureModule before module).1
      fun table => table.setFunctions .standIn functions) :
    contents after module = (contents before module).setFunctions .standIn functions := by
  have ensured := ensured_ensureModule tidy module
  rw [store, contents_changeContents ensured.tidy ensured.placed, ensured.contents]

theorem standInsPlaced_of_retract {machine after : Script.Machine σ} (tidy : Tidy machine.store)
    (recorded : machine.registry.Recorded)
    (store : after.store = (ensureModule machine.store module).2.modifyTable
      (ensureModule machine.store module).1 fun table => table.setFunctions .standIn
        (standIns machine.registry (machine.registry.symbolsOf module) symbols)) :
    StandInsPlaced module symbols machine after := by
  have ensured := ensured_ensureModule tidy module
  have reached := contents_of_retract tidy store
  have placed : moduleValue after.store module =
      .table (ensureModule machine.store module).1 := by
    rw [store, moduleValue_changeContents ensured.tidy ensured.placed]
    exact ensured.placed
  refine ⟨exists_root_of_placed placed, fun root before => ?_, ⟨_, placed⟩, fun id before => ?_,
    fun symbol listed known => ?_, fun key other => ?_, fun other different => ⟨?_, ?_⟩⟩
  · rw [store, rootValue_changeContents ensured.tidy ensured.placed]
    exact ensured.root root before
  · rw [← ensured.kept id before]
    exact placed
  · obtain ⟨grant, looked⟩ := Registry.mem_symbols_iff.mp known
    obtain ⟨entry, found, owned, named⟩ :=
      recorded module symbol grant (Text.mem_of_lookup_eq_some looked)
    refine ⟨grant, entry, _, looked, found, owned, named, ?_, fun moment =>
      isInert_standIn moment entry.capability.neutral⟩
    rw [reached]
    exact get_standIns listed looked found _
  · rw [reached]
    refine Table.get_setFunctions_of_ne .standIn _ _ fun entry member => ?_
    obtain ⟨listed, known⟩ := mem_symbols_of_mem_standIns member
    exact other entry.1 listed known
  · rw [store, moduleValue_changeContents ensured.tidy ensured.placed]
    exact ensured.others other different
  · rw [store, contents_changeContents_of_ne ensured.tidy ensured.placed different,
      ensured.contents]

end Retract

end ScriptedRobot.Capability
