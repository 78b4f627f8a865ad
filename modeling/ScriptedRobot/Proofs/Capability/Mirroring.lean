import ScriptedRobot.Capability.Probe
import ScriptedRobot.Proofs.Capability.Assignments
import ScriptedRobot.Proofs.Capability.Replacement

/-! # Modules and what scripts find in them

The registry knows which functions of a module are live, and scripts find functions in the table
of the module. Both stay in step over every run of publications and retractions, whatever scripts
put in the place of the tables in between. -/

namespace ScriptedRobot.Capability

open Script (Value Key Callable Run Store Table)

variable {σ : Type}

/-- A machine without publications at first, after actions that did not fail. What scripts do is
restricted by a relation between the machines before and after it. -/
inductive Reached (permitted : Script.Machine σ → Script.Machine σ → Prop) :
    Script.Machine σ → Prop where
  | start {machine : Script.Machine σ} (empty : machine.registry = {})
      (tidy : Tidy machine.store) : Reached permitted machine
  | act {machine after : Script.Machine σ} (earlier : Reached permitted machine)
      (action : Action σ) (ended : action.step.start machine = (.ok (), after))
      (script : action.module? = none → permitted machine after) : Reached permitted after

/-- Scripts may put anything into the places of modules that keeps them tidy. -/
def LeavesTidy (_ after : Script.Machine σ) : Prop :=
  Tidy after.store

/-- Scripts write nothing into the tables of modules, and leave these where they are. -/
structure LeavesNamespace (before after : Script.Machine σ) : Prop where
  tidy : Tidy after.store
  moduleValue : ∀ module, moduleValue after.store module = moduleValue before.store module
  contents : ∀ module, contents after.store module = contents before.store module

theorem Action.start_quietly {α : Type} (step : Run σ α) (machine : Script.Machine σ) :
    (quietly step).start machine = (.ok (), (step.start machine).2) := by
  unfold quietly
  rw [Run.start_tryCatch, Run.start_discard]
  rcases step.start machine with ⟨_ | _, after⟩
  · rfl
  · rfl

/-- The table of a module holds a function for each of its symbols, live or a stand-in. -/
structure Shows (machine : Script.Machine σ) (module : String) : Prop where
  table : ∃ id, moduleValue machine.store module = .table id
  keys : ∀ key, key ∈ (contents machine.store module).keys ↔
    ∃ symbol ∈ machine.registry.symbols module, key = .text symbol
  functions : ∀ (symbol : String) (grant : Nat) (entry : Grant σ),
    (machine.registry.symbolsOf module).lookup symbol = some grant →
    machine.registry.grants[grant]? = some entry →
    (contents machine.store module).get (.text symbol) =
      .function (if entry.live = true then .capability grant
        else .standIn entry.capability.neutral)

/-- Scripts find exactly the symbols of a module, and a function runs exactly if it is live. -/
structure Mirrors (machine : Script.Machine σ) (module : String) : Prop where
  table : ∃ id, moduleValue machine.store module = .table id
  keys : ∀ key, key ∈ (contents machine.store module).keys ↔
    ∃ symbol ∈ machine.registry.symbols module, key = .text symbol
  functions : ∀ symbol ∈ machine.registry.symbols module, ∃ callable capability,
    capability.symbol = symbol ∧
      (contents machine.store module).get (.text symbol) = .function callable ∧
      ∀ moment, SameRegistry machine moment →
        if machine.registry.isLive module symbol then Runs moment callable capability
        else IsInert moment callable capability.neutral

section Runs

variable {machine after : Script.Machine σ} {module : String}

theorem Shows.mirrors (shows : Shows machine module) (recorded : machine.registry.Recorded) :
    Mirrors machine module := by
  refine ⟨shows.table, shows.keys, fun symbol known => ?_⟩
  obtain ⟨grant, looked⟩ := Registry.mem_symbols_iff.mp known
  obtain ⟨entry, found, owned, named⟩ :=
    recorded module symbol grant (Text.mem_of_lookup_eq_some looked)
  refine ⟨_, entry.capability, named, shows.functions symbol grant entry looked found,
    fun moment same => ?_⟩
  rw [Registry.isLive_of_lookup looked, Registry.isLiveGrant_of_getElem? found]
  rw [← show moment.registry = machine.registry from same] at found
  by_cases live : entry.live = true
  · rw [if_pos live, if_pos live]
    exact runs_of_live found live
  · rw [if_neg live, if_neg live]
    exact isInert_standIn moment entry.capability.neutral

/-- What a publication puts in place. -/
theorem shows_of_publish (tidy : Tidy machine.store) {capabilities : List (Capability σ)}
    (store : after.store = withModule machine.store module
      (machine.registry.offered module capabilities))
    (registry : after.registry = machine.registry.published module capabilities) :
    Shows after module := by
  have offered := contents_of_publish tidy store
  have symbols : after.registry.symbolsOf module =
      sortGrants (machine.registry.handedOut module capabilities) := by
    rw [registry, Registry.symbolsOf_published, if_pos rfl]
  refine ⟨⟨machine.store.tables.size, ?_⟩, fun key => ?_, fun symbol grant entry looked found => ?_⟩
  · rw [store, moduleValue_withModule tidy, if_pos rfl]
  · have same : ∀ symbol, symbol ∈ after.registry.symbols module ↔
        symbol ∈ capabilities.map Capability.symbol := by
      intro symbol
      rw [Registry.symbols, symbols, ← Text.isSome_lookup_iff, lookup_sortGrants,
        Text.isSome_lookup_iff, List.map_reverse, List.mem_reverse, Registry.map_fst_handedOut]
    rw [offered, keys_offered]
    simp only [same]
  · rw [symbols, lookup_sortGrants] at looked
    have handed := List.mem_reverse.mp (Text.mem_of_lookup_eq_some looked)
    obtain ⟨capability, _, _, live⟩ := Registry.getElem?_of_handedOut handed
    rw [registry, live, Option.some.injEq] at found
    subst found
    rw [offered, Registry.offered, get_moduleEntries, looked]
    rfl

/-- What an operation on one module leaves of another. -/
theorem Shows.of_same (shows : Shows machine module)
    (value : moduleValue after.store module = moduleValue machine.store module)
    (same : contents after.store module = contents machine.store module)
    (symbols : after.registry.symbolsOf module = machine.registry.symbolsOf module)
    (entries : ∀ symbol grant entry, (symbol, grant) ∈ machine.registry.symbolsOf module →
      after.registry.grants[grant]? = some entry → machine.registry.grants[grant]? = some entry) :
    Shows after module := by
  refine ⟨?_, fun key => ?_, fun symbol grant entry looked found => ?_⟩
  · rw [value]
    exact shows.table
  · rw [same, Registry.symbols, symbols]
    exact shows.keys key
  · rw [symbols] at looked
    rw [same]
    exact shows.functions symbol grant entry looked
      (entries symbol grant entry (Text.mem_of_lookup_eq_some looked) found)

theorem Shows.of_published (shows : Shows machine module) (tidy : Tidy machine.store)
    (recorded : machine.registry.Recorded) {owner : String} (different : module ≠ owner)
    {capabilities : List (Capability σ)}
    (store : after.store = withModule machine.store owner
      (machine.registry.offered owner capabilities))
    (registry : after.registry = machine.registry.published owner capabilities) :
    Shows after module := by
  refine shows.of_same ?_ ?_ ?_ fun symbol grant entry member found => ?_
  · rw [store, moduleValue_withModule tidy, if_neg different]
  · rw [store, contents_withModule_of_ne tidy owner different]
  · rw [registry, Registry.symbolsOf_published, if_neg different]
  · obtain ⟨before, foundBefore, _⟩ := recorded module symbol grant member
    have retired : ∀ id ∈ (machine.registry.symbolsOf owner).map Prod.snd,
        ∃ other, (other, id) ∈ machine.registry.symbolsOf owner := by
      intro id switched
      obtain ⟨⟨other, _⟩, listed, rfl⟩ := List.mem_map.mp switched
      exact ⟨other, listed⟩
    have spared := recorded.not_contains different member retired
    rw [registry, Registry.getElem?_published_of_getElem? foundBefore, spared, Bool.not_false,
      Bool.and_true] at found
    rw [foundBefore]
    exact found

section Retracted

variable {owner : String} {symbols : List String} (tidy : Tidy machine.store)
  (recorded : machine.registry.Recorded)
  (store : after.store = (ensureModule machine.store owner).2.modifyTable
    (ensureModule machine.store owner).1 fun table => table.setFunctions .standIn
      (standIns machine.registry (machine.registry.symbolsOf owner) symbols))
  (registry : after.registry = machine.registry.retracted owner symbols)
include tidy recorded store registry

theorem Shows.of_retracted_of_ne (shows : Shows machine module) (different : module ≠ owner) :
    Shows after module := by
  have placed := standInsPlaced_of_retract tidy recorded store
  obtain ⟨value, same⟩ := placed.others module different
  refine shows.of_same value same ?_ fun symbol grant entry member found => ?_
  · rw [registry, Registry.symbolsOf_retracted]
  · obtain ⟨before, foundBefore, _⟩ := recorded module symbol grant member
    have retired : ∀ id ∈ symbols.filterMap fun symbol =>
          (machine.registry.symbolsOf owner).lookup symbol,
        ∃ other, (other, id) ∈ machine.registry.symbolsOf owner := by
      intro id switched
      obtain ⟨other, _, looked⟩ := List.mem_filterMap.mp switched
      exact ⟨other, Text.mem_of_lookup_eq_some looked⟩
    have spared := recorded.not_contains different member retired
    rw [registry, Registry.getElem?_retracted_of_getElem? foundBefore, spared, Bool.not_false,
      Bool.and_true] at found
    rw [foundBefore]
    exact found

theorem Shows.of_retracted (shows : Shows machine owner) : Shows after owner := by
  have placed := standInsPlaced_of_retract tidy recorded store
  have reached := contents_of_retract tidy store
  have sameSymbols : after.registry.symbolsOf owner = machine.registry.symbolsOf owner := by
    rw [registry, Registry.symbolsOf_retracted]
  refine ⟨placed.table, fun key => ?_, fun symbol grant entry looked found => ?_⟩
  · rw [reached, Table.mem_keys_setFunctions, Registry.symbols, sameSymbols]
    -- Stand-ins only take the places of functions that are there.
    refine (or_iff_left_of_imp ?_).trans (shows.keys key)
    rintro ⟨entry, member, rfl⟩
    exact (shows.keys _).mpr ⟨entry.1, (mem_symbols_of_mem_standIns member).2, rfl⟩
  · rw [sameSymbols] at looked
    obtain ⟨before, foundBefore, _, named⟩ :=
      recorded owner symbol grant (Text.mem_of_lookup_eq_some looked)
    rw [registry, Registry.getElem?_retracted_of_getElem? foundBefore, Option.some.injEq] at found
    subst found
    rw [reached]
    dsimp only
    by_cases listed : symbol ∈ symbols
    · rw [Registry.contains_filterMap_lookup looked listed, get_standIns listed looked foundBefore,
        Bool.not_true, Bool.and_false]
      rfl
    · have spared : (symbols.filterMap fun symbol =>
          (machine.registry.symbolsOf owner).lookup symbol).contains grant = false := by
        rw [← Bool.not_eq_true, List.contains_iff_mem]
        intro switched
        obtain ⟨other, listedOther, lookedOther⟩ := List.mem_filterMap.mp switched
        obtain ⟨_, foundOther, _, namedOther⟩ :=
          recorded owner other grant (Text.mem_of_lookup_eq_some lookedOther)
        rw [foundBefore, Option.some.injEq] at foundOther
        subst foundOther
        exact listed (named.symm.trans namedOther ▸ listedOther)
      have unnamed : ∀ entry ∈ standIns machine.registry (machine.registry.symbolsOf owner) symbols,
          Key.text symbol ≠ .text entry.1 := by
        intro entry member same
        rw [Key.text.injEq] at same
        exact listed (same ▸ (mem_symbols_of_mem_standIns member).1)
      rw [Table.get_setFunctions_of_ne .standIn _ _ unnamed, spared, Bool.not_false, Bool.and_true]
      exact shows.functions symbol grant before looked foundBefore

end Retracted

/-- What an action makes of a tidy machine. -/
inductive Became (action : Action σ) (machine after : Script.Machine σ) : Prop where
  | published (module : String) (capabilities : List (Capability σ))
      (store : after.store = withModule machine.store module
        (machine.registry.offered module capabilities))
      (registry : after.registry = machine.registry.published module capabilities)
  | retracted (module : String) (symbols : List String)
      (store : after.store = (ensureModule machine.store module).2.modifyTable
        (ensureModule machine.store module).1 fun table => table.setFunctions .standIn
          (standIns machine.registry (machine.registry.symbolsOf module) symbols))
      (registry : after.registry = machine.registry.retracted module symbols)
  | unchanged (store : after.store = machine.store) (registry : after.registry = machine.registry)
  | scripted (script : action.module? = none) (registry : after.registry = machine.registry)

theorem became_of_retract {action : Action σ} (tidy : Tidy machine.store) {symbols : List String}
    (ended : (retract module symbols).start machine = (.ok (), after)) :
    Became action machine after := by
  by_cases known : machine.registry.isPublished module = true
  · obtain ⟨_, ended', store⟩ := start_retract_of_tidy tidy known symbols
    obtain rfl := (Prod.mk.inj (ended'.symm.trans ended)).2
    exact .retracted module symbols store (registry_of_retract ended)
  · obtain ⟨_, ended', store, registry⟩ := start_retract_of_not_isPublished known symbols
    obtain rfl := (Prod.mk.inj (ended'.symm.trans ended)).2
    exact .unchanged store registry

theorem became_of_step {action : Action σ} (tidy : Tidy machine.store)
    (ended : action.step.start machine = (.ok (), after)) : Became action machine after := by
  cases action with
  | publish module capabilities =>
      obtain ⟨_, ended', store⟩ := start_publish_of_tidy tidy module capabilities
      obtain rfl := (Prod.mk.inj (ended'.symm.trans ended)).2
      exact .published module capabilities store (registry_of_publish ended)
  | retract module symbols => exact became_of_retract tidy ended
  | retractAll module => exact became_of_retract tidy ((start_retractAll module).symm.trans ended)
  | script _ _ | call _ _ | overwrite _ => exact .scripted rfl (Action.registry_of_step ended)

theorem Became.tidy {action : Action σ} (became : Became action machine after)
    (tidy : Tidy machine.store) (script : action.module? = none → Tidy after.store) :
    Tidy after.store := by
  cases became with
  | published module capabilities store _ =>
      obtain ⟨reads, writes⟩ := handlers_offered machine.registry module capabilities
      rw [store]
      exact tidy_withModule tidy module reads writes
  | retracted module symbols store _ =>
      have ensured := ensured_ensureModule tidy module
      rw [store]
      exact tidy_changeContents ensured.tidy (Table.keepsHandlers_setFunctions .standIn _)
        ensured.placed
  | unchanged store _ =>
      rw [store]
      exact tidy
  | scripted isScript _ => exact script isScript

theorem Became.recorded {action : Action σ} (became : Became action machine after)
    (recorded : machine.registry.Recorded) : after.registry.Recorded := by
  cases became with
  | published module capabilities _ registry =>
      rw [registry]
      exact recorded.published module capabilities
  | retracted module symbols _ registry =>
      rw [registry]
      exact recorded.retracted module symbols
  | unchanged _ registry | scripted _ registry =>
      rw [registry]
      exact recorded

theorem Reached.sound (reached : Reached LeavesTidy machine) :
    Tidy machine.store ∧ machine.registry.Recorded := by
  induction reached with
  | start empty tidy => exact ⟨tidy, empty ▸ Registry.recorded_empty⟩
  | act _ action ended script ih =>
      obtain ⟨tidy, recorded⟩ := ih
      have became := became_of_step tidy ended
      exact ⟨became.tidy tidy script, became.recorded recorded⟩

theorem Reached.shows (reached : Reached LeavesNamespace machine) :
    Tidy machine.store ∧ machine.registry.Recorded ∧
      ∀ module, machine.registry.isPublished module = true → Shows machine module := by
  induction reached with
  | start empty tidy =>
      refine ⟨tidy, empty ▸ Registry.recorded_empty, fun module known => ?_⟩
      rw [empty] at known
      cases known
  | @act machine after _ action ended script ih =>
      obtain ⟨tidy, recorded, shows⟩ := ih
      have became := became_of_step tidy ended
      refine ⟨became.tidy tidy fun isScript => (script isScript).tidy, became.recorded recorded,
        fun module known => ?_⟩
      cases became with
      | published owner capabilities store registry =>
          by_cases same : module = owner
          · subst same
            exact shows_of_publish tidy store registry
          · rw [registry, Registry.isPublished_published] at known
            exact (shows module (known.resolve_left same)).of_published tidy recorded same store
              registry
      | retracted owner symbols store registry =>
          rw [registry, Registry.isPublished_retracted] at known
          by_cases same : module = owner
          · subst same
            exact (shows module known).of_retracted tidy recorded store registry
          · exact (shows module known).of_retracted_of_ne tidy recorded store registry same
      | unchanged store registry =>
          rw [registry] at known
          refine (shows module known).of_same ?_ ?_ ?_ fun symbol grant entry member found => ?_
          · rw [store]
          · rw [store]
          · rw [registry]
          · rwa [registry] at found
      | scripted isScript registry =>
          rw [registry] at known
          obtain ⟨_, values, contents⟩ := script isScript
          refine (shows module known).of_same (values module) (contents module) ?_
            fun symbol grant entry member found => ?_
          · rw [registry]
          · rwa [registry] at found

/-- Whatever scripts leave in the places of the modules, as long as it is tidy: a publication puts a
new table with exactly its functions in place, and a retraction puts stand-ins for its symbols and
changes nothing else. Assignments of scripts keep the places tidy if they put no table with handlers
and no table twice. As long as scripts write nothing there, scripts find exactly the symbols of each
published module, and each function runs exactly if it is live. -/
theorem tables_follow_registry (reached : Reached LeavesTidy machine) :
    (∀ (module : String) (capabilities : List (Capability σ)), ∃ after,
      (publish module capabilities).start machine = (.ok (), after) ∧
        TableReplaced module capabilities machine after) ∧
    (∀ (module : String) (symbols : List String), ∃ after,
      (retract module symbols).start machine = (.ok (), after) ∧
        if machine.registry.isPublished module = true then
          StandInsPlaced module symbols machine after
        else after.store = machine.store) ∧
    (∀ (place : Place) (value : Value), place.Admits machine.store value →
      LeavesTidy machine ((Action.script place.assign [value]).step.start machine).2) ∧
    (Reached LeavesNamespace machine → ∀ module, machine.registry.isPublished module = true →
      Mirrors machine module) := by
  obtain ⟨tidy, recorded⟩ := reached.sound
  refine ⟨fun module capabilities => ?_, fun module symbols => ?_, fun place value admitted => ?_,
    fun unwritten module known => ?_⟩
  · obtain ⟨after, ended, store⟩ := start_publish_of_tidy tidy module capabilities
    exact ⟨after, ended, tableReplaced_of_publish tidy store (registry_of_publish ended)⟩
  · by_cases known : machine.registry.isPublished module = true
    · obtain ⟨after, ended, store⟩ := start_retract_of_tidy tidy known symbols
      refine ⟨after, ended, ?_⟩
      rw [if_pos known]
      exact standInsPlaced_of_retract tidy recorded store
    · obtain ⟨after, ended, store, _⟩ := start_retract_of_not_isPublished known symbols
      refine ⟨after, ended, ?_⟩
      rw [if_neg known]
      exact store
  · unfold LeavesTidy Action.step
    rw [Action.start_quietly]
    exact Place.tidy_assign tidy admitted
  · obtain ⟨_, _, shows⟩ := unwritten.shows
    exact (shows module known).mirrors recorded

end Runs

namespace ClobberedModules

/-! A script puts a truth value in the place of all modules, and one function is retracted. -/

def go : Capability Counters := Probe.bump.capability "go" "moves"

def ready : Capability Counters := Probe.ready.capability "ready" "moves"

def fresh : Script.Machine Counters := { native := [] }

def published : Script.Machine Counters :=
  ((Action.publish "drive" [go, ready]).step.start fresh).2

def clobbered : Script.Machine Counters :=
  ((Action.script Place.root.assign [.boolean true]).step.start published).2

theorem reached_published {permitted : Script.Machine Counters → Script.Machine Counters → Prop} :
    Reached permitted published := by
  have initial : Reached permitted fresh := .start rfl tidy_initial
  exact initial.act (.publish "drive" [go, ready]) rfl nofun

theorem reached_clobbered : Reached LeavesTidy clobbered := by
  have before : Reached LeavesTidy published := reached_published
  obtain ⟨tidy, _⟩ := before.sound
  refine before.act (.script Place.root.assign [.boolean true]) rfl fun _ => ?_
  exact Place.tidy_assign tidy (show Place.root.Admits published.store (.boolean true) from nofun)

end ClobberedModules

open ClobberedModules in
/-- The command is inert and in its place, and the question is gone until it is published again. -/
theorem clobbered_module_gets_stand_in :
    Mirrors published "drive" ∧
      ∃ after, (retract "drive" ["go"]).start clobbered = (.ok (), after) ∧
        (∃ callable, (contents after.store "drive").get (.text "go") = .function callable ∧
          IsInert after callable .nothing) ∧
        (contents after.store "drive").get (.text "ready") = .nil := by
  have reached : Reached LeavesTidy published := reached_published
  obtain ⟨_, _, _, mirrored⟩ := tables_follow_registry reached
  obtain ⟨_, retractions, _⟩ := tables_follow_registry reached_clobbered
  obtain ⟨after, ended, placed⟩ := retractions "drive" ["go"]
  rw [if_pos (by decide +kernel)] at placed
  refine ⟨mirrored reached_published "drive" (by decide +kernel), after, ended, ?_, ?_⟩
  · obtain ⟨grant, entry, callable, looked, found, _, _, written, inert⟩ :=
      placed.standIns "go" List.mem_cons_self (by decide +kernel)
    obtain rfl := Option.some.inj (looked.symm.trans (show _ = some 0 by decide +kernel))
    obtain rfl := Option.some.inj (found.symm.trans (show _ = some ⟨"drive", go, true⟩ from rfl))
    exact ⟨callable, written, inert after⟩
  · refine (placed.rest (.text "ready") ?_).trans rfl
    intro symbol listed _
    rw [List.mem_singleton.mp listed]
    decide

end ScriptedRobot.Capability
