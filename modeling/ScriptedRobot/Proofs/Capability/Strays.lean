import ScriptedRobot.Proofs.Capability.Replacement
import ScriptedRobot.Proofs.Capability.Retraction
import ScriptedRobot.Script.Steps

/-! # Publications that raise

A publication hands its functions out before it puts the table of them among the modules. A script
may have put a handler there that takes over this write and raises. The publication then ends with
functions that are live but recorded for no module. Such a function is a *stray*: publications and
retractions go by what is recorded, so that no later one comes to it, and whoever was given the
table goes on using it. -/

namespace ScriptedRobot.Capability

open Script (Call Callable Operand Run Store Value)

variable {σ : Type} {machine after : Script.Machine σ}

/-! ## Writes that raise -/

/-- A write that raises has changed nothing, unless a handler was called with the value. -/
theorem start_writeIndex_error {call : Call σ} {limit : Nat} {object : Operand} {name : String}
    {value raised : Value}
    (ended : (Script.writeIndex call limit object (.text name) value).start machine =
      (.error raised, after)) :
    after = machine ∨ ∃ id handler, (machine.store.table id).writeHandler = .function handler ∧
      (call handler [.table id, .text name, value]).start machine = (.error raised, after) := by
  induction limit generalizing object with
  | zero => exact .inl (Prod.mk.inj ended).2.symm
  | succ limit ih =>
      unfold Script.writeIndex at ended
      split at ended
      case h_2 => exact .inl (Prod.mk.inj ended).2.symm
      case h_1 id _ =>
        rw [Run.start_bind, Run.start_readStore] at ended
        dsimp only at ended
        split at ended
        case h_1 handler _ handles =>
          refine .inr ⟨id, handler, handles, ?_⟩
          rw [Run.start_discard] at ended
          rcases ran : (call handler [.table id, .text name, value]).start machine with
            ⟨raisedThere | values, reached⟩
          · rw [ran] at ended
            obtain ⟨same, rfl⟩ := Prod.mk.inj ended
            obtain rfl := Except.error.inj same
            rfl
          · rw [ran] at ended
            cases ended
        -- The table itself takes the value, which never raises.
        case h_2 => cases ended
        case h_3 => exact ih ended
        case h_4 => cases ended

namespace Registry

/-! ## Strays -/

variable {registry : Registry σ} {module : String} {capabilities : List (Capability σ)}

/-- The registry when a publication raised: its functions are handed out and not recorded. -/
def abandoned (registry : Registry σ) (module : String) (capabilities : List (Capability σ)) :
    Registry σ :=
  (handOutAll module capabilities (registry.retire module)).2

theorem isPublished_abandoned (registry : Registry σ) (module : String)
    (capabilities : List (Capability σ)) :
    (registry.abandoned module capabilities).isPublished module = false := by
  unfold isPublished abandoned
  rw [handOutAll_snd, retire_eq]
  dsimp only [withdraw]
  rw [Text.lookup_filter_ne, if_pos rfl]
  rfl

theorem symbolsOf_abandoned (registry : Registry σ) (module other : String)
    (capabilities : List (Capability σ)) :
    (registry.abandoned module capabilities).symbolsOf other =
      if other = module then [] else registry.symbolsOf other := by
  split
  case isTrue same =>
    refine symbolsOf_of_not_isPublished ?_
    rw [same, isPublished_abandoned]
    exact Bool.false_ne_true
  case isFalse different =>
    unfold abandoned
    rw [handOutAll_snd]
    exact symbolsOf_retire different

/-- As far as functions go, a publication that raises does the same as one that ends well. -/
theorem getElem?_abandoned_of_getElem? {grant : Nat} {entry : Grant σ}
    (found : registry.grants[grant]? = some entry) :
    (registry.abandoned module capabilities).grants[grant]? =
      some { entry with
        live := entry.live && !((registry.symbolsOf module).map Prod.snd).contains grant } :=
  getElem?_published_of_getElem? found

theorem getElem?_abandoned_add {position : Nat} {capability : Capability σ}
    (placed : capabilities[position]? = some capability) :
    (registry.abandoned module capabilities).grants[registry.grants.size + position]? =
      some ⟨module, capability, true⟩ := by
  refine (getElem?_published registry module capabilities _).trans ?_
  rw [if_neg (Nat.not_lt.mpr (Nat.le_add_right _ _)), Nat.add_sub_cancel_left, placed]
  rfl

/-- A function is recorded for a symbol of some module. -/
def IsRecorded (registry : Registry σ) (grant : Nat) : Prop :=
  ∃ module symbol, (symbol, grant) ∈ registry.symbolsOf module

/-- A function is live, but recorded for no module. -/
def IsStray (registry : Registry σ) (grant : Nat) : Prop :=
  registry.isLiveGrant grant = true ∧ ¬ registry.IsRecorded grant

/-- A function that no operation of the host will ever switch off: it is off, or a stray. -/
structure Settled (registry : Registry σ) (grant : Nat) (entry : Grant σ) : Prop where
  found : registry.grants[grant]? = some entry
  unrecorded : entry.live = true → ¬ registry.IsRecorded grant

theorem IsStray.settled {grant : Nat} (stray : registry.IsStray grant) :
    ∃ entry, registry.Settled grant entry ∧ entry.live = true := by
  obtain ⟨isLive, unrecorded⟩ := stray
  unfold isLiveGrant at isLive
  cases found : registry.grants[grant]? with
  | none =>
      rw [found] at isLive
      cases isLive
  | some entry =>
      rw [found] at isLive
      exact ⟨entry, ⟨found, fun _ => unrecorded⟩, isLive⟩

/-- What an action makes of the registry, whether it ends well or raises. -/
inductive Becomes (registry : Registry σ) : Registry σ → Prop where
  | unchanged : Becomes registry registry
  | published (module : String) (capabilities : List (Capability σ)) :
      Becomes registry (registry.published module capabilities)
  | abandoned (module : String) (capabilities : List (Capability σ)) :
      Becomes registry (registry.abandoned module capabilities)
  | retracted (module : String) (symbols : List String) :
      Becomes registry (registry.retracted module symbols)

namespace Becomes

variable {later : Registry σ} (becomes : registry.Becomes later)
include becomes

theorem recorded (recorded : registry.Recorded) : later.Recorded := by
  cases becomes with
  | unchanged => exact recorded
  | published module capabilities => exact recorded.published module capabilities
  | retracted module symbols => exact recorded.retracted module symbols
  | abandoned module capabilities =>
      intro owner symbol grant member
      rw [symbolsOf_abandoned] at member
      split at member
      case isTrue => cases member
      case isFalse =>
        obtain ⟨entry, found, owned, named⟩ := recorded owner symbol grant member
        exact ⟨_, getElem?_abandoned_of_getElem? found, owned, named⟩

/-- Only new functions are recorded. -/
theorem isRecorded {grant : Nat} (old : grant < registry.grants.size)
    (recorded : later.IsRecorded grant) : registry.IsRecorded grant := by
  obtain ⟨owner, symbol, member⟩ := recorded
  cases becomes with
  | unchanged => exact ⟨owner, symbol, member⟩
  | retracted module symbols =>
      rw [symbolsOf_retracted] at member
      exact ⟨owner, symbol, member⟩
  | abandoned module capabilities =>
      rw [symbolsOf_abandoned] at member
      split at member
      · cases member
      · exact ⟨owner, symbol, member⟩
  | published module capabilities =>
      rw [symbolsOf_published] at member
      split at member
      case isFalse => exact ⟨owner, symbol, member⟩
      case isTrue =>
        obtain ⟨position, _, _, _, rfl⟩ := mem_handedOut.mp (mem_of_mem_sortGrants member)
        exact absurd old (Nat.not_lt.mpr (Nat.le_add_right _ _))

/-- An operation switches off only what is recorded. -/
theorem getElem? {grant : Nat} {entry : Grant σ} (settled : registry.Settled grant entry) :
    later.grants[grant]? = some entry := by
  -- Whatever the operation switches off, this function either is off or is not among it.
  have spared {retired : List Nat}
      (among : retired.contains grant = true → registry.IsRecorded grant) :
      some { entry with live := entry.live && !retired.contains grant } = some entry := by
    by_cases live : entry.live = true
    · have kept : retired.contains grant = false :=
        Bool.eq_false_iff.mpr fun contained => settled.unrecorded live (among contained)
      rw [kept, Bool.not_false, Bool.and_true]
    · rw [Bool.eq_false_iff.mpr live, Bool.false_and]
      obtain ⟨module, capability, isLive⟩ := entry
      obtain rfl := Bool.eq_false_iff.mpr live
      rfl
  have amongSymbols (module : String)
      (contained : ((registry.symbolsOf module).map Prod.snd).contains grant = true) :
      registry.IsRecorded grant := by
    obtain ⟨⟨symbol, _⟩, member, rfl⟩ := List.mem_map.mp (List.contains_iff_mem.mp contained)
    exact ⟨module, symbol, member⟩
  cases becomes with
  | unchanged => exact settled.found
  | published module capabilities =>
      exact (getElem?_published_of_getElem? settled.found).trans (spared (amongSymbols module))
  | abandoned module capabilities =>
      exact (getElem?_abandoned_of_getElem? settled.found).trans (spared (amongSymbols module))
  | retracted module symbols =>
      refine (getElem?_retracted_of_getElem? settled.found).trans (spared fun contained => ?_)
      obtain ⟨symbol, _, looked⟩ := List.mem_filterMap.mp (List.contains_iff_mem.mp contained)
      exact ⟨module, symbol, Text.mem_of_lookup_eq_some looked⟩

theorem settled {grant : Nat} {entry : Grant σ} (settled : registry.Settled grant entry) :
    later.Settled grant entry where
  found := becomes.getElem? settled
  unrecorded live recorded :=
    settled.unrecorded live
      (becomes.isRecorded (Array.getElem?_eq_some_iff.mp settled.found).1 recorded)

end Becomes

/-- A live function that is not recorded for the module it was handed out for is a stray. -/
theorem Recorded.isStray (recorded : registry.Recorded) {grant : Nat} {entry : Grant σ}
    (found : registry.grants[grant]? = some entry) (live : entry.live = true)
    (unrecorded : ((registry.symbolsOf entry.module).map Prod.snd).contains grant = false) :
    registry.IsStray grant := by
  refine ⟨(isLiveGrant_of_getElem? found).trans live, ?_⟩
  rintro ⟨owner, symbol, member⟩
  obtain ⟨same, foundSame, owned, _⟩ := recorded owner symbol grant member
  rw [found, Option.some.injEq] at foundSame
  rw [foundSame, owned, List.contains_iff_mem.mpr (List.mem_map_of_mem member)] at unrecorded
  cases unrecorded

/-- After a publication that ends well, a function of the module is live that was a stray before
or that belongs to the publication, and a retraction of the whole module leaves the strays. -/
theorem isStray_of_retracted {others : List (Capability σ)} {grant : Nat} {entry : Grant σ}
    (recorded : registry.Recorded) (distinct : (others.map Capability.symbol).Nodup)
    (found : ((registry.published module others).retracted module
      ((registry.published module others).symbols module)).grants[grant]? = some entry)
    (owned : entry.module = module) (live : entry.live = true) : registry.IsStray grant := by
  have inside : grant < (registry.published module others).grants.size := by
    have reached := (Array.getElem?_eq_some_iff.mp found).1
    rwa [retracted, size_switchOffAll] at reached
  have before := Array.getElem?_eq_getElem inside
  generalize (registry.published module others).grants[grant] = published at before
  rw [getElem?_retracted_of_getElem? before, Option.some.injEq] at found
  subst found
  obtain ⟨wasLive, unretracted⟩ := Bool.and_eq_true_iff.mp live
  have unrecorded : ∀ symbol,
      ((registry.published module others).symbolsOf module).lookup symbol ≠ some grant := by
    intro symbol looked
    have member : symbol ∈ (registry.published module others).symbols module :=
      mem_symbols_iff.mpr ⟨grant, looked⟩
    rw [contains_filterMap_lookup looked member] at unretracted
    cases unretracted
  rw [getElem?_published] at before
  split at before
  case isTrue old =>
    obtain ⟨first, foundFirst, rfl⟩ := Option.map_eq_some_iff.mp before
    obtain ⟨isLive, unretired⟩ := Bool.and_eq_true_iff.mp wasLive
    refine recorded.isStray foundFirst isLive ?_
    rw [show first.module = module from owned]
    simpa only [Bool.not_eq_true'] using unretired
  case isFalse new =>
    obtain ⟨capability, placed, _⟩ := Option.map_eq_some_iff.mp before
    have handed : (capability.symbol, grant) ∈ registry.handedOut module others :=
      mem_handedOut.mpr ⟨_, capability, placed, rfl, Nat.add_sub_cancel' (Nat.not_lt.mp new)⟩
    refine absurd ?_ (unrecorded capability.symbol)
    rw [symbolsOf_published, if_pos rfl, lookup_sortGrants_of_nodup (nodup_handedOut distinct)]
    exact Text.lookup_eq_some_of_mem (nodup_handedOut distinct) handed

end Registry

/-! ## What a publication leaves behind when it raises -/

/-- The machine when a publication is about to put its table among the modules. -/
def handedOver (machine : Script.Machine σ) (module : String)
    (capabilities : List (Capability σ)) : Script.Machine σ :=
  { machine with
    store := (machine.store.newTable (machine.registry.offered module capabilities)).2
    registry := machine.registry.abandoned module capabilities }

/-- A publication raises while the table of modules is looked for, or while its own table is put
among the modules. -/
theorem start_publish_error {module : String} {capabilities : List (Capability σ)} {raised : Value}
    (failed : (publish module capabilities).start machine = (.error raised, after)) :
    rootTable.start (handedOver machine module capabilities) = (.error raised, after) ∨
      ∃ root rooted, rootTable.start (handedOver machine module capabilities) = (.ok root, rooted) ∧
        (Run.setIndex root (.text module) (.table machine.store.tables.size)).start rooted =
          (.error raised, after) := by
  unfold publish at failed
  rw [Run.start_bind, start_changeRegistry] at failed
  dsimp only at failed
  rw [Run.start_bind, Run.start_modifyGet] at failed
  dsimp only at failed
  rw [Run.start_bind] at failed
  unfold Run.newTable at failed
  rw [Run.start_modifyGet] at failed
  dsimp only at failed
  rw [Run.start_bind_error] at failed
  obtain failed | ⟨root, rooted, found, failed⟩ := failed
  · exact .inl failed
  rw [Run.start_bind_error] at failed
  obtain failed | ⟨_, _, _, failed⟩ := failed
  case inr => cases failed
  exact .inr ⟨root, rooted, found, failed⟩

/-- Whichever handler raised, the registry is as the publication left it. -/
theorem registry_of_publish_error {module : String} {capabilities : List (Capability σ)}
    {raised : Value}
    (failed : (publish module capabilities).start machine = (.error raised, after)) :
    after.registry = machine.registry.abandoned module capabilities := by
  obtain failed | ⟨root, rooted, found, failed⟩ := start_publish_error failed
  · exact sameRegistry_closed.keeps_rootTable.of_start failed
  · have looked : rooted.registry = machine.registry.abandoned module capabilities :=
      sameRegistry_closed.keeps_rootTable.of_start found
    have written : after.registry = rooted.registry :=
      (sameRegistry_closed.keeps_setIndex _ _ _).of_start failed
    exact written.trans looked

namespace Action

/-- Take actions one after the other, whether they end well or raise. -/
def attempt (actions : List (Action σ)) (machine : Script.Machine σ) : Script.Machine σ :=
  actions.foldl (fun machine action => (action.step.start machine).2) machine

theorem becomes_of_step (action : Action σ) (machine : Script.Machine σ) :
    machine.registry.Becomes (action.step.start machine).2.registry := by
  have sameOf {step : Run σ Unit} (kept : step.Keeps SameRegistry) :
      machine.registry.Becomes (step.start machine).2.registry := by
    rw [show (step.start machine).2.registry = machine.registry from kept machine]
    exact .unchanged
  have retracted (module : String) (symbols : List String) :
      machine.registry.Becomes ((Capability.retract module symbols).start machine).2.registry := by
    obtain ⟨done, _, registry⟩ := start_retract machine module symbols
    rw [registry]
    exact .retracted module done
  cases action with
  | publish module capabilities =>
      rcases ended : (Capability.publish module capabilities).start machine with ⟨raised | _, after⟩
      · rw [step, ended, registry_of_publish_error ended]
        exact .abandoned module capabilities
      · rw [step, ended, registry_of_publish ended]
        exact .published module capabilities
  | retract module symbols => exact retracted module symbols
  | retractAll module =>
      rw [step, start_retractAll]
      exact retracted module _
  | script chunk arguments =>
      exact sameOf (quietly_sameRegistry (sameRegistry_closed.keeps_chunk _ _))
  | call callable arguments =>
      exact sameOf (quietly_sameRegistry (sameRegistry_closed.keeps_call _ _))
  | overwrite change => exact sameOf (sameRegistry_closed.keeps_changeStore change)

theorem recorded_attempt (actions : List (Action σ)) (recorded : machine.registry.Recorded) :
    (attempt actions machine).registry.Recorded := by
  induction actions generalizing machine with
  | nil => exact recorded
  | cons action rest ih => exact ih ((becomes_of_step action machine).recorded recorded)

/-- What is settled stays settled, whatever happens to the machine. -/
theorem settled_attempt (actions : List (Action σ)) {grant : Nat} {entry : Grant σ}
    (settled : machine.registry.Settled grant entry) :
    (attempt actions machine).registry.Settled grant entry := by
  induction actions generalizing machine with
  | nil => exact settled
  | cons action rest ih => exact ih ((becomes_of_step action machine).settled settled)

end Action

/-- What a publication that raised leaves behind. -/
structure Abandons (module : String) (capabilities : List (Capability σ))
    (before after : Script.Machine σ) : Prop where
  not_published : after.registry.isPublished module = false
  not_live : ∀ symbol, after.registry.isLive module symbol = false
  /-- Other modules have the symbols they had, each as live as it was. -/
  others : ∀ owner, owner ≠ module →
    after.registry.symbols owner = before.registry.symbols owner ∧
    ∀ symbol, after.registry.isLive owner symbol = before.registry.isLive owner symbol
  /-- What was handed out for the module before is inert for good, unless it was a stray. -/
  inert : ∀ (grant : Nat) (entry : Grant σ), before.registry.grants[grant]? = some entry →
    entry.module = module → ¬ before.registry.IsStray grant →
    ∀ actions moment, SameRegistry (Action.attempt actions after) moment →
      IsInert moment (.capability grant) entry.capability.neutral
  /-- The functions in the table that was handed over run for good. -/
  runs : ∀ (position : Nat) (capability : Capability σ),
    capabilities[position]? = some capability →
    ((capabilities.map Capability.symbol).Nodup →
      (before.registry.offered module capabilities).get (.text capability.symbol) =
        .function (.capability (before.registry.grants.size + position))) ∧
    ∀ actions moment, SameRegistry (Action.attempt actions after) moment →
      Runs moment (.capability (before.registry.grants.size + position)) capability
  /-- When the module is published and retracted later, only the strays survive. -/
  survives : ∀ (actions : List (Action σ)) (replacements : List (Capability σ))
    (published retracted : Script.Machine σ),
    (replacements.map Capability.symbol).Nodup →
    (publish module replacements).start (Action.attempt actions after) = (.ok (), published) →
    (retractAll module).start published = (.ok (), retracted) →
    ∀ (grant : Nat) (entry : Grant σ), retracted.registry.grants[grant]? = some entry →
      entry.module = module →
      (entry.live = true ↔ (Action.attempt actions after).registry.IsStray grant)

/-- How a publication comes to raise. -/
inductive Interrupted (module : String) (capabilities : List (Capability σ))
    (before : Script.Machine σ) (raised : Value) : Script.Machine σ → Prop where
  /-- The table of modules could not be got hold of, because of a handler of the table of global
  names. No script has seen the functions. -/
  | unrooted {after : Script.Machine σ}
      (guarded : ¬ GlobalsUnguarded (handedOver before module capabilities).store)
      (raises : rootTable.start (handedOver before module capabilities) = (.error raised, after)) :
      Interrupted module capabilities before raised after
  /-- The table of modules cannot be written, and no script has seen the functions. -/
  | refused {root : Value} {rooted : Script.Machine σ}
      (found : rootTable.start (handedOver before module capabilities) = (.ok root, rooted)) :
      Interrupted module capabilities before raised rooted
  /-- A handler that was given the functions raised. -/
  | handled {root : Value} {id : Nat} {handler : Callable} {rooted after : Script.Machine σ}
      (found : rootTable.start (handedOver before module capabilities) = (.ok root, rooted))
      (handles : (rooted.store.table id).writeHandler = .function handler)
      (raises : (Run.call handler [.table id, .text module, .table before.store.tables.size]).start
        rooted = (.error raised, after)) :
      Interrupted module capabilities before raised after

theorem interrupted_of_publish {module : String} {capabilities : List (Capability σ)}
    {raised : Value}
    (failed : (publish module capabilities).start machine = (.error raised, after)) :
    Interrupted module capabilities machine raised after := by
  obtain failed | ⟨root, rooted, found, failed⟩ := start_publish_error failed
  · refine .unrooted (fun unguarded => ?_) failed
    rw [start_rootTable unguarded] at failed
    cases failed
  obtain rfl | ⟨id, handler, handles, raises⟩ := start_writeIndex_error failed
  · exact .refused found
  · exact .handled found handles raises

namespace Registry

variable {registry : Registry σ} (recorded : registry.Recorded) (module : String)
  (capabilities : List (Capability σ))
include recorded

/-- A publication that raises spares the functions of other modules. -/
theorem Recorded.isLive_abandoned {owner : String} (different : owner ≠ module) (symbol : String) :
    (registry.abandoned module capabilities).isLive owner symbol =
      registry.isLive owner symbol := by
  have kept : (registry.abandoned module capabilities).symbolsOf owner = registry.symbolsOf owner :=
    (symbolsOf_abandoned registry module owner capabilities).trans (if_neg different)
  cases looked : (registry.symbolsOf owner).lookup symbol with
  | none => rw [isLive_of_lookup_none looked, isLive_of_lookup_none (kept ▸ looked)]
  | some grant =>
      have member := Text.mem_of_lookup_eq_some looked
      obtain ⟨entry, found, _, _⟩ := recorded owner symbol grant member
      have spared : ((registry.symbolsOf module).map Prod.snd).contains grant = false :=
        recorded.not_contains different member fun id retired => by
          obtain ⟨⟨other, _⟩, memberOther, rfl⟩ := List.mem_map.mp retired
          exact ⟨other, memberOther⟩
      have foundAfter : (registry.abandoned module capabilities).grants[grant]? = some entry := by
        rw [getElem?_abandoned_of_getElem? found, spared, Bool.not_false, Bool.and_true]
      rw [isLive_of_lookup looked, isLive_of_lookup (kept ▸ looked), isLiveGrant_of_getElem? found,
        isLiveGrant_of_getElem? foundAfter]

/-- The functions of the publication are strays. -/
theorem Recorded.settled_abandoned_add {position : Nat} {capability : Capability σ}
    (placed : capabilities[position]? = some capability) :
    (registry.abandoned module capabilities).Settled (registry.grants.size + position)
      ⟨module, capability, true⟩ where
  found := getElem?_abandoned_add placed
  unrecorded _ := by
    rintro ⟨owner, symbol, member⟩
    rw [symbolsOf_abandoned] at member
    split at member
    case isTrue => cases member
    case isFalse =>
      obtain ⟨_, found, _, _⟩ := recorded owner symbol _ member
      have inside := (Array.getElem?_eq_some_iff.mp found).1
      exact absurd inside (Nat.not_lt.mpr (Nat.le_add_right _ _))

/-- What was handed out for the module before is off, unless it was a stray. -/
theorem Recorded.settled_abandoned {grant : Nat} {entry : Grant σ}
    (found : registry.grants[grant]? = some entry) (owned : entry.module = module)
    (known : ¬ registry.IsStray grant) :
    (registry.abandoned module capabilities).Settled grant { entry with live := false } where
  found := by
    rw [getElem?_abandoned_of_getElem? found]
    congr 2
    subst owned
    by_cases live : entry.live = true
    · cases contained : ((registry.symbolsOf entry.module).map Prod.snd).contains grant with
      | false => exact absurd (recorded.isStray found live contained) known
      | true => exact Bool.and_false _
    · rw [Bool.eq_false_iff.mpr live]
      exact Bool.false_and _
  unrecorded live := nomatch live

end Registry

/-- After a publication and a retraction of the whole module that end well, exactly those of its
functions are live that were strays before. -/
theorem live_iff_isStray {module : String} {replacements : List (Capability σ)}
    {published retracted : Script.Machine σ} (recorded : machine.registry.Recorded)
    (distinct : (replacements.map Capability.symbol).Nodup)
    (publication : (publish module replacements).start machine = (.ok (), published))
    (retraction : (retractAll module).start published = (.ok (), retracted))
    {grant : Nat} {entry : Grant σ} (found : retracted.registry.grants[grant]? = some entry)
    (owned : entry.module = module) :
    entry.live = true ↔ machine.registry.IsStray grant := by
  constructor
  · intro live
    have registry : retracted.registry = (Action.retractAll module).effect published.registry :=
      Action.registry_of_step retraction
    rw [registry, registry_of_publish publication] at found
    exact Registry.isStray_of_retracted recorded distinct found owned live
  · intro stray
    obtain ⟨kept, settled, live⟩ := stray.settled
    have reached : Action.attempt [.publish module replacements, .retractAll module] machine =
        retracted := by
      change ((retractAll module).start ((publish module replacements).start machine).2).2 = _
      rw [publication, retraction]
    have still := (Action.settled_attempt [.publish module replacements, .retractAll module]
      settled).found
    rw [reached, found, Option.some.injEq] at still
    rw [still]
    exact live

/-- A function that is off and settled is inert for good. -/
theorem isInert_of_settled {grant : Nat} {entry : Grant σ}
    (settled : machine.registry.Settled grant entry) (off : entry.live = false)
    (actions : List (Action σ)) {moment : Script.Machine σ}
    (same : SameRegistry (Action.attempt actions machine) moment) :
    IsInert moment (.capability grant) entry.capability.neutral := by
  have still := (Action.settled_attempt actions settled).found
  rw [← show moment.registry = _ from same] at still
  exact isInert_of_not_live still (off ▸ Bool.false_ne_true)

/-- A function that is live and settled runs for good. -/
theorem runs_of_settled {grant : Nat} {entry : Grant σ}
    (settled : machine.registry.Settled grant entry) (live : entry.live = true)
    (actions : List (Action σ)) {moment : Script.Machine σ}
    (same : SameRegistry (Action.attempt actions machine) moment) :
    Runs moment (.capability grant) entry.capability := by
  have still := (Action.settled_attempt actions settled).found
  rw [← show moment.registry = _ from same] at still
  exact runs_of_live still live

theorem abandons_of_registry {before : Script.Machine σ} {module : String}
    {capabilities : List (Capability σ)} (recorded : before.registry.Recorded)
    (registry : after.registry = before.registry.abandoned module capabilities) :
    Abandons module capabilities before after := by
  have recordedAfter : after.registry.Recorded :=
    registry ▸ (Registry.Becomes.abandoned module capabilities).recorded recorded
  exact {
    not_published := by rw [registry, Registry.isPublished_abandoned]
    not_live := fun symbol => by
      refine Registry.isLive_of_lookup_none ?_
      rw [registry, Registry.symbolsOf_abandoned, if_pos rfl, List.lookup_nil]
    others := fun owner different => by
      refine ⟨?_, fun symbol => ?_⟩
      · rw [Registry.symbols, registry, Registry.symbolsOf_abandoned, if_neg different]
        rfl
      · rw [registry]
        exact recorded.isLive_abandoned module capabilities different symbol
    inert := fun grant entry found owned known actions moment same => by
      have settled := recorded.settled_abandoned module capabilities found owned known
      rw [← registry] at settled
      exact isInert_of_settled settled rfl actions same
    runs := fun position capability placed => by
      refine ⟨fun distinct => ?_, fun actions moment same => ?_⟩
      · have handed : (capability.symbol, before.registry.grants.size + position) ∈
            before.registry.handedOut module capabilities :=
          Registry.mem_handedOut.mpr ⟨position, capability, placed, rfl, rfl⟩
        exact Registry.get_offered distinct handed
      · have settled := recorded.settled_abandoned_add module capabilities placed
        rw [← registry] at settled
        exact runs_of_settled settled rfl actions same
    survives := fun actions replacements published retracted distinct publication retraction grant
        entry found owned =>
      live_iff_isStray (Action.recorded_attempt actions recordedAfter) distinct publication
        retraction found owned }

/-- Whatever happened before, a publication that raises revokes what the module had, and leaves the
functions of its own that it has handed out: they run for good, and no later publication or
retraction comes to them. They are handed out to a handler of a script, unless the table of modules
could not be got hold of or not be written at all. -/
theorem failed_publication_leaves_strays {fresh : Script.Machine σ} (empty : fresh.registry = {})
    (earlier : List (Action σ)) (module : String) (capabilities : List (Capability σ))
    {raised : Value}
    (failed : (publish module capabilities).start (Action.attempt earlier fresh) =
      (.error raised, after)) :
    Abandons module capabilities (Action.attempt earlier fresh) after ∧
      Interrupted module capabilities (Action.attempt earlier fresh) raised after := by
  have recorded : (Action.attempt earlier fresh).registry.Recorded :=
    Action.recorded_attempt earlier (empty ▸ Registry.recorded_empty)
  exact ⟨abandons_of_registry recorded (registry_of_publish_error failed),
    interrupted_of_publish failed⟩

namespace KeptTable

/-! A script gives the table of modules a handler that keeps the table of a publication, as a new
table of modules, and then raises. -/

def go : Capability Counters := Probe.bump.capability "go" "moves"

/-- The table of modules that the script assigns. -/
def keeper : Script.Expr :=
  .withHandlers (.table []) .nil (.function ["modules", "name", "functions"] [
    .setGlobal rootName (.table [.variable "name", .variable "functions"]),
    .evaluate (.raise (.text "no"))])

def earlier : List (Action Counters) := [.script [.setGlobal rootName keeper] []]

def fresh : Script.Machine Counters := { native := [] }

def failed : Except Value Unit × Script.Machine Counters :=
  (publish "drive" [go]).start (Action.attempt earlier fresh)

/-- The script calls what it has kept under the name of the module. -/
def drive : Action Counters := .script [.evaluate (Script.Steps.callSymbol "drive" "go" [])] []

/-- The script calls the function that it found first, and then the module is published and
retracted without complaint. -/
def republished : Except Value Unit × Script.Machine Counters :=
  (Action.steps [drive, .publish "drive" [go], .retractAll "drive"]).start failed.2

end KeptTable

open KeptTable in
/-- The function that the failed publication handed out moves the robot, also after the module was
published and retracted again. -/
theorem kept_table_outlives_retraction :
    failed.1.toOption = none ∧ failed.2.registry.isLive "drive" "go" = false ∧
      republished.1.toOption = some () ∧ republished.2.native = [("moves", 1)] ∧
      republished.2.registry.isLive "drive" "go" = false ∧
      (Action.attempt [.call (.capability 0) []] republished.2).native = [("moves", 2)] := by
  exact ⟨by decide +kernel, by decide +kernel, by decide +kernel, by decide +kernel,
    by decide +kernel, by decide +kernel⟩

open KeptTable in
/-- The function runs whatever happens to the machine. -/
theorem kept_function_runs_for_good :
    fresh.registry = {} ∧ ∃ raised, failed = (.error raised, failed.2) ∧
      ∀ actions, Runs (Action.attempt actions failed.2) (.capability 0) go := by
  have raises : failed.1.toOption = none := by decide +kernel
  rcases ended : failed with ⟨raised | _, after⟩
  · obtain ⟨abandons, _⟩ := failed_publication_leaves_strays rfl earlier "drive" [go] ended
    obtain ⟨_, runs⟩ := abandons.runs 0 go rfl
    exact ⟨rfl, raised, rfl, fun actions => runs actions _ rfl⟩
  · rw [ended] at raises
    cases raises

end ScriptedRobot.Capability
