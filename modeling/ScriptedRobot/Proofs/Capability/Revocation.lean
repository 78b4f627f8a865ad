import ScriptedRobot.Capability.Probe
import ScriptedRobot.Proofs.Capability.Coherence
import ScriptedRobot.Proofs.Capability.Publishing

/-! # Revocation

The host publishes and retracts modules while scripts run, keep functions and overwrite tables. -/

namespace ScriptedRobot.Capability

open Script (Value Callable Call Run ScriptClosed)

variable {σ : Type}

/-- Two machines have the same registry. -/
def SameRegistry (before after : Script.Machine σ) : Prop :=
  after.registry = before.registry

/-- Nothing that a script does changes the registry. -/
theorem sameRegistry_closed : ScriptClosed (SameRegistry (σ := σ)) where
  refl _ := rfl
  trans first second := Eq.trans second first
  objects _ _ := rfl
  shown _ _ := rfl
  perform _ _ _ _ _ _ := rfl

theorem note_sameRegistry (severity : Severity) (message : String) :
    Run.Keeps SameRegistry (note severity message : Run σ Unit) :=
  fun _ => rfl

@[simp] theorem start_changeRegistry (change : Registry σ → Registry σ)
    (machine : Script.Machine σ) :
    (changeRegistry change : Run σ Unit).start machine =
      (.ok (), { machine with registry := change machine.registry }) := rfl

/-- A publication that succeeds records the functions it handed out. -/
theorem registry_of_publish {module : String} {capabilities : List (Capability σ)}
    {machine after : Script.Machine σ}
    (ended : (publish module capabilities).start machine = (.ok (), after)) :
    after.registry = machine.registry.published module capabilities := by
  unfold publish at ended
  simp only [Run.start_bind_ok, start_changeRegistry, Run.start_modifyGet, Prod.mk.injEq,
    true_and, exists_eq_left', Except.ok.injEq] at ended
  obtain ⟨_, _, _, ⟨rfl, rfl⟩, table, made, tableMade, root, rooted, rootMade, _, placed,
    tablePlaced, _, noted, reported, rfl⟩ := ended
  have same : noted.registry = made.registry :=
    sameRegistry_closed.trans (sameRegistry_closed.keeps_rootTable.of_start rootMade) <|
      sameRegistry_closed.trans ((sameRegistry_closed.keeps_setIndex _ _ _).of_start tablePlaced)
        ((note_sameRegistry _ _).of_start reported)
  have fresh := (sameRegistry_closed.keeps_newTable _).of_start tableMade
  dsimp only [SameRegistry] at fresh
  dsimp only
  rw [same, fresh]
  rfl

theorem start_retractGrant {table : Value} {symbol : String} {grant : Nat}
    {machine after : Script.Machine σ}
    (ended : (retractGrant table symbol grant).start machine = (.ok (), after)) :
    after.registry = machine.registry.switchOff grant := by
  unfold retractGrant at ended
  simp only [Run.start_bind_ok, start_changeRegistry, Run.start_get, Prod.mk.injEq,
    true_and, exists_eq_left', Except.ok.injEq] at ended
  obtain ⟨_, _, _, ⟨rfl, rfl⟩, ended⟩ := ended
  split at ended
  · exact (sameRegistry_closed.keeps_setIndex _ _ _).of_start ended
  · exact (sameRegistry_closed.keeps_pure ()).of_start ended

theorem registry_of_retractEach {table : Value} {published : List (String × Nat)}
    {symbols : List String} {machine after : Script.Machine σ} {count : Nat}
    (ended : (retractEach table published symbols).start machine = (.ok count, after)) :
    after.registry =
      machine.registry.switchOffAll (symbols.filterMap fun symbol => published.lookup symbol) := by
  induction symbols generalizing machine after count with
  | nil => exact (sameRegistry_closed.keeps_pure 0).of_start ended
  | cons symbol rest ih =>
      unfold retractEach at ended
      cases looked : published.lookup symbol with
      | none =>
          rw [looked] at ended
          simp only [List.filterMap_cons, looked]
          exact ih ended
      | some grant =>
          rw [looked] at ended
          simp only [Run.start_bind_ok] at ended
          obtain ⟨_, middle, first, count, later, second, last⟩ := ended
          simp only [List.filterMap_cons, looked]
          have kept := (sameRegistry_closed.keeps_pure _).of_start last
          refine kept.trans ((ih second).trans ?_)
          rw [start_retractGrant first]
          rfl

/-- A retraction that succeeds switches off what is recorded for its symbols. -/
theorem registry_of_retract {module : String} {symbols : List String}
    {machine after : Script.Machine σ}
    (ended : (retract module symbols).start machine = (.ok (), after)) :
    after.registry = machine.registry.retracted module symbols := by
  unfold retract at ended
  simp only [Run.start_bind_ok, Run.start_get, Prod.mk.injEq, Except.ok.injEq] at ended
  obtain ⟨_, _, ⟨rfl, rfl⟩, ended⟩ := ended
  split at ended
  case isTrue known =>
    simp only [Run.start_bind_ok] at ended
    obtain ⟨table, found, tableFound, count, retracted, each, noted⟩ := ended
    have reported := (note_sameRegistry _ _).of_start noted
    rw [reported, registry_of_retractEach each,
      (sameRegistry_closed.keeps_moduleTable module).of_start tableFound]
    rfl
  case isFalse unknown =>
    rw [(note_sameRegistry _ _).of_start ended, Registry.retracted,
      Registry.symbolsOf_of_not_isPublished unknown]
    simp only [List.lookup_nil, List.filterMap_none]
    rfl

/-- What happens to a machine: the host publishes or retracts, or a script does something. -/
inductive Action (σ : Type) where
  | publish (module : String) (capabilities : List (Capability σ))
  | retract (module : String) (symbols : List String)
  | retractAll (module : String)
  /-- A script is run. -/
  | script (chunk : Script.Chunk) (arguments : List Value)
  /-- Something is called, whatever it is and whatever it is given. -/
  | call (callable : Callable) (arguments : List Value)
  /-- Objects of the scripts are overwritten in any way. -/
  | overwrite (change : Script.Store → Script.Store)

namespace Action

/-- Run a step of a script and drop what it raises. -/
def quietly {α : Type} (step : Run σ α) : Run σ Unit :=
  tryCatch (discard step) fun _ => return ()

/-- Take an action. Only the operations of the host can fail. -/
def step : Action σ → Run σ Unit
  | .publish module capabilities => Capability.publish module capabilities
  | .retract module symbols => Capability.retract module symbols
  | .retractAll module => Capability.retractAll module
  | .script chunk arguments => quietly (Run.chunk chunk arguments)
  | .call callable arguments => quietly (Run.call callable arguments)
  | .overwrite change => Run.changeStore change

/-- Take actions one after the other. -/
def steps : List (Action σ) → Run σ Unit
  | [] => return ()
  | action :: rest => do
    action.step
    steps rest

/-- The module that an operation is about. -/
def module? : Action σ → Option String
  | .publish module _ | .retract module _ | .retractAll module => some module
  | _ => none

/-- Whether a publication has at most one capability for a symbol. -/
def HasDistinctSymbols : Action σ → Prop
  | .publish _ capabilities => (capabilities.map Capability.symbol).Nodup
  | _ => True

/-- Whether an action revokes the functions handed out for a symbol of a module. -/
def revokes (module symbol : String) : Action σ → Bool
  | .publish other _ | .retractAll other => other == module
  | .retract other symbols => other == module && symbols.contains symbol
  | _ => false

/-- The registry after an action that did not fail. -/
def effect : Action σ → Registry σ → Registry σ
  | .publish module capabilities, registry => registry.published module capabilities
  | .retract module symbols, registry => registry.retracted module symbols
  | .retractAll module, registry => registry.retracted module (registry.symbols module)
  | _, registry => registry

theorem quietly_sameRegistry {α : Type} {step : Run σ α} (kept : step.Keeps SameRegistry) :
    Run.Keeps SameRegistry (quietly step) :=
  sameRegistry_closed.keeps_tryCatch (kept.map _) fun _ => sameRegistry_closed.keeps_pure ()

theorem registry_of_step {action : Action σ} {machine after : Script.Machine σ}
    (ended : action.step.start machine = (.ok (), after)) :
    after.registry = action.effect machine.registry := by
  cases action with
  | publish module capabilities => exact registry_of_publish ended
  | retract module symbols => exact registry_of_retract ended
  | retractAll module =>
      unfold step Capability.retractAll at ended
      simp only [Run.start_bind_ok, Run.start_get, Prod.mk.injEq, Except.ok.injEq] at ended
      obtain ⟨_, _, ⟨rfl, rfl⟩, ended⟩ := ended
      exact registry_of_retract ended
  | script chunk arguments =>
      exact (quietly_sameRegistry (sameRegistry_closed.keeps_chunk _ _)).of_start ended
  | call callable arguments =>
      exact (quietly_sameRegistry (sameRegistry_closed.keeps_call _ _)).of_start ended
  | overwrite change => exact (sameRegistry_closed.keeps_changeStore change).of_start ended

theorem registry_of_steps {actions : List (Action σ)} {machine after : Script.Machine σ}
    (ended : (steps actions).start machine = (.ok (), after)) :
    after.registry = actions.foldl (fun registry action => action.effect registry)
      machine.registry := by
  induction actions generalizing machine with
  | nil => exact (sameRegistry_closed.keeps_pure ()).of_start ended
  | cons action rest ih =>
      unfold steps at ended
      rw [Run.start_bind_ok] at ended
      obtain ⟨_, middle, first, later⟩ := ended
      rw [ih later, registry_of_step first]
      rfl

/-- Only a publication of a module changes which functions are recorded for it. -/
theorem symbolsOf_effect {action : Action σ} {owner : String} (registry : Registry σ)
    (unpublished : ∀ capabilities, action ≠ .publish owner capabilities) :
    (action.effect registry).symbolsOf owner = registry.symbolsOf owner := by
  cases action with
  | publish module capabilities =>
      have different : owner ≠ module := fun same => unpublished capabilities (same ▸ rfl)
      exact (Registry.symbolsOf_published registry module owner capabilities).trans
        (if_neg different)
  | retract module symbols => exact Registry.symbolsOf_switchOffAll registry _ owner
  | retractAll module => exact Registry.symbolsOf_switchOffAll registry _ owner
  | script _ _ | call _ _ | overwrite _ => rfl

theorem symbolsOf_foldl_effect {actions : List (Action σ)} {owner : String}
    (unpublished : ∀ action ∈ actions, ∀ capabilities, action ≠ .publish owner capabilities)
    (registry : Registry σ) :
    (actions.foldl (fun registry action => action.effect registry) registry).symbolsOf owner =
      registry.symbolsOf owner := by
  induction actions generalizing registry with
  | nil => rfl
  | cons action rest ih =>
      refine (ih (fun later member => unpublished later (List.mem_cons_of_mem _ member)) _).trans ?_
      exact symbolsOf_effect registry (unpublished action List.mem_cons_self)

section Effects

variable {registry : Registry σ} (coherent : registry.Coherent)
include coherent

theorem coherent_effect {action : Action σ} (distinct : action.HasDistinctSymbols) :
    (action.effect registry).Coherent := by
  cases action with
  | publish module capabilities => exact coherent.published distinct
  | retract module symbols => exact coherent.retracted
  | retractAll module => exact coherent.retracted
  | script _ _ => exact coherent
  | call _ _ => exact coherent
  | overwrite _ => exact coherent

/-- One action takes the life of exactly the functions it revokes. -/
theorem getElem?_effect (action : Action σ) {grant : Nat} {entry : Grant σ}
    (found : registry.grants[grant]? = some entry) :
    (action.effect registry).grants[grant]? =
      some { entry with
        live := entry.live && !action.revokes entry.module entry.capability.symbol } := by
  cases action with
  | publish module capabilities => exact coherent.getElem?_published found
  | retract module symbols => exact coherent.getElem?_retracted found
  | retractAll module =>
      refine (coherent.getElem?_retracted found).trans ?_
      congr 2
      by_cases live : entry.live = true
      · by_cases same : module = entry.module
        · subst same
          have member : entry.capability.symbol ∈ registry.symbols entry.module :=
            List.mem_map_of_mem (coherent.mem_symbolsOf found live)
          simp only [revokes, beq_self_eq_true, Bool.true_and,
            List.contains_iff_mem.mpr member]
        · simp only [revokes, beq_eq_false_iff_ne.mpr same, Bool.false_and]
      · rw [Bool.not_eq_true] at live
        simp only [live, Bool.false_and]
  | script _ _ | call _ _ | overwrite _ =>
      refine found.trans ?_
      simp only [revokes, Bool.not_false, Bool.and_true]

/-- A run takes the life of exactly the functions that one of its actions revokes. -/
theorem getElem?_foldl_effect {actions : List (Action σ)}
    (distinct : ∀ action ∈ actions, action.HasDistinctSymbols) {grant : Nat} {entry : Grant σ}
    (found : registry.grants[grant]? = some entry) :
    (actions.foldl (fun registry action => action.effect registry) registry).grants[grant]? =
      some { entry with
        live := entry.live &&
          !actions.any (revokes entry.module entry.capability.symbol) } := by
  induction actions generalizing registry entry with
  | nil => simpa only [List.foldl_nil, List.any_nil, Bool.not_false, Bool.and_true] using found
  | cons action rest ih =>
      rw [List.foldl_cons, List.any_cons]
      have first := coherent_effect coherent (distinct action List.mem_cons_self)
      rw [ih first (fun later member => distinct later (List.mem_cons_of_mem _ member))
        (getElem?_effect coherent action found)]
      simp only [Bool.not_or, Bool.and_assoc]

/-- A run keeps a registry coherent. -/
theorem coherent_foldl_effect {actions : List (Action σ)}
    (distinct : ∀ action ∈ actions, action.HasDistinctSymbols) :
    (actions.foldl (fun registry action => action.effect registry) registry).Coherent := by
  induction actions generalizing registry with
  | nil => exact coherent
  | cons action rest ih =>
      exact ih (coherent_effect coherent (distinct action List.mem_cons_self))
        fun later member => distinct later (List.mem_cons_of_mem _ member)

/-- An operation leaves the live symbols of other modules alone. -/
theorem isLive_effect {action : Action σ} {owner : String} (other : action.module? ≠ some owner)
    (symbol : String) :
    (action.effect registry).isLive owner symbol = registry.isLive owner symbol := by
  have kept : (action.effect registry).symbolsOf owner = registry.symbolsOf owner :=
    symbolsOf_effect registry fun capabilities same => other (same ▸ rfl)
  cases looked : (registry.symbolsOf owner).lookup symbol with
  | none =>
      rw [Registry.isLive_of_lookup_none looked, Registry.isLive_of_lookup_none (kept ▸ looked)]
  | some grant =>
      obtain ⟨entry, found, owned, named⟩ :=
        coherent.recorded _ _ _ (Text.mem_of_lookup_eq_some looked)
      have spared : action.revokes entry.module entry.capability.symbol = false := by
        rw [owned]
        cases action with
        | publish module _ | retractAll module =>
            exact beq_eq_false_iff_ne.mpr fun same => other (congrArg some same)
        | retract module symbols =>
            have different : (module == owner) = false :=
              beq_eq_false_iff_ne.mpr fun same => other (congrArg some same)
            simp only [revokes, different, Bool.false_and]
        | script _ _ | call _ _ | overwrite _ => rfl
      rw [Registry.isLive_of_lookup looked, Registry.isLive_of_lookup (kept ▸ looked),
        Registry.isLiveGrant_of_getElem? found,
        Registry.isLiveGrant_of_getElem? (getElem?_effect coherent action found), spared]
      simp only [Bool.not_false, Bool.and_true]

end Effects

end Action

/-- Calls of a function run a capability, at any depth and with any arguments. -/
def Runs (machine : Script.Machine σ) (callable : Callable) (capability : Capability σ) : Prop :=
  ∀ depth arguments, (Script.callAt (depth + 1) callable arguments).start machine =
    (capability.answer (Script.callAt depth) arguments).start machine

/-- Calls of a function raise nothing, change nothing and answer a neutral value, at any depth and
with any arguments. -/
def IsInert (machine : Script.Machine σ) (callable : Callable) (neutral : Script.Neutral) : Prop :=
  ∀ depth arguments, (Script.callAt (depth + 1) callable arguments).start machine =
    (.ok neutral.values, machine)

theorem runs_of_live {machine : Script.Machine σ} {grant : Nat} {entry : Grant σ}
    (found : machine.registry.grants[grant]? = some entry) (live : entry.live = true) :
    Runs machine (.capability grant) entry.capability := by
  intro depth arguments
  refine (Script.start_callGrant _ _ _ _).trans ?_
  rw [found]
  exact if_pos live

theorem isInert_of_not_live {machine : Script.Machine σ} {grant : Nat} {entry : Grant σ}
    (found : machine.registry.grants[grant]? = some entry) (retired : ¬ entry.live = true) :
    IsInert machine (.capability grant) entry.capability.neutral := by
  intro depth arguments
  refine (Script.start_callGrant _ _ _ _).trans ?_
  rw [found]
  exact if_neg retired

/-- The functions of a publication after further actions: each of them is alive until an action
revokes it. -/
theorem getElem?_of_published {registry : Registry σ} (coherent : registry.Coherent)
    {module : String} {capabilities : List (Capability σ)}
    (distinct : (capabilities.map Capability.symbol).Nodup) {later : List (Action σ)}
    (laterDistinct : ∀ action ∈ later, action.HasDistinctSymbols) {capability : Capability σ}
    (member : capability ∈ capabilities) :
    ∃ grant, (capability.symbol, grant) ∈ registry.handedOut module capabilities ∧
      (later.foldl (fun registry action => action.effect registry)
          (registry.published module capabilities)).grants[grant]? =
        some ⟨module, capability, !later.any (Action.revokes module capability.symbol)⟩ := by
  obtain ⟨position, placed⟩ := List.getElem?_of_mem member
  refine ⟨registry.grants.size + position,
    Registry.mem_handedOut.mpr ⟨position, capability, placed, rfl, rfl⟩, ?_⟩
  have found : (registry.published module capabilities).grants[registry.grants.size + position]? =
      some ⟨module, capability, true⟩ := by
    rw [Registry.getElem?_published, if_neg (Nat.not_lt.mpr (Nat.le_add_right _ _)),
      Nat.add_sub_cancel_left, placed]
    rfl
  exact Action.getElem?_foldl_effect (coherent.published distinct) laterDistinct found

/-- What is recorded for a module between two of its publications. -/
theorem lookup_symbolsOf_of_published {registry : Registry σ} {module : String}
    {capabilities : List (Capability σ)}
    (distinct : (capabilities.map Capability.symbol).Nodup) {later : List (Action σ)}
    (unpublished : ∀ action ∈ later, ∀ others, action ≠ .publish module others)
    (symbol : String) :
    ((later.foldl (fun registry action => action.effect registry)
        (registry.published module capabilities)).symbolsOf module).lookup symbol =
      (registry.handedOut module capabilities).lookup symbol := by
  rw [Action.symbolsOf_foldl_effect unpublished, Registry.symbolsOf_published, if_pos rfl,
    lookup_sortGrants_of_nodup (Registry.nodup_handedOut distinct)]

/-- The functions of a publication run what was published until the first revocation, and are
inert from then on, whoever kept them under whatever name, and also in the middle of what a
script does. What the registry tells about a symbol is about the function of the latest
publication, and operations on other modules do not change it. -/
theorem function_runs_until_revoked {fresh before published after : Script.Machine σ}
    {earlier later : List (Action σ)} {module : String} {capabilities : List (Capability σ)}
    (empty : fresh.registry = {})
    (distinct : ∀ action ∈ earlier ++ .publish module capabilities :: later,
      action.HasDistinctSymbols)
    (ranEarlier : (Action.steps earlier).start fresh = (.ok (), before))
    (publication : (publish module capabilities).start before = (.ok (), published))
    (ranLater : (Action.steps later).start published = (.ok (), after)) :
    (∀ capability ∈ capabilities, ∃ grant,
      (before.registry.offered module capabilities).get (.text capability.symbol) =
          .function (.capability grant) ∧
        (∀ moment, SameRegistry after moment →
          if later.any (Action.revokes module capability.symbol) then
            IsInert moment (.capability grant) capability.neutral
          else Runs moment (.capability grant) capability) ∧
        ((∀ action ∈ later, ∀ others, action ≠ .publish module others) →
          after.registry.isLive module capability.symbol =
            !later.any (Action.revokes module capability.symbol))) ∧
      (∀ symbol, symbol ∉ capabilities.map Capability.symbol →
        (∀ action ∈ later, ∀ others, action ≠ .publish module others) →
          after.registry.isLive module symbol = false) ∧
      (∀ owner symbol, (∀ action ∈ earlier ++ .publish module capabilities :: later,
          ∀ others, action ≠ .publish owner others) →
        after.registry.isLive owner symbol = false) ∧
      ∀ (action : Action σ) (next : Script.Machine σ) (owner symbol : String),
        action.step.start after = (.ok (), next) → action.module? ≠ some owner →
          next.registry.isLive owner symbol = after.registry.isLive owner symbol := by
  have beforeIs := Action.registry_of_steps ranEarlier
  have afterIs := Action.registry_of_steps ranLater
  rw [registry_of_publish publication] at afterIs
  rw [empty] at beforeIs
  have distinctEarlier : ∀ action ∈ earlier, action.HasDistinctSymbols :=
    fun action member => distinct action (List.mem_append_left _ member)
  have distinctLater : ∀ action ∈ later, action.HasDistinctSymbols := fun action member =>
    distinct action (List.mem_append_right _ (List.mem_cons_of_mem _ member))
  have distinctHere : (capabilities.map Capability.symbol).Nodup :=
    distinct (.publish module capabilities) (List.mem_append_right _ List.mem_cons_self)
  have coherentBefore : before.registry.Coherent :=
    beforeIs ▸ Action.coherent_foldl_effect Registry.coherent_empty distinctEarlier
  have coherentAfter : after.registry.Coherent :=
    afterIs ▸ Action.coherent_foldl_effect (coherentBefore.published distinctHere) distinctLater
  refine ⟨fun capability member => ?_, fun symbol absent unpublished => ?_,
    fun owner symbol unpublished => ?_, fun action next owner symbol ended other => ?_⟩
  · obtain ⟨grant, handed, found⟩ :=
      getElem?_of_published coherentBefore distinctHere distinctLater member
    rw [← afterIs] at found
    refine ⟨grant, Registry.get_offered distinctHere handed, fun moment same => ?_,
      fun unpublished => ?_⟩
    · rw [← show moment.registry = after.registry from same] at found
      split
      case isTrue revoked =>
        refine isInert_of_not_live found ?_
        simp only [revoked, Bool.not_true, Bool.false_eq_true, not_false_eq_true]
      case isFalse spared =>
        refine runs_of_live found ?_
        simp only [spared, Bool.not_false]
    · have looked : (after.registry.symbolsOf module).lookup capability.symbol = some grant := by
        rw [afterIs, lookup_symbolsOf_of_published distinctHere unpublished]
        exact Text.lookup_eq_some_of_mem (Registry.nodup_handedOut distinctHere) handed
      rw [Registry.isLive_of_lookup looked, Registry.isLiveGrant_of_getElem? found]
  · refine Registry.isLive_of_lookup_none ?_
    rw [afterIs, lookup_symbolsOf_of_published distinctHere unpublished]
    refine Text.lookup_eq_none_of_not_mem ?_
    rw [Registry.map_fst_handedOut]
    exact absent
  · refine Registry.isLive_of_lookup_none ?_
    have nowhere := Action.symbolsOf_foldl_effect unpublished ({} : Registry σ)
    rw [List.foldl_append, List.foldl_cons, ← beforeIs] at nowhere
    rw [afterIs]
    exact (congrArg (List.lookup symbol) nowhere).trans rfl
  · rw [Action.registry_of_step ended]
    exact Action.isLive_effect coherentAfter other symbol

namespace KeptCommand

/-! A script keeps the command `go`, which counts moves, across a retraction. -/

def go : Capability Counters := Probe.bump.capability "go" "moves"

def speed : Capability Counters := Probe.value.capability "speed" "moves"

def fresh : Script.Machine Counters := { native := [] }

def earlier : List (Action Counters) := [.publish "drive" [go], .publish "shooter" [speed]]

def before : Script.Machine Counters := ((Action.steps earlier).start fresh).2

def published : Script.Machine Counters := ((publish "drive" [go, speed]).start before).2

def later : List (Action Counters) :=
  [.call (.capability 2) [], .retract "drive" ["go"], .call (.capability 2) [.text "far"]]

def after : Script.Machine Counters := ((Action.steps later).start published).2

end KeptCommand

open KeptCommand in
/-- The kept command moved once, before it was retracted, and it is inert now. -/
theorem kept_command_is_inert :
    (∃ grant, (before.registry.offered "drive" [go, speed]).get (.text "go") =
        .function (.capability grant) ∧ IsInert after (.capability grant) .nothing) ∧
      after.registry.isLive "drive" "go" = false ∧
      after.registry.isLive "drive" "speed" = true ∧ after.native = [("moves", 1)] := by
  have distinct : ∀ action ∈ earlier ++ .publish "drive" [go, speed] :: later,
      action.HasDistinctSymbols := by
    intro action member
    simp only [earlier, later, List.cons_append, List.nil_append, List.mem_cons,
      List.not_mem_nil, or_false] at member
    rcases member with rfl | rfl | rfl | rfl | rfl | rfl
    · exact List.nodup_singleton _
    · exact List.nodup_singleton _
    · exact (by decide : ["go", "speed"].Nodup)
    · exact trivial
    · exact trivial
    · exact trivial
  have ranEarlier : (Action.steps earlier).start fresh = (.ok (), before) := rfl
  have publication : (publish "drive" [go, speed]).start before = (.ok (), published) := rfl
  have ranLater : (Action.steps later).start published = (.ok (), after) := rfl
  obtain ⟨functions, _⟩ := function_runs_until_revoked rfl distinct ranEarlier publication ranLater
  obtain ⟨grant, offered, calls, _⟩ := functions go List.mem_cons_self
  refine ⟨⟨grant, offered, ?_⟩, by decide +kernel, by decide +kernel, by decide +kernel⟩
  exact calls after rfl

end ScriptedRobot.Capability
