import ScriptedRobot.Proofs.Capability.Mirroring
import ScriptedRobot.Proofs.Engine.Teardown
import ScriptedRobot.Proofs.Script.Execution
import ScriptedRobot.Proofs.Shooter.Countdown

/-! # What scripts are offered

A module offers a capability if scripts find a live function for it under its symbol. A script that
calls the function of an offered capability by its name runs the capability
(`Offers.start_callSymbol`). An equipped machine offers every capability of the rig, and no
subsystem of it is locked: there a call by name fails only if its arguments do not fit
(`IsEquipped.start_callSymbol`). -/

namespace ScriptedRobot.Capability

open Script
open Script.Run

/-! ## Tables -/

section Tables

variable {store : Store} {module : String} {key : Key} {value : Value}

theorem lt_size_of_get {id : Nat} (found : (store.table id).get key = value)
    (present : value ≠ .nil) : id < store.tables.size := by
  by_contra outside
  have empty : store.table id = {} := by
    rw [Store.table, Array.getD_eq_getD_getElem?,
      Array.getElem?_eq_none (Nat.le_of_not_lt outside)]
    rfl
  rw [empty] at found
  exact present found.symm

/-- What is found in a module stands in two tables that the table of global names leads to. -/
theorem exists_tables (found : (contents store module).get key = value) (present : value ≠ .nil) :
    ∃ root id, rootValue store = .table root ∧
      (store.table root).get (.text module) = .table id ∧
      (store.table id).get key = value := by
  cases placed : moduleValue store module with
  | table id =>
      obtain ⟨root, rooted⟩ := exists_root_of_placed placed
      rw [contents_of_table placed] at found
      rw [moduleValue_of_root rooted] at placed
      exact ⟨root, id, rooted, placed, found⟩
  | nil | boolean _ | integer _ | number _ | text _ | bytes _ | function _ | failure _ =>
      rw [contents, placed] at found
      exact absurd found.symm present

/-- Where the old tables are kept, what was found in a module is found there still. -/
theorem get_contents_of_kept {after : Store} (found : (contents store module).get key = value)
    (present : value ≠ .nil)
    (kept : ∀ id < store.tables.size, after.table id = store.table id) :
    (contents after module).get key = value := by
  have isTable (id : Nat) : Value.table id ≠ .nil := by
    intro same
    cases same
  obtain ⟨root, id, rooted, placed, foundThere⟩ := exists_tables found present
  have rootedAfter : rootValue after = .table root := by
    rw [rootValue, kept _ (lt_size_of_get rooted (isTable root))]
    exact rooted
  have placedAfter : moduleValue after module = .table id := by
    rw [moduleValue_of_root rootedAfter, kept root (lt_size_of_get placed (isTable id))]
    exact placed
  rw [contents_of_table placedAfter, kept id (lt_size_of_get foundThere present)]
  exact foundThere

end Tables

/-! ## Offers -/

section Offers

variable {σ : Type} {machine middle after : Machine σ} {module : String}
  {capability : Capability σ}

/-- Scripts find a live function for the capability under its symbol in a module. -/
inductive Offers (machine : Machine σ) (module : String) (capability : Capability σ) : Prop where
  | intro (grant : Nat)
      (shown : (contents machine.store module).get (.text capability.symbol) =
        .function (.capability grant))
      (live : machine.registry.grants[grant]? = some ⟨module, capability, true⟩)

namespace Offers

theorem of_kept (offers : Offers machine module capability)
    (kept : ∀ id < machine.store.tables.size, after.store.table id = machine.store.table id)
    (registry : after.registry = machine.registry) : Offers after module capability := by
  obtain ⟨grant, shown, live⟩ := offers
  exact .intro grant (get_contents_of_kept shown nofun kept) (registry ▸ live)

theorem exists_start_symbol (offers : Offers machine module capability) (call : Call σ)
    (scope : Scope) :
    ∃ grant, machine.registry.grants[grant]? = some ⟨module, capability, true⟩ ∧
      (evalExpr call scope (Steps.symbol module capability.symbol)).start machine =
        (.ok [.function (.capability grant)], machine) := by
  obtain ⟨grant, shown, live⟩ := offers
  obtain ⟨root, id, rooted, placed, found⟩ := exists_tables shown nofun
  have rootIs : (evalExpr call scope Steps.root).start machine =
      (.ok [.table root], machine) := by
    rw [Steps.root, start_global]
    exact congrArg (fun value => (Except.ok [value], machine)) rooted
  have moduleIs := start_field_of_present rootIs placed nofun
  exact ⟨grant, live, start_field_of_present moduleIs found nofun⟩

/-- A call by name runs the capability. -/
theorem start_callSymbol (offers : Offers machine module capability) {depth : Nat} {scope : Scope}
    {arguments : List Expr} {values : List Value}
    (evaluated : (evalArguments (callAt (depth + 1)) scope arguments).start machine =
      (.ok values, middle))
    (registry : middle.registry = machine.registry) :
    (evalExpr (callAt (depth + 1)) scope
        (Steps.callSymbol module capability.symbol arguments)).start machine =
      (capability.answer (callAt depth) values).start middle := by
  obtain ⟨grant, live, found⟩ := offers.exists_start_symbol (callAt (depth + 1)) scope
  rw [← registry] at live
  rw [Steps.callSymbol, start_evalCall found evaluated]
  exact runs_of_live live rfl depth values

/-! ## Publications -/

theorem of_publish {capabilities : List (Capability σ)} (tidy : Tidy machine.store)
    (coherent : machine.registry.Coherent)
    (distinct : (capabilities.map Capability.symbol).Nodup)
    (store : after.store = withModule machine.store module
      (machine.registry.offered module capabilities))
    (registry : after.registry = machine.registry.published module capabilities)
    (member : capability ∈ capabilities) : Offers after module capability := by
  have unrevoked : ∀ action ∈ ([] : List (Action σ)), action.HasDistinctSymbols := nofun
  obtain ⟨grant, handed, live⟩ := getElem?_of_published coherent distinct unrevoked member
  refine .intro grant ?_ (registry ▸ live)
  rw [contents_of_publish tidy store]
  exact Registry.get_offered distinct handed

theorem of_publish_of_ne (offers : Offers machine module capability)
    {capabilities : List (Capability σ)} (tidy : Tidy machine.store)
    (coherent : machine.registry.Coherent) {owner : String} (different : module ≠ owner)
    (store : after.store = withModule machine.store owner
      (machine.registry.offered owner capabilities))
    (registry : after.registry = machine.registry.published owner capabilities) :
    Offers after module capability := by
  obtain ⟨grant, shown, live⟩ := offers
  refine .intro grant ?_ ?_
  · rw [store, contents_withModule_of_ne tidy owner different, shown]
  · rw [registry, coherent.getElem?_published live, beq_eq_false_iff_ne.mpr different.symm]
    rfl

end Offers

end Offers

/-! ## The rig -/

variable {machine middle after : Machine Rig} {subsystem : Subsystem} {bound : List Subsystem}

/-- The modules of some subsystems were published and offer all their capabilities. -/
structure HasPublished (bound : List Subsystem) (machine : Machine Rig) : Prop where
  tidy : Tidy machine.store
  coherent : machine.registry.Coherent
  offers : ∀ subsystem ∈ bound, ∀ capability ∈ capabilitiesOf subsystem,
    Offers machine subsystem.name capability

theorem HasPublished.publish (earlier : HasPublished bound machine) (subsystem : Subsystem) :
    ∃ after, (Capability.publish subsystem.name (capabilitiesOf subsystem)).start machine =
      (.ok (), after) ∧ HasPublished (subsystem :: bound) after := by
  obtain ⟨tidy, coherent, offers⟩ := earlier
  obtain ⟨after, ended, store⟩ :=
    start_publish_of_tidy tidy subsystem.name (capabilitiesOf subsystem)
  have registry := registry_of_publish ended
  have distinct := nodup_symbols subsystem
  have names : Function.Injective Subsystem.name := by
    intro first second same
    cases first <;> cases second <;> first | rfl | exact absurd same (by decide)
  refine ⟨after, ended, ?_, ?_, fun other member capability listed => ?_⟩
  · obtain ⟨reads, writes⟩ :=
      handlers_offered machine.registry subsystem.name (capabilitiesOf subsystem)
    rw [store]
    exact tidy_withModule tidy subsystem.name reads writes
  · rw [registry]
    exact coherent.published distinct
  · by_cases same : other = subsystem
    · subst same
      exact .of_publish tidy coherent distinct store registry listed
    · have before := offers other (List.mem_of_ne_of_mem same member) capability listed
      exact before.of_publish_of_ne tidy coherent (fun named => same (names named)) store registry

/-- Every capability of the rig is offered, and no subsystem is locked. -/
structure IsEquipped (machine : Machine Rig) : Prop where
  unlocked : machine.native.poisoned = []
  offers : ∀ subsystem, ∀ capability ∈ capabilitiesOf subsystem,
    Offers machine subsystem.name capability

namespace IsEquipped

theorem of_kept (equipped : IsEquipped machine)
    (kept : ∀ id < machine.store.tables.size, after.store.table id = machine.store.table id)
    (registry : after.registry = machine.registry)
    (locks : after.native.poisoned = machine.native.poisoned) : IsEquipped after where
  unlocked := locks.trans equipped.unlocked
  offers subsystem capability listed :=
    (equipped.offers subsystem capability listed).of_kept kept registry

/-- A call by name of what a subsystem can do acts with the arguments that were taken. -/
theorem start_callSymbol (equipped : IsEquipped machine) {α : Type} {symbol : String}
    {neutral : Neutral} {takeArguments : List Value → Except ArgumentFault α}
    {act : α → Rig → List Value × Rig × List Event}
    (listed : ofSubsystem subsystem symbol neutral takeArguments act ∈ capabilitiesOf subsystem)
    {depth : Nat} {scope : Scope} {arguments : List Expr} {values : List Value} {taken : α}
    (evaluated : (evalArguments (callAt (depth + 1)) scope arguments).start machine =
      (.ok values, middle))
    (registry : middle.registry = machine.registry)
    (locks : middle.native.poisoned = machine.native.poisoned)
    (fits : takeArguments values = .ok taken) :
    (evalExpr (callAt (depth + 1)) scope
        (Steps.callSymbol subsystem.name symbol arguments)).start machine =
      (.ok (act taken middle.native).1, { middle with
        native := (act taken middle.native).2.1
        journal := middle.journal ++ (act taken middle.native).2.2 }) := by
  refine ((equipped.offers subsystem _ listed).start_callSymbol evaluated registry).trans ?_
  have unlocked : middle.native.poisoned.contains subsystem = false := by
    rw [locks, equipped.unlocked]
    rfl
  have replied : (ofSubsystem subsystem symbol neutral takeArguments act).perform values
      middle.native = (.returns (act taken middle.native).1, (act taken middle.native).2) := by
    unfold ofSubsystem
    dsimp only
    rw [fits]
    dsimp only
    rw [unlocked]
    rfl
  rw [answer, start_bind, start_perform, replied]
  rfl

/-- A command by name is passed, and its effect is all that it does. -/
theorem passes_command (equipped : IsEquipped machine) {α : Type} {symbol : String}
    {neutral : Neutral} {takeArguments : List Value → Except ArgumentFault α}
    {act : α → Rig → List Value × Rig × List Event}
    (listed : ofSubsystem subsystem symbol neutral takeArguments act ∈ capabilitiesOf subsystem)
    {depth : Nat} {scope : Scope} {arguments : List Expr} {values : List Value} {taken : α}
    (evaluated : (evalArguments (callAt (depth + 1)) scope arguments).start machine =
      (.ok values, middle))
    (registry : middle.registry = machine.registry)
    (locks : middle.native.poisoned = machine.native.poisoned)
    (fits : takeArguments values = .ok taken) :
    Passes (callAt (depth + 1)) [.evaluate (Steps.callSymbol subsystem.name symbol arguments)] scope
      machine scope { middle with
        native := (act taken middle.native).2.1
        journal := middle.journal ++ (act taken middle.native).2.2 } := by
  refine .statement nofun ?_
  rw [start_evaluate, equipped.start_callSymbol listed evaluated registry locks fits]
  rfl

section Rig

variable {depth : Nat} {scope : Scope} {symbol : String} {neutral : Neutral}

theorem start_noArguments (call : Call Rig) (scope : Scope) :
    (evalArguments call scope []).start machine = (.ok [], machine) := by
  rw [evalArguments]
  rfl

theorem passes_shooterCommand (equipped : IsEquipped machine)
    {change : Shooter.Sequence → Shooter.Sequence}
    (listed : shooterCommand symbol change ∈ capabilitiesOf .shooter) :
    Passes (callAt (depth + 1)) [.evaluate (Steps.callSymbol "shooter" symbol [])] scope machine
      scope { machine with native := machine.native.changeShooter change } := by
  have passes :=
    equipped.passes_command listed (start_noArguments (callAt (depth + 1)) scope) rfl rfl rfl
  simp only [Array.appendList_nil] at passes
  exact passes

theorem start_shooterQuestion (equipped : IsEquipped machine) {answer : Shooter.Sequence → Bool}
    (listed : shooterQuestion symbol answer ∈ capabilitiesOf .shooter) :
    (evalExpr (callAt (depth + 1)) scope (Steps.callSymbol "shooter" symbol [])).start machine =
      (.ok [.boolean (answer machine.native.shooter)], machine) := by
  refine (equipped.start_callSymbol listed (start_noArguments _ scope) rfl rfl rfl).trans ?_
  simp

theorem start_reading (equipped : IsEquipped machine) {read : Gamepad.Snapshot → Int → Value}
    (listed : reading symbol neutral read ∈ capabilitiesOf .gamepad) (index : Int64) :
    (evalExpr (callAt (depth + 1)) scope
        (Steps.callSymbol "gamepad" symbol [.integer index])).start machine =
      (.ok [read machine.native.snapshot index.toInt], machine) := by
  have taken : (evalArguments (callAt (depth + 1)) scope [.integer index]).start machine =
      (.ok [.integer index], machine) := start_evalArguments_singleton (start_integer index)
  refine (equipped.start_callSymbol listed taken rfl rfl rfl).trans ?_
  simp

/-- Driving changes the drivetrain alone. -/
theorem exists_passes_drive (equipped : IsEquipped machine) {arguments : List Expr}
    {values : List Value} {taken : Float × Float}
    (evaluated : (evalArguments (callAt (depth + 1)) scope arguments).start machine =
      (.ok values, middle))
    (registry : middle.registry = machine.registry) (native : middle.native = machine.native)
    (fits : driveArguments values = .ok taken) :
    ∃ drivetrain journal, Passes (callAt (depth + 1))
      [.evaluate (Steps.callSymbol "drivetrain" "drive" arguments)] scope machine scope
      { middle with native := { machine.native with drivetrain }, journal } := by
  have listed : driveCommand ∈ capabilitiesOf .drivetrain := List.mem_cons_self
  have passes := equipped.passes_command listed evaluated registry (congrArg _ native) fits
  rw [native] at passes
  exact ⟨_, _, passes⟩

theorem exists_passes_stopDrive (equipped : IsEquipped machine) :
    ∃ drivetrain journal, Passes (callAt (depth + 1))
      [.evaluate (Steps.callSymbol "drivetrain" "stop" [])] scope machine scope
      { machine with native := { machine.native with drivetrain }, journal } := by
  have listed : ofSubsystem .drivetrain "stop" .nothing noArguments (fun _ rig =>
      ([], rig.stopDrive)) ∈ capabilitiesOf .drivetrain :=
    List.mem_cons_of_mem _ List.mem_cons_self
  have passes :=
    equipped.passes_command listed (start_noArguments (callAt (depth + 1)) scope) rfl rfl rfl
  exact ⟨_, _, passes⟩

/-- A script that asks first whether the shooter is idle might as well shoot at once: a busy shooter
does not listen. -/
theorem passes_shootWhenIdle (equipped : IsEquipped machine) :
    Passes (callAt (depth + 1)) [.branch (Steps.callSymbol "shooter" "is_idle" [])
      [.evaluate (Steps.callSymbol "shooter" "shoot" [])] []] scope machine scope
      { machine with native := machine.native.changeShooter .shoot } := by
  have asks : shooterQuestion "is_idle" Shooter.Sequence.isIdle ∈ capabilitiesOf .shooter := by
    simp [capabilitiesOf, shooterCapabilities]
  have shoots : shooterCommand "shoot" .shoot ∈ capabilitiesOf .shooter := by
    simp [capabilitiesOf, shooterCapabilities]
  have chosen : Passes (callAt (depth + 1))
      (if (Value.boolean machine.native.shooter.isIdle).isTruthy then
        [.evaluate (Steps.callSymbol "shooter" "shoot" [])] else []) scope machine scope
      { machine with native := machine.native.changeShooter .shoot } := by
    cases idle : machine.native.shooter.isIdle with
    | true => exact equipped.passes_shooterCommand shoots
    | false =>
        have busy : machine.native.shooter.phase ≠ .idle := by
          intro same
          rw [Shooter.Sequence.isIdle, same] at idle
          cases idle
        have kept : machine.native.shooter.shoot = machine.native.shooter :=
          Shooter.Sequence.apply_start_of_busy busy .shoot rfl
        have ignored : machine.native.changeShooter .shoot = machine.native := by
          rw [Rig.changeShooter, kept]
        rw [ignored]
        exact .nil
  exact .branch (equipped.start_shooterQuestion asks) chosen

end Rig

end IsEquipped

/-- What was published once for every subsystem is offered as long as nothing is locked. -/
theorem HasPublished.isEquipped (published : HasPublished bound machine)
    (all : ∀ subsystem, subsystem ∈ bound) (unlocked : machine.native.poisoned = []) :
    IsEquipped machine where
  unlocked := unlocked
  offers subsystem := published.offers subsystem (all subsystem)

/-! ## Hosts -/

/-- A host binds a subsystem by publishing what it can do. -/
theorem HasPublished.bind {host : Host} (published : HasPublished bound (machineOf host))
    (subsystem : Subsystem) :
    HasPublished (subsystem :: bound) (machineOf (Engine.bind subsystem host).2) := by
  obtain ⟨after, ended, publishedAfter⟩ := published.publish subsystem
  rw [Engine.bind, Engine.run_of_start ended]
  exact publishedAfter

/-- The host with the whole rig bound. -/
def withRig (host : Host) : Host :=
  Subsystem.all.foldl (fun host subsystem => (Engine.bind subsystem host).2) host

theorem isEquipped_withRig {host : Host} (tidy : Tidy host.scripts.store)
    (coherent : host.scripts.registry.Coherent) (unlocked : (withRig host).rig.poisoned = []) :
    IsEquipped (machineOf (withRig host)) := by
  have before : HasPublished [] (machineOf host) := ⟨tidy, coherent, nofun⟩
  have published : HasPublished [.gamepad, .drivetrain, .shooter] (machineOf (withRig host)) :=
    ((before.bind .shooter).bind .drivetrain).bind .gamepad
  generalize withRig host = equipped at published unlocked
  refine published.isEquipped (fun subsystem => ?_) unlocked
  cases subsystem <;> decide

end ScriptedRobot.Capability
