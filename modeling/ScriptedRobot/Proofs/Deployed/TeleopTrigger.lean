import ScriptedRobot.Deployed.Teleop
import ScriptedRobot.Proofs.Deployed.Loading
import ScriptedRobot.Proofs.Engine.Triggers

/-! # The trigger of the teleop program

The teleop program keeps in a variable whether the first button was pressed on the last tick with a
pad. It tells the shooter to shoot when the button is pressed and was not, and the shooter is
idle. So a button that is held starts no second shot, and a press while a shot is under way is
forgotten (`teleop_shoots_on_press`). -/

namespace ScriptedRobot.Deployed.Teleop

open Capability (IsEquipped machineOf)
open Control (Session)
open Engine (Follows Obeys Trigger onMachine scripting)
open Gamepad (Snapshot)
open Script
open Script.Run
open Shooter (Sequence)

/-! ## The program -/

/-- The factor of the sticks, if one is configured. -/
def givenFactor : Expr :=
  .conjunction (Steps.configuration.field "gamepad")
    ((Steps.configuration.field "gamepad").field "skew_factor")

/-- The factor of the sticks, with one that stands in for a missing one. -/
def configuredFactor : Expr :=
  .disjunction givenFactor (.number 1.0)

/-- The statement of the function that applies the factor. -/
def skewing : List Stmt := [
  .returned [.binary .multiply (.variable "value") (.variable "skew")]]

def setup : List Stmt := [
  .declare ["skew"] [.number 1.0],
  .declare ["was_pressed"] [.boolean false],
  .declare ["skewed"] [.function ["value"] skewing]]

/-- The statements that begin an activation. -/
def beginning : List Stmt := [
  .setVariable "was_pressed" (.boolean false),
  command "shooter" "stop" []]

/-- The first half of a step: the sticks drive. -/
def driving : List Stmt := [
  .declare ["speed"] [.unary .negate (Steps.callSymbol "gamepad" "axis" [.integer 1])],
  .declare ["rotation"] [Steps.callSymbol "gamepad" "axis" [.integer 0]],
  command "drivetrain" "drive" [
    .call (.variable "skewed") [.variable "speed"],
    .call (.variable "skewed") [.variable "rotation"]]]

/-- The statements that answer a press. -/
def answer : List Stmt := [
  .branch (Steps.callSymbol "shooter" "is_idle" []) [command "shooter" "shoot" []] []]

/-- The statement that tells a press from a button that is held. -/
def trigger : Stmt :=
  .branch (.conjunction (.variable "pressed") (.unary .not (.variable "was_pressed"))) answer []

/-- The second half of a step: a press shoots. -/
def shooting : List Stmt := [
  .declare ["pressed"] [Steps.callSymbol "gamepad" "button" [.integer 0]],
  trigger,
  .setVariable "was_pressed" (.variable "pressed")]

def callbacks : List (String × List Stmt) := [
  ("init", [.setVariable "skew" configuredFactor]),
  ("teleop_init", beginning),
  ("teleop", driving ++ shooting),
  ("teleop_exit", [command "drivetrain" "stop" []]),
  ("cleanup", [command "shooter" "stop" []])]

theorem teleop_eq : teleop = program (setup ++
    callbacks.map fun entry => callback entry.1 entry.2) := rfl

/-- The program pulls when the first button is pressed that was not pressed before. -/
def press : Trigger Bool where
  pulls was snapshot := snapshot.button 0 && !was
  next _ snapshot := snapshot.button 0

/-- What is remembered is whether the button was pressed on the last tick with a pad. -/
theorem after_press (inputs : List (Option Snapshot)) :
    press.after false inputs =
      inputs.reduceOption.getLast?.any fun snapshot => snapshot.button 0 := by
  unfold Trigger.after
  induction inputs.reduceOption using List.reverseRecOn with
  | nil => rfl
  | append_singleton earlier snapshot _ =>
      rw [List.foldl_append, List.getLast?_concat]
      rfl

/-! ## One step -/

/-- The cells of the variables of the program. -/
structure Layout where
  descriptor : Nat
  factor : Nat
  latch : Nat
  skewed : Nat
  latch_ne_factor : latch ≠ factor
  latch_ne_skewed : latch ≠ skewed
  factor_ne_skewed : factor ≠ skewed

namespace Layout

/-- The variables that the function sees that applies the factor. -/
def seen (layout : Layout) : List (String × Nat) :=
  [("was_pressed", layout.latch), ("skew", layout.factor), (descriptorName, layout.descriptor)]

/-- The variables that the callbacks see. -/
def captured (layout : Layout) : List (String × Nat) :=
  ("skewed", layout.skewed) :: layout.seen

end Layout

section Step

variable {layout : Layout} {id function : Nat} {was : Bool} {machine after : Machine Rig}

/-- The variables of the program hold a factor, what was pressed and a function that applies the
factor, and a function runs its step. -/
structure Watches (layout : Layout) (id function : Nat) (was : Bool) (machine : Machine Rig) :
    Prop where
  equipped : IsEquipped machine
  factor : ∃ value, machine.store.cells[layout.factor]? = some value ∧
    value.numeral?.isSome = true
  latch : machine.store.cells[layout.latch]? = some (.boolean was)
  skewed : machine.store.cells[layout.skewed]? = some (.function (.closure function))
  skews : machine.store.closures[function]? = some ⟨["value"], skewing, layout.seen⟩
  runs : machine.store.closures[id]? = some ⟨[], driving ++ shooting, layout.captured⟩

theorem Watches.of_kept (watches : Watches layout id function was machine)
    (cells : ∀ (cell : Nat) (value : Value), machine.store.cells[cell]? = some value →
      after.store.cells[cell]? = some value)
    (closures : after.store.closures = machine.store.closures)
    (tables : after.store.tables = machine.store.tables)
    (registry : after.registry = machine.registry)
    (locks : after.native.poisoned = machine.native.poisoned) :
    Watches layout id function was after := by
  obtain ⟨equipped, ⟨value, factor, numeral⟩, latch, skewed, skews, runs⟩ := watches
  refine ⟨equipped.of_kept (fun id _ => ?_) registry locks, ⟨value, cells _ _ factor, numeral⟩,
    cells _ _ latch, cells _ _ skewed, closures ▸ skews, closures ▸ runs⟩
  exact congrArg (fun tables => tables.getD id default) tables

theorem Watches.withCell (watches : Watches layout id function was machine) (value : Value) :
    Watches layout id function was (addCell value machine) :=
  watches.of_kept (fun _ _ there => cell_addCell_of_some there value) rfl rfl rfl rfl

/-- The second cell is another one than the latch, so that it stays. -/
theorem getElem?_setCell_of_ne {store : Store} {cell other : Nat} (different : cell ≠ other)
    (value : Value) : (store.setCell cell value).cells[other]? = store.cells[other]? :=
  Array.getElem?_setIfInBounds_ne different

theorem getElem?_setCell_self {store : Store} {cell : Nat} {old : Value}
    (there : store.cells[cell]? = some old) (value : Value) :
    (store.setCell cell value).cells[cell]? = some value := by
  obtain ⟨within, _⟩ := Array.getElem?_eq_some_iff.mp there
  exact Array.getElem?_setIfInBounds_self_of_lt within

theorem Watches.setLatch (watches : Watches layout id function was machine) (now : Bool) :
    Watches layout id function now { machine with
      store := machine.store.setCell layout.latch (.boolean now) } := by
  obtain ⟨equipped, ⟨value, factor, numeral⟩, latch, skewed, skews, runs⟩ := watches
  refine ⟨equipped.of_kept (fun _ _ => rfl) rfl rfl, ⟨value, ?_, numeral⟩, ?_, ?_, skews, runs⟩
  · exact (getElem?_setCell_of_ne layout.latch_ne_factor _).trans factor
  · exact getElem?_setCell_self latch _
  · exact (getElem?_setCell_of_ne layout.latch_ne_skewed _).trans skewed

/-- A number of a stick is a number still when the factor is applied. -/
theorem Watches.exists_start_skewed (watches : Watches layout id function was machine)
    {scope : Scope} {name : String} {cell : Nat} {stick : Float}
    (named : scope.cell? "skewed" = some layout.skewed) (argument : scope.cell? name = some cell)
    (holds : machine.store.cells[cell]? = some (.number stick)) :
    ∃ skewed, (evalExpr (callAt 199) scope
        (.call (.variable "skewed") [.variable name])).start machine =
      (.ok [.number skewed], addCell (.number stick) machine) := by
  obtain ⟨value, factor, numeral⟩ := watches.factor
  obtain ⟨number, isNumber⟩ := Option.isSome_iff_exists.mp numeral
  let inner : Scope := ⟨[("value", machine.store.cells.size)], layout.seen, []⟩
  let called := addCell (.number stick) machine
  have valueIs : (evalExpr (callAt 198) inner (.variable "value")).start called =
      (.ok [.number stick], called) := start_variable rfl (cell_addCell _ _)
  have factorIs : (evalExpr (callAt 198) inner (.variable "skew")).start called =
      (.ok [value], called) := start_variable rfl (cell_addCell_of_some factor _)
  have product : (evalArguments (callAt 198) inner
      [.binary .multiply (.variable "value") (.variable "skew")]).start called =
        (.ok [.number (stick * Arithmetic.asFloat number)], called) := by
    refine start_evalArguments_singleton ((start_binary valueIs factorIs).trans ?_)
    unfold BinaryOperator.apply Arithmetic.calculate
    dsimp only
    rw [isNumber]
    rfl
  have ran : (evalBlock (callAt 198) inner skewing).start called =
      (.ok (.returned [.number (stick * Arithmetic.asFloat number)]), called) :=
    start_block_returned [] product
  have declared : (declareAll ["value"] [.number stick]).start machine =
      (.ok [("value", machine.store.cells.size)], called) := rfl
  refine ⟨stick * Arithmetic.asFloat number, ?_⟩
  rw [start_evalCall (start_variable named watches.skewed)
    (start_evalArguments_singleton (start_variable argument holds))]
  refine (start_callClosure watches.skews declared).trans ?_
  change (((evalBlock (callAt 198) inner skewing).start called).1.map Flow.values,
    ((evalBlock (callAt 198) inner skewing).start called).2) = _
  rw [ran]
  rfl

/-- Driving declares variables, and changes nothing but the drivetrain. -/
theorem Watches.exists_passes_driving (watches : Watches layout id function was machine) :
    ∃ rotation speed after, Passes (callAt 199) driving { captured := layout.captured } machine
        { own := [("rotation", rotation), ("speed", speed)], captured := layout.captured } after ∧
      Watches layout id function was after ∧
      after.native.snapshot = machine.native.snapshot ∧
      after.native.shooter = machine.native.shooter := by
  let scope : Scope := { captured := layout.captured }
  have reads : Capability.reading "axis" .zero (fun snapshot index =>
      .number (snapshot.axis index)) ∈ Capability.capabilitiesOf .gamepad := List.mem_cons_self
  let forward : Float := machine.native.snapshot.axis 1
  let turn : Float := machine.native.snapshot.axis 0
  have speedIs : (evalExpr (callAt 199) scope
      (.unary .negate (Steps.callSymbol "gamepad" "axis" [.integer 1]))).start machine =
        (.ok [.number (-forward)], machine) :=
    start_unary (watches.equipped.start_reading reads 1)
  let first := Deployed.addCell (.number (-forward)) machine
  have watchesFirst : Watches layout id function was first := watches.withCell _
  let middle : Scope :=
    { own := [("speed", machine.store.cells.size)], captured := layout.captured }
  have rotationIs : (evalExpr (callAt 199) middle
      (Steps.callSymbol "gamepad" "axis" [.integer 0])).start first =
        (.ok [.number turn], first) := watchesFirst.equipped.start_reading reads 0
  let second := Deployed.addCell (.number turn) first
  have watchesSecond : Watches layout id function was second := watchesFirst.withCell _
  let inner : Scope := { own := [("rotation", first.store.cells.size),
    ("speed", machine.store.cells.size)], captured := layout.captured }
  have declared : Passes (callAt 199) [_, _] scope machine inner second :=
    (passes_declare speedIs).cons (passes_declare rotationIs)
  have holdsSpeed : second.store.cells[machine.store.cells.size]? = some (.number (-forward)) :=
    cell_addCell_of_some (cell_addCell _ _) _
  have namedSkewed : inner.cell? "skewed" = some layout.skewed := rfl
  have namedSpeed : inner.cell? "speed" = some machine.store.cells.size := rfl
  have namedRotation : inner.cell? "rotation" = some first.store.cells.size := rfl
  obtain ⟨skewedSpeed, speedSkewed⟩ :=
    watchesSecond.exists_start_skewed namedSkewed namedSpeed holdsSpeed
  let third := Deployed.addCell (.number (-forward)) second
  have watchesThird : Watches layout id function was third := watchesSecond.withCell _
  have holdsRotation : third.store.cells[first.store.cells.size]? = some (.number turn) :=
    cell_addCell_of_some (cell_addCell _ _) _
  obtain ⟨skewedTurn, turnSkewed⟩ :=
    watchesThird.exists_start_skewed namedSkewed namedRotation holdsRotation
  let fourth := Deployed.addCell (.number turn) third
  have watchesFourth : Watches layout id function was fourth := watchesThird.withCell _
  have skewed := start_evalArguments_cons _ _ speedSkewed
    (start_evalArguments_singleton turnSkewed)
  obtain ⟨drivetrain, journal, driven⟩ :=
    watchesSecond.equipped.exists_passes_drive skewed rfl rfl rfl
  refine ⟨_, _, _, declared.append driven, ?_, rfl, rfl⟩
  exact watchesFourth.of_kept (fun _ _ there => there) rfl rfl rfl rfl

/-- Shooting goes by the snapshot and what is remembered of the last one. -/
theorem Watches.exists_passes_shooting (watches : Watches layout id function was machine)
    (rotation speed : Nat) :
    ∃ inner after, Passes (callAt 199) shooting
        { own := [("rotation", rotation), ("speed", speed)], captured := layout.captured } machine
        inner after ∧
      Watches layout id function (machine.native.snapshot.button 0) after ∧
      after.native.shooter =
        machine.native.shooter.shootIf (machine.native.snapshot.button 0 && !was) := by
  let scope : Scope :=
    { own := [("rotation", rotation), ("speed", speed)], captured := layout.captured }
  let pressed := machine.native.snapshot.button 0
  have reads : Capability.reading "button" .no (fun snapshot index =>
      .boolean (snapshot.button index)) ∈ Capability.capabilitiesOf .gamepad :=
    List.mem_cons_of_mem _ List.mem_cons_self
  have pressedIs : (evalExpr (callAt 199) scope
      (Steps.callSymbol "gamepad" "button" [.integer 0])).start machine =
        (.ok [.boolean pressed], machine) := watches.equipped.start_reading reads 0
  let known := Deployed.addCell (.boolean pressed) machine
  have watchesKnown : Watches layout id function was known := watches.withCell _
  let inner : Scope :=
    { own := ("pressed", machine.store.cells.size) :: scope.own, captured := layout.captured }
  have holdsPressed : known.store.cells[machine.store.cells.size]? = some (.boolean pressed) :=
    cell_addCell _ _
  have nowIs : (evalExpr (callAt 199) inner (.variable "pressed")).start known =
      (.ok [.boolean pressed], known) := start_variable rfl holdsPressed
  have wasIs : (evalExpr (callAt 199) inner (.variable "was_pressed")).start known =
      (.ok [.boolean was], known) := start_variable rfl watchesKnown.latch
  have condition : (evalExpr (callAt 199) inner (.conjunction (.variable "pressed")
      (.unary .not (.variable "was_pressed")))).start known =
        (.ok [.boolean (pressed && !was)], known) := by
    rw [start_conjunction nowIs, start_map, start_one (start_unary wasIs)]
    cases pressed <;> rfl
  have answers (pulled : Bool) : Passes (callAt 199)
      (if (Value.boolean pulled).isTruthy then answer else []) inner known inner
      { known with native := known.native.changeShooter (Sequence.shootIf pulled) } := by
    cases pulled with
    | true => exact watchesKnown.equipped.passes_shootWhenIdle
    | false => exact .nil
  let pulled : Machine Rig :=
    { known with native := known.native.changeShooter (Sequence.shootIf (pressed && !was)) }
  have pulls : Passes (callAt 199) [trigger] inner known inner pulled :=
    .branch condition (answers _)
  have watchesPulled : Watches layout id function was pulled :=
    watchesKnown.of_kept (fun _ _ there => there) rfl rfl rfl rfl
  have keeps : Passes (callAt 199) [.setVariable "was_pressed" (.variable "pressed")] inner pulled
      inner _ := .setVariable rfl (start_variable rfl holdsPressed)
  exact ⟨inner, _, (passes_declare pressedIs).cons (pulls.cons keeps),
    watchesPulled.setLatch pressed, rfl⟩

theorem obeys_press : Obeys press (.closure id) (Watches layout id function) where
  same watches store registry locks :=
    watches.of_kept (fun _ _ there => store ▸ there) (congrArg Store.closures store)
      (congrArg Store.tables store) registry locks
  turn watches := by
    obtain ⟨rotation, speed, driven, passesDriving, watchesDriven, snapshot, shooter⟩ :=
      watches.exists_passes_driving
    obtain ⟨inner, after, passesShooting, watchesAfter, shooterAfter⟩ :=
      watchesDriven.exists_passes_shooting rotation speed
    rw [snapshot] at watchesAfter shooterAfter
    rw [shooter] at shooterAfter
    have passes := passesDriving.append passesShooting
    exact ⟨[], after, start_call_of_passes watches.runs passes, watchesAfter, shooterAfter⟩

end Step

/-! ## The start -/

section Start

variable {layout : Layout} {id function : Nat} {was : Bool} {before machine : Machine Rig}

theorem evalExpr_configuredFactor (call : Call Rig) (scope : Scope) :
    evalExpr call scope configuredFactor = evalExpr call {} configuredFactor := by
  rfl

/-- The factor is read as a number. Handlers of the configuration may run meanwhile, but the rig
stays bound, and variables that were made since an earlier machine are left alone. -/
inductive ReadsFactor (before machine : Machine Rig) : Prop where
  | intro (value : Value) (after : Machine Rig)
      (read : (evalExpr (callAt 199) {} configuredFactor).start machine = (.ok [value], after))
      (numeral : value.numeral?.isSome = true)
      (equipped : IsEquipped after)
      (cells : ∀ (cell : Nat) (value : Value), before.store.cells.size ≤ cell →
        machine.store.cells[cell]? = some value → after.store.cells[cell]? = some value)
      (closures : ∀ (id : Nat) (closure : Closure), machine.store.closures[id]? = some closure →
        after.store.closures[id]? = some closure)

/-- What the tables of a configuration have as the factor. Without these tables there is no answer,
not even that it is missing. -/
def factorIn? (store : Store) : Option Value :=
  match (store.table Store.globalsId).get (.text Configuration.Global.globalName) with
  | .table config =>
    match (store.table config).get (.text "gamepad") with
    | .table gamepad => some ((store.table gamepad).get (.text "skew_factor"))
    | value => if value.isTruthy then none else some value
  | _ => none

theorem start_givenFactor (plain : Configuration.IsPlain machine.store) {value : Value}
    (found : factorIn? machine.store = some value) :
    (evalExpr (callAt 199) {} givenFactor).start machine = (.ok [value], machine) := by
  unfold factorIn? at found
  split at found
  case h_1 config configured =>
    obtain ⟨unguarded, inside⟩ := plain config configured
    have configIs : (evalExpr (callAt 199) {} Steps.configuration).start machine =
        (.ok [.table config], machine) := by
      rw [← configured]
      exact start_global _
    have gamepadIs := start_field configIs unguarded "gamepad"
    rw [givenFactor, start_conjunction gamepadIs]
    split at found
    case h_1 gamepad listed =>
      rw [listed] at gamepadIs ⊢
      have entryIs := start_field gamepadIs (inside "gamepad" gamepad listed) "skew_factor"
      have isThere : (Value.table gamepad).isTruthy = true := rfl
      rw [if_pos isThere, start_map, start_one entryIs, Option.some.inj found]
      rfl
    case h_2 =>
      split at found
      case isTrue => cases found
      case isFalse missing => rw [if_neg missing, Option.some.inj found]
  case h_2 => cases found

/-- A configuration without handlers is only looked at. -/
theorem readsFactor_of_plain (plain : Configuration.IsPlain machine.store)
    (numeric : (factorIn? machine.store).any fun value =>
      !value.isTruthy || value.numeral?.isSome)
    (equipped : IsEquipped machine) : ReadsFactor before machine := by
  obtain ⟨given, found, holds⟩ := (Option.any_eq_true _ _).mp numeric
  have givenIs := start_givenFactor plain found
  have read : (evalExpr (callAt 199) {} configuredFactor).start machine =
      (.ok [if given.isTruthy then given else .number 1.0], machine) := by
    rw [configuredFactor, start_disjunction givenIs]
    split
    case isTrue => rfl
    case isFalse =>
      rw [start_map, start_one (start_number 1.0)]
      rfl
  refine .intro _ machine read ?_ equipped (fun _ _ _ there => there) fun _ _ there => there
  split
  case isTrue truthy =>
    rw [truthy] at holds
    exact holds
  case isFalse => rfl

/-- The variables of the program were made since an earlier machine. -/
structure Layout.IsSince (layout : Layout) (before : Machine Rig) : Prop where
  factor : before.store.cells.size ≤ layout.factor
  latch : before.store.cells.size ≤ layout.latch
  skewed : before.store.cells.size ≤ layout.skewed

theorem Watches.exists_passes_init (watches : Watches layout id function was machine)
    (since : layout.IsSince before) (reads : ReadsFactor before machine) :
    ∃ after, Passes (callAt 199) [.setVariable "skew" configuredFactor]
        { captured := layout.captured } machine { captured := layout.captured } after ∧
      Watches layout id function was after ∧
      ∀ (id : Nat) (closure : Closure), machine.store.closures[id]? = some closure →
        after.store.closures[id]? = some closure := by
  obtain ⟨_, ⟨old, factorThere, _⟩, latch, skewed, skews, runs⟩ := watches
  obtain ⟨value, after, read, numeral, equipped, cells, closures⟩ := reads
  rw [← evalExpr_configuredFactor (callAt 199) { captured := layout.captured }] at read
  refine ⟨_, .setVariable rfl read, ⟨?_, ⟨value, ?_, numeral⟩, ?_, ?_, closures _ _ skews,
    closures _ _ runs⟩, closures⟩
  · exact equipped.of_kept (fun _ _ => rfl) rfl rfl
  · exact getElem?_setCell_self (cells _ _ since.factor factorThere) value
  · exact (getElem?_setCell_of_ne layout.latch_ne_factor.symm _).trans (cells _ _ since.latch latch)
  · exact (getElem?_setCell_of_ne layout.factor_ne_skewed _).trans (cells _ _ since.skewed skewed)

theorem Watches.exists_passes_beginning (watches : Watches layout id function was machine) :
    ∃ after, Passes (callAt 199) beginning { captured := layout.captured } machine
        { captured := layout.captured } after ∧
      Watches layout id function false after := by
  have stops : Capability.shooterCommand "stop" .stop ∈ Capability.capabilitiesOf .shooter := by
    simp [Capability.capabilitiesOf, Capability.shooterCapabilities]
  have watchesReleased := watches.setLatch false
  have released : Passes (callAt 199) [.setVariable "was_pressed" (.boolean false)]
      { captured := layout.captured } machine { captured := layout.captured } _ :=
    .setVariable rfl (start_boolean false)
  refine ⟨_, released.cons (watchesReleased.equipped.passes_shooterCommand stops), ?_⟩
  exact watchesReleased.of_kept (fun _ _ there => there) rfl rfl rfl rfl

end Start

section Loading

variable {host : Host} {name : String}

/-- The program is loaded with its variables in new cells, and its step is known. -/
theorem exists_watches (script : scriptNamed? host name = some teleop)
    (equipped : IsEquipped (machineOf host)) :
    ∃ program after layout made id function, Engine.load name host = (program, after) ∧
      Loaded host layout.captured callbacks made program after ∧
      layout.IsSince (machineOf host) ∧
      program.callbacks.lookup .teleop = some (.closure id) ∧
      Watches layout id function false (machineOf after) := by
  rw [teleop_eq] at script
  let body := setup ++ callbacks.map fun entry => callback entry.1 entry.2
  let start := inFactory body (machineOf host)
  let first := addCell (.number 1.0) start
  let second := addCell (.boolean false) first
  have fromFactor : start.store.cells.size = (machineOf host).store.cells.size + 1 :=
    Array.size_push _
  have fromLatch : first.store.cells.size = start.store.cells.size + 1 := Array.size_push _
  have fromSkewed : second.store.cells.size = first.store.cells.size + 1 := Array.size_push _
  let layout : Layout :=
    ⟨host.scripts.store.cells.size, start.store.cells.size, first.store.cells.size,
      second.store.cells.size, by omega, by omega, by omega⟩
  let function := second.store.closures.size
  let third : Machine Rig := { second with
    store := (second.store.newClosure ⟨["value"], skewing, layout.seen⟩).2 }
  let made := addCell (.function (.closure function)) third
  have passes : Passes (callAt 199) setup (factoryScope (machineOf host)) start
      { own := layout.captured } made :=
    (passes_declare (start_number 1.0)).cons ((passes_declare (start_boolean false)).cons
      (passes_declare (start_function ["value"] skewing)))
  have refersSecond : second.store.cells[host.scripts.store.cells.size]? =
      some (.table host.scripts.store.tables.size) :=
    cell_addCell_of_some (cell_addCell_of_some
      (isDescriptor_opened (machineOf host)).refers _) _
  have refers : made.store.cells[host.scripts.store.cells.size]? =
      some (.table host.scripts.store.tables.size) := getElem?_push_of_some refersSecond _
  obtain ⟨program, after, ran, loaded⟩ :=
    exists_loaded script passes ⟨_, _, rfl⟩ rfl refers (by decide)
  obtain ⟨id, stepIs, runs⟩ :=
    loaded.defined .teleop (driving ++ shooting) (by simp [callbacks, Hook.name])
  have factorIs : made.store.cells[layout.factor]? = some (.number 1.0) :=
    getElem?_push_of_some (cell_addCell_of_some (cell_addCell _ _) _) _
  have latchIs : made.store.cells[layout.latch]? = some (.boolean false) :=
    getElem?_push_of_some (cell_addCell _ _) _
  have skewedIs : made.store.cells[layout.skewed]? = some (.function (.closure function)) :=
    cell_addCell _ _
  have skews : made.store.closures[function]? = some ⟨["value"], skewing, layout.seen⟩ :=
    Array.getElem?_push_size
  refine ⟨program, after, layout, made, id, function, ran, loaded, ?_, stepIs,
    loaded.isEquipped equipped, ⟨.number 1.0, loaded.cells ▸ factorIs, rfl⟩,
    loaded.cells ▸ latchIs, loaded.cells ▸ skewedIs, loaded.closures _ _ skews, runs⟩
  refine ⟨?_, ?_, ?_⟩ <;> dsimp only [layout] <;> omega

end Loading

section Activation

variable {session entered : Session Engine Callable} {name : String} {layout : Layout}
  {id function : Nat}

/-- Loading the program keeps what scripts are offered. -/
theorem isEquipped_begun (script : scriptNamed? session.world name = some teleop)
    (equipped : IsEquipped (machineOf (session.readied scripting .teleop))) :
    IsEquipped (machineOf (session.begun scripting .teleop name)) := by
  have scriptReadied : scriptNamed? (session.readied scripting .teleop) name = some teleop := script
  obtain ⟨program, after, _, _, _, _, ran, _, _, _, watches⟩ :=
    exists_watches scriptReadied equipped
  have begun : session.begun scripting .teleop name =
      after.note .info .scripts ("loaded program " ++ program.name) := Session.begun_eq ran
  rw [begun]
  exact watches.equipped.of_kept (fun _ _ => rfl) rfl rfl

/-- The program is entered with the button released. -/
theorem exists_enter (script : scriptNamed? session.world name = some teleop)
    (equipped : IsEquipped (machineOf (session.readied scripting .teleop)))
    (reads : ReadsFactor (machineOf (session.readied scripting .teleop))
      (machineOf (session.begun scripting .teleop name))) :
    ∃ entered layout id function,
      session.enter scripting .teleop (some name) = (.ok (), entered) ∧
      Follows ⟨.teleopInit, .teleop, .teleopExit⟩ press (.closure id) (Watches layout id function)
        false entered := by
  have scriptReadied : scriptNamed? (session.readied scripting .teleop) name = some teleop := script
  obtain ⟨program, after, layout, made, id, function, ran, loaded, since, stepIs, watches⟩ :=
    exists_watches scriptReadied equipped
  obtain ⟨first, initIs, inits⟩ :=
    loaded.defined .init [.setVariable "skew" configuredFactor] (by simp [callbacks, Hook.name])
  obtain ⟨second, startIs, begins⟩ :=
    loaded.defined .teleopInit beginning (by simp [callbacks, Hook.name])
  let noted := after.note .info .scripts ("loaded program " ++ program.name)
  have begun : session.begun scripting .teleop name = noted := Session.begun_eq ran
  rw [begun] at reads
  have watchesNoted : Watches layout id function false (machineOf noted) :=
    obeys_press.same watches rfl rfl rfl
  obtain ⟨readied, passesInit, watchesInit, closures⟩ :=
    watchesNoted.exists_passes_init since reads
  have calledInit : (Run.call (.closure first) []).start (machineOf noted) = (.ok [], readied) :=
    start_call_of_passes inits passesInit
  obtain ⟨ready, passesStart, watchesReady⟩ := watchesInit.exists_passes_beginning
  have calledStart : (Run.call (.closure second) []).start (machineOf (onMachine noted readied)) =
      (.ok [], ready) := start_call_of_passes (closures _ _ begins) passesStart
  have completes : Control.Program.Completes scripting program.callbacks
      [.init, .prepare, .teleopInit] noted (onMachine (onMachine noted readied) ready) :=
    .defined initIs (Engine.runCallback_of_start calledInit)
      (.undefined (loaded.undefined .prepare (by simp [callbacks, Hook.name]))
        (.defined startIs (Engine.runCallback_of_start calledStart) .nil))
  obtain ⟨entered, enters, _, follows⟩ := Engine.exists_enter_follows rfl ran loaded.usable
    completes stepIs obeys_press watchesReady
  exact ⟨entered, layout, id, function, enters, follows⟩

theorem startsShot_operated (follows : Follows ⟨.teleopInit, .teleop, .teleopExit⟩ press
    (.closure id) (Watches layout id function) false entered) (earlier : List (Option Snapshot))
    (now : Option Snapshot) :
    (entered.operated scripting earlier).startsShot scripting now = true ↔
      ∃ snapshot, now = some snapshot ∧ snapshot.button 0 = true ∧
        (earlier.reduceOption.getLast?.any fun snapshot => snapshot.button 0) = false ∧
        (entered.operated scripting earlier).world.rig.shooter.isIdle = true := by
  rw [follows.startsShot_operated, after_press, Bool.and_eq_true]
  constructor
  · rintro ⟨idle, pulled⟩
    obtain ⟨snapshot, given, pulls⟩ := (Option.any_eq_true _ _).mp pulled
    obtain ⟨pressed, was⟩ := (Bool.and_eq_true _ _).mp pulls
    exact ⟨snapshot, given, pressed, Bool.not_eq_true' _ |>.mp was, idle⟩
  · rintro ⟨snapshot, rfl, pressed, was, idle⟩
    refine ⟨idle, ?_⟩
    rw [was]
    exact (Bool.and_eq_true _ _).mpr ⟨pressed, rfl⟩

/-- A button that was pressed starts no shot as long as it is held, whether or not the pad is
unplugged meanwhile. -/
theorem shots_held {own : OwnHooks} {callback : Callable} {remembers : Bool → Machine Rig → Prop}
    (follows : Follows own press callback remembers true session) {held : List (Option Snapshot)}
    (pressed : ∀ snapshot, some snapshot ∈ held → snapshot.button 0 = true) :
    session.shots scripting held = 0 := by
  induction held generalizing session with
  | nil => rfl
  | cons now rest ih =>
      have waits : press.pullsOn true now = false := by
        cases now with
        | none => rfl
        | some snapshot => exact Bool.and_false _
      have stays : press.after true [now] = true := by
        cases now with
        | none => rfl
        | some snapshot => exact pressed snapshot List.mem_cons_self
      have starts : session.startsShot scripting now = false := by
        have decided := follows.startsShot_operated [] now
        have unchanged : press.after true [] = true := rfl
        rw [unchanged, waits, Bool.and_false] at decided
        exact decided
      have next := (follows.tick_given now).2.2
      rw [stays] at next
      rw [Session.shots, starts, Bool.toNat_false, Nat.zero_add]
      exact ih next fun snapshot member => pressed snapshot (List.mem_cons_of_mem _ member)

end Activation

/-! ## A slowed robot -/

/-- A script that halves the sticks. -/
def halving : Chunk := [
  .setGlobal Configuration.Global.globalName
    (record [("gamepad", record [("skew_factor", .number 0.5)])])]

/-- A robot with the program, and with a configuration that halves the sticks. -/
def slowedRobot : Host :=
  robotWith halving "teleop.bot" teleop

def slowedSession : Session Engine Callable :=
  .start 20 slowedRobot

theorem scriptNamed?_slowedSession :
    scriptNamed? slowedSession.world "teleop.bot" = some teleop := by
  unfold slowedSession slowedRobot
  rw [scriptNamed?_start]
  exact scriptNamed?_robotWith halving (by decide +kernel) (by decide +kernel)

theorem isEquipped_slowedRobot : IsEquipped (machineOf slowedRobot) := by
  have unbound : (Capability.rootValue (Engine.execute halving (Engine.start
      { scripts := { files := filesWith "teleop.bot" teleop } })).2.scripts.store).isTruthy =
        false := by decide +kernel
  unfold slowedRobot
  apply isEquipped_robotWith
  · refine ⟨⟨by decide +kernel, ?_, ?_⟩, fun root rooted => ?_⟩
    · exact Value.eq_nil_of_isNil (by decide +kernel)
    · exact Value.eq_nil_of_isNil (by decide +kernel)
    · rw [rooted] at unbound
      cases unbound
  · decide +kernel

theorem isEquipped_slowedSession :
    IsEquipped (machineOf (slowedSession.readied scripting .teleop)) := by
  have plain : Configuration.IsPlain slowedRobot.scripts.store :=
    Configuration.isPlain_of_unguarded (by decide +kernel)
  unfold slowedSession
  exact Engine.isEquipped_start isEquipped_slowedRobot plain 20 .teleop

theorem readsFactor_slowedSession :
    ReadsFactor (machineOf (slowedSession.readied scripting .teleop))
      (machineOf (slowedSession.begun scripting .teleop "teleop.bot")) := by
  apply readsFactor_of_plain
  · exact Configuration.isPlain_of_unguarded (by decide +kernel)
  · decide +kernel
  · exact isEquipped_begun scriptNamed?_slowedSession isEquipped_slowedSession

/-! ## Presses -/

/-- A tick starts a shot exactly if the pad is plugged in, the first button is pressed, it was not
pressed on the last tick with a pad, and the shooter is idle. A button that is held starts no other
shot, and a shooter at work takes no notice of presses. -/
theorem teleop_shoots_on_press {session : Session Engine Callable} {name : String}
    (script : scriptNamed? session.world name = some teleop)
    (equipped : IsEquipped (machineOf (session.readied scripting .teleop)))
    (reads : ReadsFactor (machineOf (session.readied scripting .teleop))
      (machineOf (session.begun scripting .teleop name))) :
    ∃ entered, session.enter scripting .teleop (some name) = (.ok (), entered) ∧
      ∀ earlier : List (Option Snapshot),
        let before := entered.operated scripting earlier
        let was := earlier.reduceOption.getLast?.any fun snapshot => snapshot.button 0
        (∀ now, before.startsShot scripting now = true ↔
          ∃ snapshot, now = some snapshot ∧ snapshot.button 0 = true ∧ was = false ∧
            before.world.rig.shooter.isIdle = true) ∧
        (was = true → ∀ held, (∀ snapshot, some snapshot ∈ held → snapshot.button 0 = true) →
          before.shots scripting held = 0) ∧
        (before.world.rig.shooter.isIdle = false → ∀ now,
          ((before.given now).midTick scripting).2.2.rig.shooter = before.world.rig.shooter) := by
  obtain ⟨entered, layout, id, function, enters, follows⟩ := exists_enter script equipped reads
  refine ⟨entered, enters, fun earlier => ⟨startsShot_operated follows earlier, ?_, ?_⟩⟩
  · intro pressed held stays
    have followsEarlier := follows.operated earlier
    rw [after_press, pressed] at followsEarlier
    exact shots_held followsEarlier stays
  · intro busy now
    have atWork : (entered.operated scripting earlier).world.rig.shooter.phase ≠ .idle := by
      intro idle
      rw [Sequence.isIdle, idle] at busy
      cases busy
    exact ((follows.operated earlier).tick_given now).1.trans (Sequence.shootIf_of_busy atWork)

theorem slowed_robot_shoots_on_press :
    scriptNamed? slowedSession.world "teleop.bot" = some teleop ∧
      IsEquipped (machineOf (slowedSession.readied scripting .teleop)) ∧
      ReadsFactor (machineOf (slowedSession.readied scripting .teleop))
        (machineOf (slowedSession.begun scripting .teleop "teleop.bot")) ∧
      ∃ entered, slowedSession.enter scripting .teleop (some "teleop.bot") = (.ok (), entered) ∧
        ∀ now, entered.startsShot scripting now = true ↔
          ∃ snapshot, now = some snapshot ∧ snapshot.button 0 = true ∧
            entered.world.rig.shooter.isIdle = true := by
  obtain ⟨entered, enters, presses⟩ := @teleop_shoots_on_press slowedSession "teleop.bot"
    scriptNamed?_slowedSession isEquipped_slowedSession readsFactor_slowedSession
  refine ⟨scriptNamed?_slowedSession, isEquipped_slowedSession, readsFactor_slowedSession, entered,
    enters, fun now => ((presses []).1 now).trans (exists_congr fun snapshot => ?_)⟩
  exact and_congr_right fun _ => and_congr_right fun _ => and_iff_right rfl

end ScriptedRobot.Deployed.Teleop
