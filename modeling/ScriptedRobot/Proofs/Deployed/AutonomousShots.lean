import ScriptedRobot.Deployed.Autonomous
import ScriptedRobot.Proofs.Capability.Offering
import ScriptedRobot.Proofs.Deployed.Loading
import ScriptedRobot.Proofs.Engine.Triggers

/-! # Shots of the autonomous program

The autonomous program counts its ticks, and remembers nothing of its shots: from its hundredth tick
on it tells the shooter to shoot whenever that is idle. So one activation starts more than one shot
once it is long enough (`autonomous_shoots_whenever_idle`). -/

namespace ScriptedRobot.Deployed.Autonomous

open Capability (IsEquipped machineOf)
open Control (Session)
open Engine (Follows Obeys Trigger onMachine scripting)
open Gamepad (Snapshot)
open Script
open Script.Run
open Shooter (Sequence Settings)

/-! ## The program -/

/-- The statements of one step. -/
def step : List Stmt := [
  .setVariable "ticks" (.binary .add (.variable "ticks") (.integer 1)),
  .branch (.binary .less (.variable "ticks") (.integer 100))
    [command "drivetrain" "drive" [.number 0.4, .number 0.0]]
    [command "drivetrain" "stop" [],
      .branch (Steps.callSymbol "shooter" "is_idle" [])
        [command "shooter" "shoot" []]
        []]]

/-- The statements that begin an activation. -/
def beginning : List Stmt := [
  .setVariable "ticks" (.integer 0),
  command "shooter" "load" []]

def callbacks : List (String × List Stmt) := [
  ("autonomous_init", beginning),
  ("autonomous", step),
  ("cleanup", [command "drivetrain" "stop" [], command "shooter" "stop" []])]

theorem autonomous_eq : autonomous = program ([.declare ["ticks"] [.integer 0]] ++
    callbacks.map fun entry => callback entry.1 entry.2) := rfl

/-- The program pulls once it has counted a hundred ticks, whatever the operator does. -/
def timer : Trigger Int64 where
  pulls ticks _ := decide (100 ≤ (ticks + 1).toInt)
  next ticks _ := ticks + 1

theorem after_timer (inputs : List (Option Snapshot)) :
    timer.after 0 inputs = Int64.ofNat inputs.reduceOption.length := by
  unfold Trigger.after
  induction inputs.reduceOption using List.reverseRecOn with
  | nil => rfl
  | append_singleton earlier snapshot ih =>
      rw [List.foldl_append, ih, List.length_append, Int64.ofNat_add]
      rfl

theorem pulls_timer (ticks : Nat) (snapshot : Snapshot) :
    timer.pulls (Int64.ofNat ticks) snapshot =
      decide (100 ≤ (Int64.ofNat (ticks + 1)).toInt) := by
  rw [Int64.ofNat_add]
  rfl

/-! ## One step -/

section Step

variable {id cell : Nat} {captured : List (String × Nat)} {ticks : Int64} {machine : Machine Rig}

/-- The variable of the program holds a number of ticks, and a function runs its step. -/
structure Counts (id cell : Nat) (captured : List (String × Nat)) (ticks : Int64)
    (machine : Machine Rig) : Prop where
  equipped : IsEquipped machine
  names : captured.lookup "ticks" = some cell
  holds : machine.store.cells[cell]? = some (.integer ticks)
  runs : machine.store.closures[id]? = some ⟨[], step, captured⟩

theorem exists_passes_step (counts : Counts id cell captured ticks machine) :
    ∃ after, Passes (callAt 199) step { captured } machine { captured } after ∧
      Counts id cell captured (ticks + 1) after ∧
      after.native.shooter =
        machine.native.shooter.shootIf (decide (100 ≤ (ticks + 1).toInt)) := by
  obtain ⟨equipped, names, holds, runs⟩ := counts
  have named : ({ captured } : Scope).cell? "ticks" = some cell := names
  let counted : Machine Rig :=
    { machine with store := machine.store.setCell cell (.integer (ticks + 1)) }
  have sum : (evalExpr (callAt 199) { captured }
      (.binary .add (.variable "ticks") (.integer 1))).start machine =
        (.ok [.integer (ticks + 1)], machine) :=
    start_binary (start_variable named holds) (start_integer 1)
  have advanced : Passes (callAt 199) _ { captured } machine { captured } counted :=
    .setVariable named sum
  have holdsCounted : counted.store.cells[cell]? = some (.integer (ticks + 1)) := by
    obtain ⟨within, _⟩ := Array.getElem?_eq_some_iff.mp holds
    exact Array.getElem?_setIfInBounds_self_of_lt within
  have equippedCounted : IsEquipped counted := equipped.of_kept (fun _ _ => rfl) rfl rfl
  have compared : (evalExpr (callAt 199) { captured }
      (.binary .less (.variable "ticks") (.integer 100))).start counted =
        (.ok [.boolean (decide ((ticks + 1).toInt < 100))], counted) := by
    rw [start_binary (start_variable named holdsCounted) (start_integer 100)]
    refine congrArg (fun below => (Except.ok [Value.boolean below], counted)) ?_
    rw [Bool.eq_iff_iff, beq_iff_eq, Option.some.injEq, compare_lt_iff_lt, decide_eq_true_iff]
    rfl
  have still (rig : Rig) (journal : Array Event) (locks : rig.poisoned = machine.native.poisoned) :
      Counts id cell captured (ticks + 1) { counted with native := rig, journal } :=
    ⟨equipped.of_kept (fun _ _ => rfl) rfl locks, names, holdsCounted, runs⟩
  by_cases below : (ticks + 1).toInt < 100
  · rw [decide_eq_true below] at compared
    have speeds : (evalArguments (callAt 199) { captured } [.number 0.4, .number 0.0]).start
        counted = (.ok [.number 0.4, .number 0.0], counted) :=
      start_evalArguments_cons _ _ (start_number 0.4)
        (start_evalArguments_singleton (start_number 0.0))
    obtain ⟨drivetrain, journal, driven⟩ :=
      equippedCounted.exists_passes_drive speeds rfl rfl rfl
    have waits : decide (100 ≤ (ticks + 1).toInt) = false := decide_eq_false (by omega)
    refine ⟨_, advanced.cons (.branch compared driven), still _ _ rfl, ?_⟩
    rw [waits]
    rfl
  · rw [decide_eq_false below] at compared
    obtain ⟨drivetrain, journal, stopped⟩ := equippedCounted.exists_passes_stopDrive
    let halted : Machine Rig :=
      { counted with native := { machine.native with drivetrain }, journal }
    have equippedHalted : IsEquipped halted :=
      (still { machine.native with drivetrain } journal rfl).equipped
    have shoots : decide (100 ≤ (ticks + 1).toInt) = true := decide_eq_true (by omega)
    refine ⟨_, advanced.cons (.branch compared
      (stopped.cons equippedHalted.passes_shootWhenIdle)), still _ _ rfl, ?_⟩
    rw [shoots]
    rfl

theorem obeys_timer : Obeys timer (.closure id) (Counts id cell captured) where
  same counts store registry locks :=
    ⟨counts.equipped.of_kept (fun _ _ => congrArg (Store.table · _) store) registry locks,
      counts.names, store ▸ counts.holds, store ▸ counts.runs⟩
  turn counts := by
    obtain ⟨after, passes, countsAfter, shooter⟩ := exists_passes_step counts
    exact ⟨[], after, start_call_of_passes counts.runs passes, countsAfter, shooter⟩

end Step

/-! ## The start -/

theorem Counts.passes_beginning {id cell : Nat} {captured : List (String × Nat)} {ticks : Int64}
    {machine : Machine Rig} (counts : Counts id cell captured ticks machine) :
    ∃ after, Passes (callAt 199) beginning { captured } machine { captured } after ∧
      Counts id cell captured 0 after ∧ after.native = machine.native.changeShooter .load := by
  obtain ⟨equipped, names, holds, runs⟩ := counts
  obtain ⟨within, _⟩ := Array.getElem?_eq_some_iff.mp holds
  let restarted : Machine Rig := { machine with store := machine.store.setCell cell (.integer 0) }
  have equippedRestarted : IsEquipped restarted := equipped.of_kept (fun _ _ => rfl) rfl rfl
  have loads : Capability.shooterCommand "load" .load ∈ Capability.capabilitiesOf .shooter := by
    simp [Capability.capabilitiesOf, Capability.shooterCapabilities]
  have cleared : Passes (callAt 199) _ { captured } machine { captured } restarted :=
    .setVariable names (start_integer 0)
  refine ⟨_, cleared.cons (equippedRestarted.passes_shooterCommand loads), ⟨?_, names, ?_, runs⟩,
    rfl⟩
  · exact equippedRestarted.of_kept (fun _ _ => rfl) rfl rfl
  · exact Array.getElem?_setIfInBounds_self_of_lt within

/-- The program is loaded with a count of no ticks, and its step is known. -/
theorem exists_counts {host : Host} {name : String}
    (script : scriptNamed? host name = some autonomous) (equipped : IsEquipped (machineOf host)) :
    ∃ program after made id cell captured, Engine.load name host = (program, after) ∧
      Loaded host captured callbacks made program after ∧
      program.callbacks.lookup .autonomous = some (.closure id) ∧
      Counts id cell captured 0 (machineOf after) := by
  rw [autonomous_eq] at script
  let body := [.declare ["ticks"] [.integer 0]] ++
    callbacks.map fun entry => callback entry.1 entry.2
  let start := inFactory body (machineOf host)
  let made := addCell (.integer 0) start
  let captured :=
    [("ticks", start.store.cells.size), (descriptorName, host.scripts.store.cells.size)]
  have passes : Passes (callAt 199) [.declare ["ticks"] [.integer 0]]
      (factoryScope (machineOf host)) start { own := captured } made :=
    passes_declare (start_integer 0)
  have refers : made.store.cells[host.scripts.store.cells.size]? =
      some (.table host.scripts.store.tables.size) :=
    cell_addCell_of_some (isDescriptor_opened (machineOf host)).refers _
  obtain ⟨program, after, ran, loaded⟩ :=
    exists_loaded script passes ⟨_, _, rfl⟩ rfl refers (by decide)
  obtain ⟨id, stepIs, runs⟩ := loaded.defined .autonomous step (by simp [callbacks, Hook.name])
  refine ⟨program, after, made, id, start.store.cells.size, captured, ran, loaded, stepIs,
    loaded.isEquipped equipped, rfl, ?_, runs⟩
  have holds : made.store.cells[start.store.cells.size]? = some (.integer 0) := cell_addCell _ _
  exact loaded.cells ▸ holds

/-- The program is entered with a count of no ticks, and with the shooter at work on a load. -/
theorem exists_enter {session : Session Engine Callable} {name : String}
    (script : scriptNamed? session.world name = some autonomous)
    (equipped : IsEquipped (machineOf (session.readied scripting .autonomous))) :
    ∃ entered id cell captured,
      session.enter scripting .autonomous (some name) = (.ok (), entered) ∧
      entered.world.rig.shooter =
        (Sequence.new (session.readied scripting .autonomous).rig.shooter.settings).load ∧
      Follows ⟨.autonomousInit, .autonomous, .autonomousExit⟩ timer (.closure id)
        (Counts id cell captured) 0 entered := by
  have scriptReadied :
      scriptNamed? (session.readied scripting .autonomous) name = some autonomous := script
  have fresh : (session.readied scripting .autonomous).rig.shooter =
      Sequence.new (session.readied scripting .autonomous).rig.shooter.settings := rfl
  obtain ⟨program, after, made, id, cell, captured, ran, loaded, stepIs, counts⟩ :=
    exists_counts scriptReadied equipped
  obtain ⟨first, startIs, begins⟩ :=
    loaded.defined .autonomousInit beginning (by simp [callbacks, Hook.name])
  let noted := after.note .info .scripts ("loaded program " ++ program.name)
  have countsNoted : Counts id cell captured 0 (machineOf noted) :=
    obeys_timer.same counts rfl rfl rfl
  obtain ⟨ready, passesStart, countsReady, native⟩ := countsNoted.passes_beginning
  have called : (Run.call (.closure first) []).start (machineOf noted) = (.ok [], ready) :=
    start_call_of_passes begins passesStart
  have completes : Control.Program.Completes scripting program.callbacks
      [.init, .prepare, .autonomousInit] noted (onMachine noted ready) :=
    .undefined (loaded.undefined .init (by simp [callbacks, Hook.name]))
      (.undefined (loaded.undefined .prepare (by simp [callbacks, Hook.name]))
        (.defined startIs (Engine.runCallback_of_start called) .nil))
  obtain ⟨entered, enters, world, follows⟩ := Engine.exists_enter_follows rfl ran loaded.usable
    completes stepIs obeys_timer countsReady
  refine ⟨entered, id, cell, captured, enters, ?_, follows⟩
  have shooter : ready.native.shooter = after.rig.shooter.load := congrArg Rig.shooter native
  rw [world, ← fresh, ← loaded.rig]
  exact shooter

/-! ## The shots -/

/-- The tick that starts the first shot: the hundredth, or the first after the load. -/
def firstShot (settings : Settings) : Nat :=
  max 100 (settings.intakeTicks + 1)

/-- Where the shooter stands after so many ticks and shots. From the first shot on the ticks are
those of the shots but for those left of the last. -/
structure Stands (settings : Settings) (ticks shots : Nat) (shooter : Sequence) : Prop where
  timed : shooter.IsTimed
  same : shooter.settings = settings
  early : ticks < firstShot settings →
    shots = 0 ∧ shooter.remaining = settings.intakeTicks - ticks
  late : firstShot settings ≤ ticks → shooter.remaining < settings.shootTicks ∧
    ticks + 1 - firstShot settings + shooter.remaining = shots * settings.shootTicks

section Shots

variable {settings : Settings} {ticks shots : Nat} {shooter : Sequence}

theorem stands_load (settings : Settings) : Stands settings 0 0 (Sequence.new settings).load where
  timed := (Shooter.Sequence.isTimed_new settings).apply .load
  same := rfl
  early _ := ⟨rfl, rfl⟩
  late begun := absurd begun (by unfold firstShot; omega)

theorem Stands.tick (stands : Stands settings ticks shots shooter) :
    Stands settings (ticks + 1) (shots + (shooter.isIdle && decide (100 ≤ ticks + 1)).toNat)
      (shooter.shootIf (decide (100 ≤ ticks + 1))).advance := by
  obtain ⟨timed, same, early, late⟩ := stands
  have budget : 1 ≤ settings.shootTicks := settings.one_le_ticksFor _
  have left := timed.remaining_advance_shootIf (decide (100 ≤ ticks + 1))
  have idle : shooter.isIdle = decide (shooter.remaining = 0) := by
    rw [Bool.eq_iff_iff, decide_eq_true_iff, timed.idle_iff]
    exact beq_iff_eq
  have first : firstShot settings = max 100 (settings.intakeTicks + 1) := rfl
  rw [same] at left
  rw [idle]
  refine ⟨(timed.shootIf _).apply .process, ?_, fun before => ?_, fun begun => ?_⟩
  · rw [Shooter.Sequence.settings_advance, Shooter.Sequence.settings_shootIf, same]
  · obtain ⟨none, loading⟩ := early (by omega)
    by_cases done : shooter.remaining = 0
    · have waits : decide (100 ≤ ticks + 1) = false := decide_eq_false (by omega)
      rw [left, if_pos done, waits, if_neg Bool.false_ne_true, Bool.and_false]
      exact ⟨none, by omega⟩
    · rw [left, if_neg done, decide_eq_false done, Bool.false_and]
      exact ⟨none, by omega⟩
  · have shoots : decide (100 ≤ ticks + 1) = true := decide_eq_true (by omega)
    have total : shooter.remaining < settings.shootTicks ∧
        ticks + 1 - firstShot settings + shooter.remaining = shots * settings.shootTicks := by
      by_cases before : ticks < firstShot settings
      · obtain ⟨none, loading⟩ := early before
        rw [none, Nat.zero_mul]
        omega
      · exact late (by omega)
    rw [left, shoots, if_pos rfl, Bool.and_true]
    by_cases done : shooter.remaining = 0
    · rw [if_pos done, decide_eq_true done, Bool.toNat_true, Nat.succ_mul]
      omega
    · rw [if_neg done, decide_eq_false done, Bool.toNat_false, Nat.add_zero shots]
      omega

theorem Stands.shots_eq (stands : Stands settings ticks shots shooter) :
    shots = if ticks < firstShot settings then 0
      else (ticks - firstShot settings) / settings.shootTicks + 1 := by
  split
  case isTrue before => exact (stands.early before).1
  case isFalse begun =>
      obtain ⟨left, total⟩ := stands.late (Nat.not_lt.mp begun)
      cases shots with
      | zero => omega
      | succ others =>
          rw [Nat.succ_mul] at total
          have quotient : (ticks - firstShot settings) / settings.shootTicks = others :=
            Nat.div_eq_of_lt_le (by omega) (by rw [Nat.succ_mul]; omega)
          rw [quotient]

end Shots

section Activation

variable {session entered : Session Engine Callable} {name : String} {settings : Settings}
  {id cell : Nat} {captured : List (String × Nat)}

/-- A tick of the activation starts a shot exactly if it is one from the hundredth on and the
shooter is idle. -/
theorem startsShot_operated (follows : Follows ⟨.autonomousInit, .autonomous, .autonomousExit⟩ timer
    (.closure id) (Counts id cell captured) 0 entered) (earlier : List (Option Snapshot))
    (now : Option Snapshot) :
    (entered.operated scripting earlier).startsShot scripting now = true ↔
      now.isSome = true ∧ 100 ≤ (Int64.ofNat (earlier.reduceOption.length + 1)).toInt ∧
        (entered.operated scripting earlier).world.rig.shooter.isIdle = true := by
  rw [follows.startsShot_operated, after_timer, Bool.and_eq_true, and_comm, ← and_assoc]
  refine and_congr_left fun _ => ?_
  cases now with
  | none => exact iff_of_false Bool.false_ne_true (fun given => Bool.false_ne_true given.1)
  | some snapshot =>
      rw [Trigger.pullsOn, Option.any_some, pulls_timer, decide_eq_true_iff]
      exact (and_iff_right rfl).symm

theorem stands_operated (follows : Follows ⟨.autonomousInit, .autonomous, .autonomousExit⟩ timer
    (.closure id) (Counts id cell captured) 0 entered)
    (loading : entered.world.rig.shooter = (Sequence.new settings).load)
    (snapshots : List Snapshot) (few : snapshots.length < 2 ^ 63) :
    Stands settings snapshots.length (entered.shots scripting (snapshots.map some))
      (entered.operated scripting (snapshots.map some)).world.rig.shooter := by
  induction snapshots using List.reverseRecOn with
  | nil => exact loading ▸ stands_load settings
  | append_singleton earlier snapshot ih =>
      rw [List.length_append, List.length_singleton] at few
      have before := ih (by omega)
      have counted : (earlier.map some).reduceOption.length = earlier.length := by
        simp [List.reduceOption]
      have pulls : timer.pullsOn (timer.after 0 (earlier.map some)) (some snapshot) =
          decide (100 ≤ earlier.length + 1) := by
        rw [after_timer, counted, Trigger.pullsOn, Option.any_some, pulls_timer,
          Int64.toInt_ofNat_of_lt few]
        exact decide_eq_decide.mpr (by omega)
      have given := (follows.operated (earlier.map some)).tick_given (some snapshot)
      rw [List.map_append, List.map_singleton, Session.shots_concat, Session.operated_concat,
        follows.startsShot_operated, given.2.1, pulls, List.length_append]
      exact before.tick

end Activation

/-! ## A slow robot -/

/-- A robot with the program, and without a configuration. -/
def slowRobot : Host :=
  robotWith [] "autonomous.bot" autonomous

/-- A tick lasts a second: a load takes one, and a shot takes two. -/
def slowSession : Session Engine Callable :=
  .start 1000 slowRobot

theorem scriptNamed?_slowSession :
    scriptNamed? slowSession.world "autonomous.bot" = some autonomous := by
  unfold slowSession slowRobot
  rw [scriptNamed?_start]
  exact scriptNamed?_robotWith [] (by decide +kernel) (by decide +kernel)

theorem isEquipped_slowRobot : IsEquipped (machineOf slowRobot) := by
  have nothing (host : Host) : Engine.execute [] host = (.ok (), host) := rfl
  unfold slowRobot
  apply isEquipped_robotWith
  · rw [nothing, scripts_start]
    exact Capability.tidy_initial
  · decide +kernel

theorem isEquipped_slowSession :
    IsEquipped (machineOf (slowSession.readied scripting .autonomous)) := by
  have unconfigured : ((slowRobot.scripts.store.table Store.globalsId).get
      (.text Configuration.Global.globalName)).isTruthy = false := by decide +kernel
  have plain : Configuration.IsPlain slowRobot.scripts.store := by
    intro table found
    rw [found] at unconfigured
    cases unconfigured
  unfold slowSession
  exact Engine.isEquipped_start isEquipped_slowRobot plain 1000 .autonomous

theorem firstShot_slowSession :
    firstShot (slowSession.readied scripting .autonomous).rig.shooter.settings = 100 := by
  decide +kernel

theorem shootTicks_slowSession :
    (slowSession.readied scripting .autonomous).rig.shooter.settings.shootTicks = 2 := by
  decide +kernel

/-! ## Shots without end -/

/-- An activation shoots again and again: on every tick from the hundredth on that finds the shooter
idle. As long as the pad is plugged in, one shot follows the other without a pause. -/
theorem autonomous_shoots_whenever_idle {session : Session Engine Callable} {name : String}
    (script : scriptNamed? session.world name = some autonomous)
    (equipped : IsEquipped (machineOf (session.readied scripting .autonomous))) :
    ∃ entered, session.enter scripting .autonomous (some name) = (.ok (), entered) ∧
      (∀ earlier now, (entered.operated scripting earlier).startsShot scripting now = true ↔
        now.isSome = true ∧ 100 ≤ (Int64.ofNat (earlier.reduceOption.length + 1)).toInt ∧
          (entered.operated scripting earlier).world.rig.shooter.isIdle = true) ∧
      ∀ snapshots : List Snapshot, snapshots.length < 2 ^ 63 →
        let settings := (session.readied scripting .autonomous).rig.shooter.settings
        entered.shots scripting (snapshots.map some) =
          if snapshots.length < firstShot settings then 0
          else (snapshots.length - firstShot settings) / settings.shootTicks + 1 := by
  obtain ⟨entered, id, cell, captured, enters, loading, follows⟩ := exists_enter script equipped
  refine ⟨entered, enters, startsShot_operated follows, fun snapshots few => ?_⟩
  exact (stands_operated follows loading snapshots few).shots_eq

theorem slow_robot_shoots_whenever_idle :
    scriptNamed? slowSession.world "autonomous.bot" = some autonomous ∧
      IsEquipped (machineOf (slowSession.readied scripting .autonomous)) ∧
      ∃ entered, slowSession.enter scripting .autonomous (some "autonomous.bot") =
          (.ok (), entered) ∧
        ∀ snapshots : List Snapshot, snapshots.length < 2 ^ 63 →
          entered.shots scripting (snapshots.map some) =
            if snapshots.length < 100 then 0 else (snapshots.length - 100) / 2 + 1 := by
  obtain ⟨entered, enters, _, shots⟩ :=
    @autonomous_shoots_whenever_idle slowSession _ scriptNamed?_slowSession isEquipped_slowSession
  dsimp only at shots
  rw [firstShot_slowSession, shootTicks_slowSession] at shots
  exact ⟨scriptNamed?_slowSession, isEquipped_slowSession, entered, enters, shots⟩

/-- The first shot is started on the hundredth tick, and the second on the tick after the next. -/
theorem autonomous_starts_two_shots :
    let outcome := slowSession.enter scripting .autonomous (some "autonomous.bot")
    (slowSession.readied scripting .autonomous).rig.shooter.settings.fault? = none ∧
      outcome.1 = .ok () ∧
      outcome.2.shots scripting ((List.replicate 102 Snapshot.neutral).map some) = 2 := by
  obtain ⟨entered, id, cell, captured, enters, loading, follows⟩ :=
    @exists_enter slowSession _ scriptNamed?_slowSession isEquipped_slowSession
  have stands := stands_operated follows loading (List.replicate 102 Snapshot.neutral)
    (by rw [List.length_replicate]; decide)
  have shots := stands.shots_eq
  rw [firstShot_slowSession, shootTicks_slowSession, List.length_replicate] at shots
  rw [enters]
  exact ⟨by decide +kernel, rfl, shots⟩

end ScriptedRobot.Deployed.Autonomous
