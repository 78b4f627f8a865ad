import ScriptedRobot.Proofs.Control.Effects
import ScriptedRobot.Proofs.Engine.HostEffects

/-! # Runs of a host

The control loop of a host is entered, ticked and left in any order, and in between the engine, the
files and the rig are used in any way. As long as nothing but capabilities of the rig is handed out,
which is so on every host, a relation between rigs that the commands of scripts stay within, and
that also allows resetting the shooter and reading the pad, is kept by every move but a tick. -/

namespace ScriptedRobot.Engine

open Script (Callable Failure Run Vettable)
open Control (ActivationClosed ControlClosed Move Scripting Session StepClosed)

/-- What happens to a host: the control loop makes a move, or the host uses its engine, its files
or its rig. Only ticks give volts to the wheels of the shooter. -/
inductive HostMove where
  | enter (mode : Mode) (programName : Option String)
  | tick
  | exit
  | bind (subsystem : Subsystem)
  | unbind (subsystem : Subsystem)
  | execute (chunk : Script.Chunk)
  | call (callable : Callable)
  | setSearchPath (directory : String)
  | bootstrap (candidates : List String) (marker : String)
  | overwrite (change : Script.Store → Script.Store)
  | replaceFiles (change : Files → Files)
  /-- Anything but the volts of the rig changes in any way. -/
  | operate (change : Rig → Rig)

namespace HostMove

/-- Whether a move is a tick. -/
def isTick : HostMove → Bool
  | .tick => true
  | _ => false

theorem eq_tick_of_isTick {move : HostMove} (ticking : move.isTick = true) : move = .tick := by
  cases move with
  | tick => rfl
  | enter _ _ | exit | bind _ | unbind _ | execute _ | call _ | setSearchPath _ | bootstrap _ _
  | overwrite _ | replaceFiles _ | operate _ => cases ticking

/-- What a move that is not one of the control loop does to the host. -/
def outside : HostMove → Host → Host
  | .bind subsystem, host => (Engine.bind subsystem host).2
  | .unbind subsystem, host => (Engine.unbind subsystem host).2
  | .execute chunk, host => (Engine.execute chunk host).2
  | .call callable, host => (runCallback callable host).2
  | .setSearchPath directory, host => (Engine.setSearchPath directory host).2
  | .bootstrap candidates marker, host => (Engine.bootstrap candidates marker host).2
  | .overwrite change, host =>
    { host with scripts := { host.scripts with store := change host.scripts.store } }
  | .replaceFiles change, host =>
    { host with scripts := { host.scripts with files := change host.scripts.files } }
  | .operate change, host => { host with rig := { change host.rig with volts := host.rig.volts } }
  | _, host => host

/-- A move that changes the objects or the rig directly stays within a relation between hosts. -/
def ChangesWithin (between : Host → Host → Prop) (host : Host) : HostMove → Prop
  | .overwrite change => between host ((HostMove.overwrite change).outside host)
  | .operate change => between host ((HostMove.operate change).outside host)
  | _ => True

/-- A move of a host as a move of its session. -/
def move : HostMove → Move Engine
  | .enter mode programName => .enter mode programName
  | .tick => .tick
  | .exit => .exit
  | other => .outside other.outside

end HostMove

/-- A run of a host whose engine was just started. -/
def hostRun (period : Int32) (host : Host) (moves : List HostMove) : Session Engine Callable :=
  Session.run scripting (moves.map HostMove.move) (.start period (start host))

theorem hostRun_append (period : Int32) (host : Host) (earlier later : List HostMove) :
    hostRun period host (earlier ++ later) =
      Session.run scripting (later.map HostMove.move) (hostRun period host earlier) := by
  unfold hostRun
  rw [List.map_append, Session.run_append]

/-- A relation between rigs that scripts stay within, and reading the pad too. -/
structure PadClosed (relation : Rig → Rig → Prop) : Prop
    extends Capability.RigClosed relation where
  readPad : ∀ rig, relation rig rig.readPad.1

/-- A relation between rigs that everything but a tick of the shooter stays within. -/
structure LoopClosed (relation : Rig → Rig → Prop) : Prop extends PadClosed relation where
  reset : ∀ rig settings, relation rig (rig.changeShooter fun shooter => shooter.reset settings)

theorem loopClosed_true : LoopClosed fun _ _ => True where
  refl _ := trivial
  trans _ _ := trivial
  load _ := trivial
  intake _ := trivial
  shoot _ := trivial
  stop _ := trivial
  drive _ _ _ := trivial
  stopDrive _ := trivial
  readPad _ := trivial
  reset _ _ := trivial

variable {relation : Rig → Rig → Prop}

/-- The scripts of the engine with settings of the shooter that are read in any way. -/
def scriptingWith (settings : Host → Shooter.Settings × Host) : Scripting Engine Callable :=
  { scripting with settings }

section Activation

variable {allowed : Failure → Prop} {holds : ∀ {α : Type} [Vettable α], Run Rig α → Prop}
  {between : Host → Host → Prop} (closed : EngineClosed allowed holds between)
include closed

/-- The control loop stays within a relation that the engine stays within, as far as it does so
where it acts on the rig itself. -/
theorem EngineClosed.activationClosed (settings : Host → Shooter.Settings × Host)
    (readPad : ∀ host : Host, between host (host.act Rig.readPad))
    (stopDrive : ∀ host : Host, between host (host.act Rig.stopDrive))
    (stopShooter : ∀ host : Host,
      between host (host.changeRig fun rig => rig.changeShooter Shooter.Sequence.stop)) :
    ActivationClosed (scriptingWith settings) between where
  refl := closed.refl
  trans := closed.trans
  note := closed.over_note
  run := closed.over_runCallback
  readPad := readPad
  load := closed.over_load
  collect := closed.refl
  stopDrive := stopDrive
  stopShooter := stopShooter

/-- What happens outside of the control loop stays within the relation, as far as it does so where
objects or the rig are changed directly. -/
theorem EngineClosed.outside (move : HostMove) (host : Host)
    (direct : move.ChangesWithin between host) : between host (move.outside host) := by
  cases move with
  | bind subsystem => exact closed.over_bind subsystem host
  | unbind subsystem => exact closed.over_unbind subsystem host
  | execute chunk => exact closed.over_execute chunk host
  | call callable => exact closed.over_runCallback callable host
  | setSearchPath directory => exact closed.over_setSearchPath directory host
  | bootstrap candidates marker => exact closed.over_bootstrap candidates marker host
  | overwrite _ | operate _ => exact direct
  | replaceFiles _ => exact closed.unseen rfl rfl rfl
  | enter _ _ | tick | exit => exact closed.refl host

end Activation

theorem PadClosed.activationClosed (closed : PadClosed relation)
    (settings : Host → Shooter.Settings × Host) :
    ActivationClosed (scriptingWith settings) (Within relation) :=
  (within_closed closed.toRigClosed).activationClosed settings
    (fun host ofRig => ⟨ofRig, closed.readPad host.rig⟩)
    (fun host ofRig => ⟨ofRig, closed.stopDrive host.rig⟩)
    (fun host ofRig => ⟨ofRig, closed.stop host.rig⟩)

theorem PadClosed.stepClosed (closed : PadClosed relation) :
    StepClosed scripting (Within relation) :=
  (closed.activationClosed scripting.settings).toStepClosed

theorem LoopClosed.controlClosed (closed : LoopClosed relation) :
    ControlClosed scripting (Within relation) where
  toActivationClosed := closed.activationClosed scripting.settings
  settings := (within_closed closed.toRigClosed).over_settings
  reset world settings _ ofRig := ⟨ofRig, closed.reset world.rig settings⟩

/-! ## Moves -/

/-- Whether a move that operates the rig stays within a relation. -/
def HostMove.StaysWithin (relation : Rig → Rig → Prop) : HostMove → Prop
  | .operate change => ∀ rig, relation rig { change rig with volts := rig.volts }
  | _ => True

theorem within_outside (rigClosed : Capability.RigClosed relation) {move : HostMove}
    (operated : move.StaysWithin relation) (host : Host) :
    Within relation host (move.outside host) := by
  refine (within_closed rigClosed).outside move host ?_
  cases move with
  | overwrite _ => exact fun ofRig => ⟨ofRig, rigClosed.refl host.rig⟩
  | operate _ => exact fun ofRig => ⟨ofRig, operated host.rig⟩
  | _ => trivial

/-- Every move but a tick stays within the relation, if the control loop does with its scripts. -/
theorem within_step_of {scripts : Scripting Engine Callable}
    (rigClosed : Capability.RigClosed relation) (control : ControlClosed scripts (Within relation))
    {move : HostMove} (silent : move.isTick = false) (operated : move.StaysWithin relation)
    (session : Session Engine Callable) :
    Within relation session.world (session.step scripts move.move).world := by
  cases move with
  | tick => cases silent
  | enter mode programName => exact control.enter mode programName session
  | exit => exact control.exit session
  | bind _ | unbind _ | execute _ | call _ | setSearchPath _ | bootstrap _ _ | overwrite _
  | replaceFiles _ | operate _ => exact within_outside rigClosed operated session.world

theorem within_step (closed : LoopClosed relation) {move : HostMove}
    (silent : move.isTick = false) (operated : move.StaysWithin relation)
    (session : Session Engine Callable) :
    Within relation session.world (session.step scripting move.move).world :=
  within_step_of closed.toRigClosed closed.controlClosed silent operated session

/-- What every move stays within, a run stays within. -/
theorem within_run_moves (rigClosed : Capability.RigClosed relation)
    {scripts : Scripting Engine Callable} {moves : List HostMove}
    (kept : ∀ move ∈ moves, ∀ session : Session Engine Callable,
      Within relation session.world (session.step scripts move.move).world)
    (session : Session Engine Callable) :
    Within relation session.world
      (Session.run scripts (moves.map HostMove.move) session).world := by
  induction moves generalizing session with
  | nil => exact (within_closed rigClosed).refl session.world
  | cons move rest ih =>
      have first := kept move List.mem_cons_self session
      exact (within_closed rigClosed).trans first
        (ih (fun later member => kept later (List.mem_cons_of_mem _ member)) _)

/-! ## Ticks -/

section Ticks

variable {scripts : Scripting Engine Callable} (session : Session Engine Callable)

theorem tick_snd : (session.tick scripts).2 = Session.endTick (session.midTick scripts).1
    (session.midTick scripts).2.1 (session.midTick scripts).2.2 :=
  congrArg Prod.snd (Session.tick_eq rfl)

/-- A tick ends with one tick of the shooter as the step of the program left it. -/
theorem shooter_tick : (session.tick scripts).2.world.rig.shooter =
    (session.midTick scripts).2.2.rig.shooter.advance := by
  rw [tick_snd]
  unfold Session.endTick
  cases (session.midTick scripts).1 <;> rfl

/-- A tick gives the volts of the shooter as the step of the program left it. -/
theorem volts_tick : (session.tick scripts).2.world.rig.volts =
    (session.midTick scripts).2.2.rig.shooter.output := by
  rw [tick_snd]
  unfold Session.endTick
  cases (session.midTick scripts).1 <;> rfl

end Ticks

section OfRig

variable {scripts : Scripting Engine Callable}
  (control : ControlClosed scripts (Within fun _ _ => True))
include control

theorem ofRig_tick {session : Session Engine Callable}
    (ofRig : session.world.scripts.registry.OfRig) :
    (session.tick scripts).2.world.scripts.registry.OfRig :=
  (control.tick (fun _ ofRig => ⟨ofRig, trivial⟩) session ofRig).1

theorem ofRig_step {session : Session Engine Callable} (move : HostMove)
    (ofRig : session.world.scripts.registry.OfRig) :
    (session.step scripts move.move).world.scripts.registry.OfRig := by
  by_cases ticking : move.isTick = true
  · obtain rfl := HostMove.eq_tick_of_isTick ticking
    exact ofRig_tick control ofRig
  · rw [Bool.not_eq_true] at ticking
    have unrelated : move.StaysWithin fun _ _ => True := by
      cases move with
      | operate _ => exact fun _ => trivial
      | _ => trivial
    exact (within_step_of loopClosed_true.toRigClosed control ticking unrelated session ofRig).1

theorem ofRig_run {session : Session Engine Callable}
    (initially : session.world.scripts.registry.OfRig) (moves : List HostMove) :
    (Session.run scripts (moves.map HostMove.move) session).world.scripts.registry.OfRig := by
  refine Session.run_induction
    (fun session : Session Engine Callable => session.world.scripts.registry.OfRig)
    (fun move => ∃ made : HostMove, made.move = move) ?_ (fun move member => ?_) initially
  · rintro session _ ⟨move, rfl⟩ ofRig
    exact ofRig_step control move ofRig
  · obtain ⟨made, _, same⟩ := List.mem_map.mp member
    exact ⟨made, same⟩

end OfRig

theorem rig_start (host : Host) : (start host).rig = host.rig := rfl

theorem ofRig_start (host : Host) : (start host).scripts.registry.OfRig :=
  ((within_closed loopClosed_true.toRigClosed).over_start host Capability.Registry.ofRig_empty).1

/-- On every host nothing but capabilities of the rig was ever handed out. -/
theorem ofRig_hostRun (period : Int32) (host : Host) (moves : List HostMove) :
    (hostRun period host moves).world.scripts.registry.OfRig :=
  ofRig_run loopClosed_true.controlClosed (ofRig_start host) moves

end ScriptedRobot.Engine
