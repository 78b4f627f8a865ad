import ScriptedRobot.Control.Controller

/-! # Sessions

A session is the control loop in its world. It is entered, ticked and left in any order, and in
between anything may happen to the world: pads are plugged in and out, scripts are run, subsystems
are commanded. -/

namespace ScriptedRobot.Control

/-- The control loop in its world. -/
structure Session (ε π : Type) where
  controller : Controller π
  world : World ε

/-- What happens to a session. -/
inductive Move (ε : Type) where
  | enter (mode : Mode) (programName : Option String)
  | tick
  | exit
  /-- Something that is not the control loop changes the world in any way. -/
  | outside (change : World ε → World ε)

namespace Move

variable {ε : Type}

/-- Whether a move begins an activation. -/
def isEnter : Move ε → Bool
  | .enter _ _ => true
  | _ => false

/-- Whether a move ends an activation. -/
def isExit : Move ε → Bool
  | .exit => true
  | _ => false

end Move

namespace Session

variable {ε π : Type}

/-- A new control loop. -/
def start (period : Int32) (world : World ε) : Session ε π :=
  ⟨.new period, world⟩

/-- Enter a mode. -/
def enter (scripting : Scripting ε π) (mode : Mode) (programName : Option String)
    (session : Session ε π) : Except ScriptError Unit × Session ε π :=
  let (result, controller, world) :=
    session.controller.enter scripting mode programName session.world
  (result, ⟨controller, world⟩)

/-- Tick once. -/
def tick (scripting : Scripting ε π) (session : Session ε π) : TickOutcome × Session ε π :=
  let (outcome, controller, world) := session.controller.periodic scripting session.world
  (outcome, ⟨controller, world⟩)

/-- Leave the mode. -/
def exit (scripting : Scripting ε π) (session : Session ε π) :
    Except ScriptError Unit × Session ε π :=
  let (result, controller, world) := session.controller.exit scripting session.world
  (result, ⟨controller, world⟩)

/-- Make a move. -/
def step (scripting : Scripting ε π) (session : Session ε π) : Move ε → Session ε π
  | .enter mode programName => (session.enter scripting mode programName).2
  | .tick => (session.tick scripting).2
  | .exit => (session.exit scripting).2
  | .outside change => { session with world := change session.world }

/-- Make moves one after the other. -/
def run (scripting : Scripting ε π) (moves : List (Move ε)) (session : Session ε π) :
    Session ε π :=
  moves.foldl (step scripting) session

variable {scripting : Scripting ε π} {session : Session ε π}

@[simp] theorem run_nil : run scripting [] session = session := rfl

@[simp] theorem run_cons (move : Move ε) (moves : List (Move ε)) :
    run scripting (move :: moves) session = run scripting moves (session.step scripting move) :=
  rfl

theorem run_append (earlier later : List (Move ε)) :
    run scripting (earlier ++ later) session =
      run scripting later (run scripting earlier session) :=
  List.foldl_append

/-- What every allowed move keeps, a run of allowed moves keeps. -/
theorem run_induction (holds : Session ε π → Prop) (allowed : Move ε → Prop)
    (kept : ∀ session move, allowed move → holds session → holds (session.step scripting move))
    {moves : List (Move ε)} (admitted : ∀ move ∈ moves, allowed move) (initially : holds session) :
    holds (run scripting moves session) := by
  induction moves generalizing session with
  | nil => exact initially
  | cons move rest ih =>
      exact ih (fun later member => admitted later (List.mem_cons_of_mem _ member))
        (kept session move (admitted move List.mem_cons_self) initially)

end Session

end ScriptedRobot.Control
