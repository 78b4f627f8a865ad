import ScriptedRobot.Shooter.Settings

/-! # The shooter sequence

The wheels load a game piece or shoot it. From idle the shooter starts loading or shooting, and
from either it returns to idle when the budget of ticks is spent or when it is stopped. Loading
and shooting never follow each other directly, so that they cannot overlap. A shot warms up
first: only the primary wheels spin, then both.

One step of the sequence answers the volts for both wheels. -/

namespace ScriptedRobot.Shooter

/-- What the shooter is doing. -/
inductive Phase where
  | idle
  | loading
  | shooting
  deriving Repr, DecidableEq

/-- The name of a phase as a status text. -/
def Phase.label : Phase → String
  | .idle => "idle..."
  | .loading => "load!"
  | .shooting => "shoot!"

/-- The name of a phase. -/
def Phase.name : Phase → String
  | .idle => "Idle"
  | .loading => "Loading"
  | .shooting => "Shooting"

/-- Volts for the wheels. -/
structure Volts where
  primary : Float
  secondary : Float
  deriving Repr

namespace Volts

/-- Wheels at rest. -/
def off : Volts := ⟨0.0, 0.0⟩

end Volts

/-- The shooter: its phase, its settings, the ticks left and spent in the current sequence, and
the warm-up of the latest shot. -/
structure Sequence where
  settings : Settings
  phase : Phase := .idle
  remaining : Nat := 0
  warmupTicks : Nat := 0
  elapsed : Nat := 0
  deriving Repr

namespace Sequence

/-- An idle shooter. -/
def new (settings : Settings) : Sequence :=
  { settings }

/-- Back to idle with new settings; the past is forgotten. -/
def reset (_ : Sequence) (settings : Settings) : Sequence :=
  new settings

/-- Start loading if idle. -/
def load (sequence : Sequence) : Sequence :=
  match sequence.phase with
  | .idle =>
    { sequence with
      phase := .loading
      remaining := sequence.settings.intakeTicks
      elapsed := 0 }
  | _ => sequence

/-- Taking a piece in is the same as loading it. -/
def intake (sequence : Sequence) : Sequence :=
  sequence.load

/-- Start shooting if idle. -/
def shoot (sequence : Sequence) : Sequence :=
  match sequence.phase with
  | .idle =>
    { sequence with
      phase := .shooting
      remaining := sequence.settings.shootTicks
      warmupTicks := sequence.settings.warmupTicks
      elapsed := 0 }
  | _ => sequence

/-- Back to idle at once. -/
def stop (sequence : Sequence) : Sequence :=
  { sequence with phase := .idle, remaining := 0 }

/-- Whether the shooter is idle. -/
def isIdle (sequence : Sequence) : Bool :=
  sequence.phase == .idle

/-- Whether the shooter is loading. -/
def isLoading (sequence : Sequence) : Bool :=
  sequence.phase == .loading

/-- Whether the shooter is shooting. -/
def isShooting (sequence : Sequence) : Bool :=
  sequence.phase == .shooting

/-- Whether the current shot is still warming up. -/
def isWarmingUp (sequence : Sequence) : Bool :=
  sequence.isShooting && decide (sequence.elapsed < sequence.warmupTicks)

/-- The volts of the current tick. Loading turns the wheels backwards, and shooting forwards,
whatever the sign of the configured powers. -/
def output (sequence : Sequence) : Volts :=
  let settings := sequence.settings
  match sequence.phase with
  | .idle => .off
  | .loading => ⟨-settings.intakePrimaryPower.abs, -settings.intakeSecondaryPower.abs⟩
  | .shooting =>
    let power := settings.shootPower.abs
    ⟨power, if sequence.warmupTicks ≤ sequence.elapsed then power else 0.0⟩

/-- The countdown of one tick; a busy shooter turns idle when no ticks are left. -/
def advance (sequence : Sequence) : Sequence :=
  match sequence.phase with
  | .idle => sequence
  | phase =>
    { sequence with
      elapsed := sequence.elapsed + 1
      remaining := sequence.remaining - 1
      phase := if sequence.remaining - 1 = 0 then .idle else phase }

/-- One control tick: the volts to apply, and the shooter afterwards. -/
def process (sequence : Sequence) : Volts × Sequence :=
  (sequence.output, sequence.advance)

/-- The countdown of the shooter as a line of text. -/
def description (sequence : Sequence) : String :=
  "Shooter \x7b state: " ++ sequence.phase.name ++
  ", remaining: " ++ toString sequence.remaining ++
  ", warmup_ticks: " ++ toString sequence.warmupTicks ++
  ", elapsed: " ++ toString sequence.elapsed ++ " \x7d"

end Sequence

end ScriptedRobot.Shooter
