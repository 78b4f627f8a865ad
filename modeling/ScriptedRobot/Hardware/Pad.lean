import ScriptedRobot.Gamepad
import ScriptedRobot.Number.Binary64

/-! # Gamepads

The devices a snapshot is read from. A held pad keeps the values it was given. A sweeping pad
replays a pattern: the left stick sweeps back and forth once in a hundred reads, and one button is
pressed on every so many reads. -/

namespace ScriptedRobot.Hardware

/-- The constant pattern of a sweeping pad and its progress. -/
structure Sweep where
  pressEvery : Nat := 50
  reads : Nat := 0
  deriving Repr

namespace Sweep

/-- A full turn, in radians. -/
def fullTurn : Float := 6.283185307179586

/-- A pattern with a press on every so many reads; zero counts as one. -/
def new (pressEvery : Nat) : Sweep :=
  { pressEvery := max 1 pressEvery }

/-- Where the stick stands after a number of reads. -/
def stick (reads : Nat) : Float :=
  let phase := Number.ofInt (reads % 100 : Nat) / 100.0
  (phase * fullTurn).sin * -0.5

/-- One read: only the left stick and one button are written. -/
def read (sweep : Sweep) (snapshot : Gamepad.Snapshot) : Gamepad.Snapshot × Sweep :=
  let reads := sweep.reads + 1
  let snapshot := snapshot.setAxis Gamepad.Axis.leftStickY.index (stick reads)
  let snapshot := snapshot.setButton Gamepad.Button.a.index (reads % sweep.pressEvery == 0)
  (snapshot, { sweep with reads })

end Sweep

/-- What determines the values read from a pad. -/
inductive PadInput where
  | held (snapshot : Gamepad.Snapshot)
  | sweeping (sweep : Sweep)

/-- A pad, plugged in or not. -/
structure Pad where
  connected : Bool := true
  input : PadInput

namespace Pad

/-- A connected pad that holds neutral values. -/
def neutral : Pad :=
  { input := .held .neutral }

/-- A connected pad that sweeps. -/
def sweeping (pressEvery : Nat) : Pad :=
  { input := .sweeping (Sweep.new pressEvery) }

instance : Inhabited Pad := ⟨neutral⟩

/-- Copy the current values into a snapshot. -/
def read (pad : Pad) (snapshot : Gamepad.Snapshot) : Gamepad.Snapshot × Pad :=
  match pad.input with
  | .held values => (values, pad)
  | .sweeping sweep =>
    let (snapshot, sweep) := sweep.read snapshot
    (snapshot, { pad with input := .sweeping sweep })

/-- Change the values a pad holds. -/
def hold (pad : Pad) (change : Gamepad.Snapshot → Gamepad.Snapshot) : Pad :=
  match pad.input with
  | .held values => { pad with input := .held (change values) }
  | .sweeping _ => pad

end Pad

end ScriptedRobot.Hardware
