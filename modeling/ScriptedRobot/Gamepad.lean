/-! # Gamepad snapshot

On every tick the control loop copies the operator's input into a snapshot, and programs read
the snapshot. A read outside the supported range is neutral, never an error. -/

namespace ScriptedRobot.Gamepad

/-- The number of axes. -/
abbrev axisCount : Nat := 32

/-- The number of buttons. -/
abbrev buttonCount : Nat := 16

/-- The number of direction pads. -/
abbrev directionPadCount : Nat := 1

/-- The axes with a name. -/
inductive Axis where
  | leftStickX
  | leftStickY
  | triggerLeft
  | triggerRight
  | rightStickX
  | rightStickY
  deriving Repr, DecidableEq

/-- The axes by name. -/
def Axis.byName : List (String × Axis) := [
  ("LeftStickX", .leftStickX), ("LeftStickY", .leftStickY), ("TriggerLeft", .triggerLeft),
  ("TriggerRight", .triggerRight), ("RightStickX", .rightStickX), ("RightStickY", .rightStickY)]

/-- The number of a named axis. -/
def Axis.index : Axis → Fin axisCount
  | .leftStickX => 0
  | .leftStickY => 1
  | .triggerLeft => 2
  | .triggerRight => 3
  | .rightStickX => 4
  | .rightStickY => 5

/-- The buttons with a name. -/
inductive Button where
  | a
  | b
  | x
  | y
  | rightBumper
  | leftBumper
  | back
  | start
  | home
  | leftStick
  | rightStick
  deriving Repr, DecidableEq

/-- The buttons by name. -/
def Button.byName : List (String × Button) := [
  ("A", .a), ("B", .b), ("X", .x), ("Y", .y), ("RightBumper", .rightBumper),
  ("LeftBumper", .leftBumper), ("Back", .back), ("Start", .start), ("Home", .home),
  ("L3", .leftStick), ("R3", .rightStick)]

/-- The number of a named button. -/
def Button.index : Button → Fin buttonCount
  | .a => 0
  | .b => 1
  | .x => 2
  | .y => 3
  | .rightBumper => 4
  | .leftBumper => 5
  | .back => 6
  | .start => 7
  | .home => 8
  | .leftStick => 9
  | .rightStick => 10

/-- The operator's input at one moment. -/
structure Snapshot where
  axes : Vector Float axisCount
  buttons : Vector Bool buttonCount
  directionPads : Vector Int32 directionPadCount

namespace Snapshot

/-- Everything released and centred. -/
def neutral : Snapshot where
  axes := Vector.replicate axisCount 0.0
  buttons := Vector.replicate buttonCount false
  directionPads := Vector.replicate directionPadCount 0

instance : Inhabited Snapshot := ⟨neutral⟩

/-- Snapshots are compared value by value; an axis that is not a number differs from itself. -/
instance : BEq Snapshot where
  beq left right :=
    left.axes.toList == right.axes.toList && left.buttons.toList == right.buttons.toList &&
    left.directionPads.toList == right.directionPads.toList

/-- The value at a number, or the neutral value when there is none. -/
def readAt {α : Type} {size : Nat} (values : Vector α size) (neutral : α) (index : Int) : α :=
  if 0 ≤ index then (values[index.toNat]?).getD neutral else neutral

/-- The axis with a number. -/
def axis (snapshot : Snapshot) (index : Int) : Float :=
  readAt snapshot.axes 0.0 index

/-- The button with a number. -/
def button (snapshot : Snapshot) (index : Int) : Bool :=
  readAt snapshot.buttons false index

/-- The direction pad with a number. -/
def directionPad (snapshot : Snapshot) (index : Int) : Int32 :=
  readAt snapshot.directionPads 0 index

/-- The value of a named axis. -/
def namedAxis (snapshot : Snapshot) (axis : Axis) : Float :=
  snapshot.axes[axis.index]

/-- Whether a named button is pressed. -/
def namedButton (snapshot : Snapshot) (button : Button) : Bool :=
  snapshot.buttons[button.index]

/-- Set the axis with a number; there is nothing to set outside the range. -/
def setAxis (snapshot : Snapshot) (index : Nat) (value : Float) : Snapshot :=
  { snapshot with axes := snapshot.axes.setIfInBounds index value }

/-- Set the button with a number. -/
def setButton (snapshot : Snapshot) (index : Nat) (pressed : Bool) : Snapshot :=
  { snapshot with buttons := snapshot.buttons.setIfInBounds index pressed }

/-- Set the direction pad with a number. -/
def setDirectionPad (snapshot : Snapshot) (index : Nat) (angle : Int32) : Snapshot :=
  { snapshot with directionPads := snapshot.directionPads.setIfInBounds index angle }

/-- The numbers of the axes whose value differs from an earlier snapshot. -/
def changedAxes (now before : Snapshot) : List Nat :=
  (List.range axisCount).filter fun index =>
    now.axes[index]? != before.axes[index]?

end Snapshot

end ScriptedRobot.Gamepad
