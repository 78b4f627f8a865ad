import ScriptedRobot.Capability.Grant
import ScriptedRobot.Script.Argument

/-! # Probes

Small capabilities over named counters, one of every shape: commands, numbers, truth values,
functions with arguments, and functions that fail. They are there to try a registry out. -/

namespace ScriptedRobot.Capability

open Script (Value Neutral ArgumentFault)

/-- Counters by name, in the order in which they were first named. -/
abbrev Counters : Type := List (String × Int64)

namespace Counters

/-- The value of a counter. -/
def value (counters : Counters) (name : String) : Int64 :=
  (counters.lookup name).getD 0

/-- Set a counter. -/
def set (counters : Counters) (name : String) (value : Int64) : Counters :=
  if (counters.lookup name).isSome then
    counters.map fun entry => if entry.1 = name then (name, value) else entry
  else counters ++ [(name, value)]

/-- Make sure that a counter exists. -/
def declare (counters : Counters) (name : String) : Counters :=
  counters.set name (counters.value name)

end Counters

/-- What a probe does. -/
inductive Probe where
  /-- Count up by one. -/
  | bump
  /-- The counter as a number. -/
  | value
  /-- Whether the counter is positive. -/
  | ready
  | failAction
  | failNumber
  | failBoolean
  /-- The sum of two numbers. -/
  | add
  /-- Add to the counter, wrapping around. -/
  | addTo
  /-- A truth value, and whether a number was given with it. -/
  | perhaps
  /-- Two texts joined. -/
  | join
  /-- The arguments. -/
  | echo
  /-- What a function of the script returns. -/
  | apply
  deriving Repr, DecidableEq

namespace Probe

/-- The probes by name. -/
def byName : List (String × Probe) := [
  ("bump", .bump), ("value", .value), ("ready", .ready), ("fail_action", .failAction),
  ("fail_number", .failNumber), ("fail_boolean", .failBoolean), ("add", .add),
  ("add_to", .addTo), ("maybe", .perhaps), ("concat", .join), ("echo", .echo),
  ("apply", .apply)]

/-- What a retracted probe answers. -/
def neutral : Probe → Neutral
  | .bump | .failAction | .addTo | .join => .nothing
  | .value | .failNumber | .add | .echo => .zero
  | .ready | .failBoolean | .perhaps | .apply => .no

/-- What a probe answers, and the counters afterwards. The name is that of the counter, or the
message of a probe that fails. -/
def answer (probe : Probe) (name : String) (arguments : List Value) (counters : Counters) :
    Except ArgumentFault (Reply × Counters) :=
  let argument := Value.argument arguments
  let count := counters.value name
  match probe with
  | .bump => return (.returns [], counters.set name (count + 1))
  | .value => return (.returns [.number (Number.ofInt64 count)], counters)
  | .ready => return (.returns [.boolean (decide (0 < count))], counters)
  | .failAction | .failNumber | .failBoolean => return (.fails name, counters)
  | .add => do
    let left ← (argument 0).toFloat
    let right ← (argument 1).toFloat
    return (.returns [.number (left + right)], counters)
  | .addTo => do
    let amount ← (argument 0).toInteger
    return (.returns [.integer (count + amount)], counters.set name (count + amount))
  | .perhaps => do
    let number ← (argument 1).toOption Value.toFloat
    return (.returns [.boolean (argument 0).isTruthy, .boolean number.isSome,
      (number.map Value.number).getD .nil], counters)
  | .join => do
    let left ← (argument 0).toText
    let right ← (argument 1).toOption Value.toText
    return (.returns [.text (left ++ right.getD "")], counters)
  | .echo => return (.returns arguments, counters)
  | .apply => do
    let callee ← (argument 0).toCallable
    return (.delegates callee, counters)

/-- A probe as a capability. -/
def capability (probe : Probe) (symbol name : String) : Capability Counters where
  symbol := symbol
  neutral := probe.neutral
  perform arguments counters :=
    match probe.answer name arguments counters with
    | .ok (reply, counters) => (reply, counters, [])
    | .error fault => (.fails fault.message, counters, [])

end Probe

end ScriptedRobot.Capability
