import ScriptedRobot.Script.Numeral
import ScriptedRobot.Script.Syntax

/-! # Operators

What the operators of the language compute, and the errors they raise. Strings that are numerals
take part in arithmetic; comparisons never convert. Errors name the operand that is to blame, by
a description that the caller gives. -/

namespace ScriptedRobot.Script

/-- An operand with a description of where it comes from, for errors. -/
structure Operand where
  value : Value
  description : String := ""

namespace Arithmetic

/-- Compare an integer with a number exactly. -/
def compareInteger (left : Int) (right : Float) : Option Ordering :=
  match Number.denote right with
  | .notANumber => none
  | .infinite negative => some (if negative then .gt else .lt)
  | .finite negative mantissa exponent =>
    some (compare (left * Nat.pow 2 (-exponent).toNat)
      (Number.signed negative (mantissa * Nat.pow 2 exponent.toNat)))

/-- Compare two numbers. -/
def compareNumbers (left right : Float) : Option Ordering :=
  if left < right then some .lt
  else if left == right then some .eq
  else if right < left then some .gt
  else none

/-- The bytes of a string. -/
def stringBytes? : Value → Option (List UInt8)
  | .text value => some (Text.encodeUtf8 value)
  | .bytes value => some value
  | _ => none

/-- Whether two values are the same. -/
def areEqual : Value → Value → Bool
  | .nil, .nil => true
  | .boolean left, .boolean right => left == right
  | .integer left, .integer right => left == right
  | .number left, .number right => left == right
  | .integer left, .number right => compareInteger left.toInt right == some .eq
  | .number left, .integer right => compareInteger right.toInt left == some .eq
  | .text left, .text right => left == right
  | .bytes left, .bytes right => left == right
  | .table left, .table right => left == right
  | .function left, .function right => left == right
  | .failure left, .failure right => left == right
  | _, _ => false

/-- The complaint about values that have no order. -/
def orderComplaint (left right : Value) : Value :=
  if left.typeName == right.typeName then
    .text ("attempt to compare two " ++ left.typeName ++ " values")
  else
    .text ("attempt to compare " ++ left.typeName ++ " with " ++ right.typeName)

/-- Compare two values of the same kind; strings are compared byte by byte. -/
def order (left right : Value) : Except Value (Option Ordering) :=
  match left, right with
  | .integer left, .integer right => .ok (some (compare left.toInt right.toInt))
  | .number left, .number right => .ok (compareNumbers left right)
  | .integer left, .number right => .ok (compareInteger left.toInt right)
  | .number left, .integer right => .ok ((compareInteger right.toInt left).map Ordering.swap)
  | left, right =>
    match stringBytes? left, stringBytes? right with
    | some first, some second => .ok (some (List.compareLex compare first second))
    | _, _ => .error (orderComplaint left right)

/-- Whether a value is a number. -/
def isNumber : Value → Bool
  | .integer _ | .number _ => true
  | _ => false

/-- Whether a value is a string. -/
def isString : Value → Bool
  | .text _ | .bytes _ => true
  | _ => false

/-- A number as a floating-point number. -/
def asFloat : Value → Float
  | .integer value => Number.ofInt64 value
  | .number value => value
  | _ => 0.0

/-- An operation on integers that wraps around, and the same on floating-point numbers. -/
def applyNumeric (onIntegers : Int64 → Int64 → Int64) (onFloats : Float → Float → Float)
    (left right : Value) : Value :=
  match left, right with
  | .integer left, .integer right => .integer (onIntegers left right)
  | left, right => .number (onFloats (asFloat left) (asFloat right))

/-- The complaint about a value that an operation cannot work on. -/
def typeComplaint (operation : String) (operand : Operand) : Value :=
  .text ("attempt to " ++ operation ++ " a " ++ operand.value.typeName ++ " value" ++
    operand.description)

/-- An arithmetic operation on two operands. A string that is no numeral is named together with
the other operand; otherwise the first operand that is no number is to blame. -/
def calculate (name : String) (apply : Value → Value → Value) (left right : Operand) :
    Except Value Value :=
  match left.value.numeral?, right.value.numeral? with
  | some first, some second => .ok (apply first second)
  | _, _ =>
    if isString left.value || isString right.value then
      .error (.text ("attempt to " ++ name ++ " a '" ++ left.value.typeName ++ "' with a '" ++
        right.value.typeName ++ "'"))
    else
      .error (typeComplaint "perform arithmetic on" (if isNumber left.value then right else left))

/-- Join two strings; numbers are written first. -/
def concatenate (left right : Operand) : Except Value Value :=
  let joins (value : Value) : Bool := isNumber value || isString value
  if joins left.value && joins right.value then
    let bytes (value : Value) : List UInt8 :=
      (stringBytes? value).getD (Text.encodeUtf8 value.display)
    match left.value, right.value with
    | .text first, .text second => .ok (.text (first ++ second))
    | first, second => .ok (Value.ofBytes (bytes first ++ bytes second))
  else
    .error (typeComplaint "concatenate" (if joins left.value then right else left))

end Arithmetic

open Arithmetic in
/-- Apply an operator to one operand. -/
def UnaryOperator.apply (operator : UnaryOperator) (operand : Operand) : Except Value Value :=
  match operator with
  | .not => .ok (.boolean (!operand.value.isTruthy))
  | .negate =>
    calculate "unm"
      (fun value _ => applyNumeric (fun value _ => -value) (fun value _ => -value) value value)
      operand operand

open Arithmetic in
/-- Apply an operator to two operands. -/
def BinaryOperator.apply (operator : BinaryOperator) (left right : Operand) :
    Except Value Value :=
  match operator with
  | .add => calculate "add" (applyNumeric (· + ·) (· + ·)) left right
  | .multiply => calculate "mul" (applyNumeric (· * ·) (· * ·)) left right
  | .concatenate => Arithmetic.concatenate left right
  | .equal => .ok (.boolean (areEqual left.value right.value))
  | .less => do
    return .boolean ((← order left.value right.value) == some .lt)
  | .lessEqual => do
    let result ← order left.value right.value
    return .boolean (result == some .lt || result == some .eq)

end ScriptedRobot.Script
