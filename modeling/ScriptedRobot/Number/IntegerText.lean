import ScriptedRobot.Number.Range

/-! # Integers in decimal text

Strict readers: ASCII digits only, no blanks and no separators. -/

namespace ScriptedRobot.Number

/-- The value of a decimal digit. -/
def digitValue? (character : Char) : Option Nat :=
  if '0' ≤ character ∧ character ≤ '9' then some (character.toNat - '0'.toNat) else none

/-- The value of a nonempty list of decimal digits. -/
def readDigits? : List Char → Option Nat
  | [] => none
  | digits => digits.foldlM (fun value digit => (digitValue? digit).map (10 * value + ·)) 0

/-- Read a natural number, with or without a plus sign. -/
def readNatural? (text : String) : Option Nat :=
  match text.toList with
  | '+' :: digits => readDigits? digits
  | digits => readDigits? digits

/-- Read an integer, with or without a sign. -/
def readInteger? (text : String) : Option Int :=
  match text.toList with
  | '+' :: digits => (readDigits? digits).map Int.ofNat
  | '-' :: digits => (readDigits? digits).map fun value => -(value : Int)
  | digits => (readDigits? digits).map Int.ofNat

/-- Read a natural number below a bound. -/
def readNaturalBelow? (bound : Nat) (text : String) : Option Nat :=
  (readNatural? text).filter (· < bound)

/-- Read a 32-bit integer. -/
def readInt32? (text : String) : Option Int32 := do
  toInt32? (← readInteger? text)

end ScriptedRobot.Number
