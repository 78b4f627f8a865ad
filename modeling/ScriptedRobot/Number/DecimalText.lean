import ScriptedRobot.Number.Binary64
import ScriptedRobot.Number.IntegerText

/-! # Fractions in decimal text

Reads a number with a sign, a point and an exponent, each of which may be missing, as the nearest
double. There is a digit before the point or after it. -/

namespace ScriptedRobot.Number

/-- The value of a possibly empty list of decimal digits. -/
def readPlaces? : List Char → Option Nat
  | [] => some 0
  | digits => readDigits? digits

/-- Read a number without its sign. -/
def readMagnitude? (negative : Bool) (characters : List Char) : Option Float := do
  let mantissa := characters.takeWhile fun character => character != 'e' && character != 'E'
  let exponent ← match characters.drop mantissa.length with
    | [] => some 0
    | _ :: exponent => readInteger? (String.ofList exponent)
  let whole := mantissa.takeWhile (· != '.')
  let places := mantissa.drop (whole.length + 1)
  if whole.isEmpty && places.isEmpty then none
  else return ofDecimal negative (← readPlaces? (whole ++ places)) (exponent - places.length)

/-- Read a number. -/
def readDecimal? (text : String) : Option Float :=
  match text.toList with
  | '+' :: magnitude => readMagnitude? false magnitude
  | '-' :: magnitude => readMagnitude? true magnitude
  | magnitude => readMagnitude? false magnitude

end ScriptedRobot.Number
