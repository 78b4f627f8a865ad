import ScriptedRobot.Number.Range

/-! # Exact view of double-precision numbers

A finite double is `± mantissa · 2 ^ exponent`. This module reads that view off the bits, builds
the double nearest to a rational number, and derives from the two the conversions the rest of the
library needs: truncation to an integer, rounding half away from zero, and the double nearest to
an integer. All arithmetic is exact arithmetic on natural numbers. -/

namespace ScriptedRobot.Number

/-- What the bits of a double denote. A finite value is `± mantissa · 2 ^ exponent`. -/
inductive Denotation where
  | notANumber
  | infinite (negative : Bool)
  | finite (negative : Bool) (mantissa : Nat) (exponent : Int)
  deriving Repr, DecidableEq

/-- Read a double exactly. -/
def denote (x : Float) : Denotation :=
  let bits : Nat := x.toBits.toNat
  let negative := bits.testBit 63
  let biased : Nat := (bits >>> 52) % Nat.pow 2 11
  let fraction : Nat := bits % Nat.pow 2 52
  if biased = 2047 then
    if fraction = 0 then .infinite negative else .notANumber
  else if biased = 0 then
    .finite negative fraction (-1074)
  else
    .finite negative (Nat.pow 2 52 + fraction) ((biased : Int) - 1075)

/-- The sign bit, which distinguishes the two zeros. -/
def isNegative (x : Float) : Bool :=
  x.toBits.toNat.testBit 63

/-- The nearest integer to a quotient; a half goes to the even neighbour. -/
def roundHalfEven (numerator denominator : Nat) : Nat :=
  let quotient := numerator / denominator
  let twice := 2 * (numerator % denominator)
  if twice < denominator then quotient
  else if twice = denominator then quotient + quotient % 2
  else quotient + 1

/-- The nearest integer to a quotient; a half goes up. -/
def roundHalfUp (numerator denominator : Nat) : Nat :=
  (2 * numerator + denominator) / (2 * denominator)

/-- Divide by a power of two, which may be a multiplication: the quotient as a pair. -/
def scaleByPower (numerator denominator : Nat) (power : Int) : Nat × Nat :=
  (numerator * Nat.pow 2 (-power).toNat, denominator * Nat.pow 2 power.toNat)

/-- The double nearest to `± numerator / denominator`, ties to even, infinite beyond the largest
finite double. The denominator is positive. -/
def ofRatio (negative : Bool) (numerator denominator : Nat) : Float :=
  let sign : Nat := if negative then Nat.pow 2 63 else 0
  if numerator = 0 then
    Float.ofBits (UInt64.ofNat sign)
  else
    let guess : Int := (numerator.log2 : Int) - (denominator.log2 : Int) - 52
    let (n, d) := scaleByPower numerator denominator guess
    let exponent : Int := max (-1074) (if n < d * Nat.pow 2 52 then guess - 1 else guess)
    let (n, d) := scaleByPower numerator denominator exponent
    let magnitude := (exponent + 1074).toNat * Nat.pow 2 52 + roundHalfEven n d
    Float.ofBits (UInt64.ofNat (sign + min magnitude (2047 * Nat.pow 2 52)))

/-- The double nearest to an integer. -/
def ofInt (value : Int) : Float :=
  ofRatio (decide (value < 0)) value.natAbs 1

/-- The double nearest to `± digits · 10 ^ power`. Powers far outside the range of doubles are
decided without computing them. -/
def ofDecimal (negative : Bool) (digits : Nat) (power : Int) : Float :=
  let magnitude : Int := power + ((Nat.toDigits 10 digits).length : Int)
  if digits = 0 ∨ magnitude < -400 then ofRatio negative 0 1
  else if 400 < magnitude then ofRatio negative (Nat.pow 2 1100) 1
  else ofRatio negative (digits * Nat.pow 10 power.toNat) (Nat.pow 10 (-power).toNat)

/-- The double nearest to `± mantissa · 2 ^ power`, again without computing huge powers. -/
def ofBinary (negative : Bool) (mantissa : Nat) (power : Int) : Float :=
  let magnitude : Int := power + (mantissa.log2 : Int)
  if mantissa = 0 ∨ magnitude < -1200 then ofRatio negative 0 1
  else if 1200 < magnitude then ofRatio negative (Nat.pow 2 1100) 1
  else ofRatio negative (mantissa * Nat.pow 2 power.toNat) (Nat.pow 2 (-power).toNat)

/-- The integer with a sign and a magnitude. -/
def signed (negative : Bool) (magnitude : Nat) : Int :=
  if negative then -(magnitude : Int) else magnitude

/-- Drop the fraction of a finite double. -/
def truncate? (x : Float) : Option Int :=
  match denote x with
  | .finite negative mantissa exponent =>
    some (signed negative (mantissa * Nat.pow 2 exponent.toNat / Nat.pow 2 (-exponent).toNat))
  | _ => none

/-- The integer a finite double is equal to, if it is one. -/
def exactInt? (x : Float) : Option Int :=
  match denote x with
  | .finite negative mantissa exponent =>
    let scaled := mantissa * Nat.pow 2 exponent.toNat
    let unit := Nat.pow 2 (-exponent).toNat
    if scaled % unit = 0 then some (signed negative (scaled / unit)) else none
  | _ => none

/-- The nearest integer to a finite double; a half goes away from zero. -/
def roundHalfAway? (x : Float) : Option Int :=
  match denote x with
  | .finite negative mantissa exponent =>
    some (signed negative
      (roundHalfUp (mantissa * Nat.pow 2 exponent.toNat) (Nat.pow 2 (-exponent).toNat)))
  | _ => none

/-- The nearest 32-bit integer to an integer. -/
def clampToInt32 (value : Int) : Int32 :=
  Int32.ofInt (max int32Least (min int32Greatest value))

/-- Truncate a double to a 32-bit integer. Values beyond the range, infinities included, go to
its ends; only a value that is not a number is replaced by the fallback. -/
def narrowToInt32 (x : Float) (fallback : Int32) : Int32 :=
  match denote x with
  | .notANumber => fallback
  | .infinite negative => clampToInt32 (if negative then int32Least else int32Greatest)
  | .finite .. => clampToInt32 ((truncate? x).getD 0)

/-- Truncate a double to a 64-bit integer, if the result is in range. -/
def truncateToInt64? (x : Float) : Option Int64 := do
  toInt64? (← truncate? x)

/-- The 64-bit integer a double is equal to, if it is one. -/
def exactInt64? (x : Float) : Option Int64 := do
  toInt64? (← exactInt? x)

/-- The double nearest to a 64-bit integer. -/
def ofInt64 (value : Int64) : Float :=
  ofInt value.toInt

/-- Positive infinity. -/
def infinity : Float := Float.ofBits 0x7FF0000000000000

/-- Negative infinity. -/
def negativeInfinity : Float := Float.ofBits 0xFFF0000000000000

/-- The value that is not a number. -/
def notANumber : Float := Float.ofBits 0x7FF8000000000000

end ScriptedRobot.Number
