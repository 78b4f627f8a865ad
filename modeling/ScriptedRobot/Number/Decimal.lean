import ScriptedRobot.Number.Binary64

/-! # Decimal text of doubles

Three ways to write a double in decimal, each a rule about which decimal number is meant:

* `shortest`: the fewest digits that still read back as the same double, in positional notation;
* `fixed`: a given number of places, the exact binary value rounded half to even;
* `significant`: a given number of significant digits, in positional or exponent notation
  depending on the magnitude, without trailing zeros. -/

namespace ScriptedRobot.Number

/-- A decimal number `digits · 10 ^ power`. -/
structure DecimalNumber where
  digits : Nat
  power : Int
  deriving Repr, DecidableEq

/-- The decimal digits of a natural number. -/
def digitsOf (value : Nat) : List Char :=
  Nat.toDigits 10 value

/-- Zeros to fill a text with. -/
def zeros (count : Nat) : List Char :=
  List.replicate count '0'

/-- Insert a decimal point before the last `places` digits. -/
def withPoint (digits : List Char) (places : Nat) : List Char :=
  if places = 0 then digits
  else
    let padded := zeros (places + 1 - digits.length) ++ digits
    let whole := padded.length - places
    padded.take whole ++ '.' :: padded.drop whole

/-- Positional notation of `digits · 10 ^ power`: no exponent, whatever the magnitude. -/
def positional (digits : List Char) (power : Int) : List Char :=
  withPoint (digits ++ zeros power.toNat) (-power).toNat

/-- The positional text of a decimal number. -/
def DecimalNumber.text (number : DecimalNumber) : List Char :=
  positional (digitsOf number.digits) number.power

/-- Texts of a signed value around the text of its magnitude. -/
def withSign (negative : Bool) (magnitude : List Char) : String :=
  String.ofList (if negative then '-' :: magnitude else magnitude)

/-- The reals that round to a positive double, in quarters of its last binary place. The ends
belong to the interval when the mantissa is even. Below a power of two the spacing halves, and
the interval is shorter on that side. -/
structure RoundingInterval where
  lower : Nat
  value : Nat
  upper : Nat
  closed : Bool

/-- The rounding interval of `mantissa · 2 ^ exponent`. -/
def roundingInterval (mantissa : Nat) (exponent : Int) : RoundingInterval where
  lower :=
    if mantissa = Nat.pow 2 52 ∧ -1074 < exponent then 4 * mantissa - 1 else 4 * mantissa - 2
  value := 4 * mantissa
  upper := 4 * mantissa + 2
  closed := mantissa % 2 == 0

/-- On the grid of multiples of `10 ^ power`, the point of the rounding interval nearest to the
value, if one of the value's two neighbours on the grid lies in the interval. -/
def nearestOnGrid? (interval : RoundingInterval) (exponent power : Int) : Option Nat :=
  -- `count · grid` against `quarters · unit` compares `count · 10 ^ power` with quarter places.
  let grid := Nat.pow 10 power.toNat * Nat.pow 2 (2 - exponent).toNat
  let unit := Nat.pow 10 (-power).toNat * Nat.pow 2 (exponent - 2).toNat
  let inside (count : Nat) : Bool :=
    let point := count * grid
    if interval.closed then interval.lower * unit ≤ point ∧ point ≤ interval.upper * unit
    else interval.lower * unit < point ∧ point < interval.upper * unit
  let below := interval.value * unit / grid
  let above := below + 1
  match inside below, inside above with
  | true, true =>
    if interval.value * unit - below * grid < above * grid - interval.value * unit
    then some below else some above
  | true, false => some below
  | false, true => some above
  | false, false => none

/-- The number of digits before the point of a positive double, negative when zeros follow the
point: the least `m` with the value below `10 ^ m`. -/
def decimalMagnitude (mantissa : Nat) (exponent : Int) : Int :=
  if 0 ≤ exponent then ((digitsOf (mantissa * Nat.pow 2 exponent.toNat)).length : Int)
  else
    let places := (-exponent).toNat
    ((digitsOf (mantissa * Nat.pow 10 places / Nat.pow 2 places)).length : Int) - places

/-- The decimal number with the fewest digits in the rounding interval of a positive double,
searched on ever finer grids. Seventeen digits always suffice. -/
def shortestDecimal (mantissa : Nat) (exponent : Int) : DecimalNumber :=
  let magnitude := decimalMagnitude mantissa exponent
  let interval := roundingInterval mantissa exponent
  let found := (List.range 18).findSome? fun (count : Nat) =>
    let power := magnitude - (count : Int)
    (nearestOnGrid? interval exponent power).bind fun digits =>
      if digits = 0 then none else some (DecimalNumber.mk digits power)
  found.getD ⟨mantissa * Nat.pow 2 exponent.toNat, 0⟩

/-- The shortest decimal text that reads back as the same double. Never an exponent, and no
fraction on a whole number. -/
def shortest (x : Float) : String :=
  match denote x with
  | .notANumber => "NaN"
  | .infinite negative => withSign negative "inf".toList
  | .finite negative mantissa exponent =>
    if mantissa = 0 then withSign negative ['0']
    else withSign negative (shortestDecimal mantissa exponent).text

/-- The text with a given number of places. The sign of a zero is kept, also of one that
rounding made. -/
def fixed (places : Nat) (x : Float) : String :=
  match denote x with
  | .notANumber => "NaN"
  | .infinite negative => withSign negative "inf".toList
  | .finite negative mantissa exponent =>
    let rounded := roundHalfEven (mantissa * Nat.pow 2 exponent.toNat * Nat.pow 10 places)
      (Nat.pow 2 (-exponent).toNat)
    withSign negative (withPoint (digitsOf rounded) places)

/-- Round a positive double to a number of significant digits. -/
def significantDecimal (count mantissa : Nat) (exponent : Int) : DecimalNumber :=
  let roundAt (power : Int) : Nat :=
    roundHalfEven (mantissa * Nat.pow 2 exponent.toNat * Nat.pow 10 (-power).toNat)
      (Nat.pow 2 (-exponent).toNat * Nat.pow 10 power.toNat)
  let power := decimalMagnitude mantissa exponent - (count : Int)
  -- Rounding up may carry into one digit too many.
  if roundAt power < Nat.pow 10 count then ⟨roundAt power, power⟩
  else ⟨roundAt (power + 1), power + 1⟩

/-- Drop the zeros at the end of a list of digits. -/
def withoutTrailingZeros (digits : List Char) : List Char :=
  (digits.reverse.dropWhile (· == '0')).reverse

/-- Exponent notation of a list of significant digits: one digit before the point, and at least
two digits in the exponent. -/
def scientific (digits : List Char) (exponent : Int) : List Char :=
  let mantissa := match digits with
    | [] => ['0']
    | first :: [] => [first]
    | first :: rest => first :: '.' :: rest
  let width := digitsOf exponent.natAbs
  mantissa ++ 'e' :: (if exponent < 0 then '-' else '+') :: (zeros (2 - width.length) ++ width)

/-- At most `count` significant digits without trailing zeros: positional while the exponent of
the first digit lies in `-4 ≤ exponent < count`, exponent notation otherwise. -/
def significant (count : Nat) (x : Float) : String :=
  match denote x with
  | .notANumber => "-nan"
  | .infinite negative => withSign negative "inf".toList
  | .finite negative mantissa exponent =>
    if mantissa = 0 then withSign negative ['0']
    else
      let number := significantDecimal count mantissa exponent
      let digits := digitsOf number.digits
      let leading := number.power + (digits.length : Int) - 1
      if -4 ≤ leading ∧ leading < (count : Int) then
        let kept := withoutTrailingZeros digits
        let dropped := digits.length - kept.length
        withSign negative (positional kept (number.power + (dropped : Int)))
      else
        withSign negative (scientific (withoutTrailingZeros digits) leading)

end ScriptedRobot.Number
