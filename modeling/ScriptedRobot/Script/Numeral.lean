import ScriptedRobot.Script.Value

/-! # Numerals

Which texts a script may use as numbers: decimal and hexadecimal integers and fractions, with
exponents, and with blanks around. A decimal integer that does not fit is read as a fraction; a
hexadecimal one wraps around. -/

namespace ScriptedRobot.Script

namespace Numeral

/-- The blanks that may surround a numeral. -/
def isSpace (character : Char) : Bool :=
  character == ' ' || ('\x09' ≤ character && character ≤ '\x0d')

/-- Drop blanks on both sides. -/
def strip (characters : List Char) : List Char :=
  ((characters.dropWhile isSpace).reverse.dropWhile isSpace).reverse

/-- Split off the sign. -/
def splitSign : List Char → Bool × List Char
  | '-' :: rest => (true, rest)
  | '+' :: rest => (false, rest)
  | rest => (false, rest)

/-- The value of a hexadecimal digit. -/
def hexDigit? (character : Char) : Option Nat :=
  if character.isDigit then some (character.toNat - '0'.toNat)
  else if 'a' ≤ character ∧ character ≤ 'f' then some (character.toNat - 'a'.toNat + 10)
  else if 'A' ≤ character ∧ character ≤ 'F' then some (character.toNat - 'A'.toNat + 10)
  else none

/-- The value of a decimal digit. -/
def decimalDigit? (character : Char) : Option Nat :=
  if character.isDigit then some (character.toNat - '0'.toNat) else none

/-- Digits at the start of a text: their value in a base, their number, and the rest. -/
def readDigits (digit? : Char → Option Nat) (base : Nat) :
    Nat → Nat → List Char → Nat × Nat × List Char
  | value, count, [] => (value, count, [])
  | value, count, character :: rest =>
    match digit? character with
    | some digit => readDigits digit? base (value * base + digit) (count + 1) rest
    | none => (value, count, character :: rest)

/-- An exponent: a mark, perhaps a sign, and at least one digit. Without a mark it is zero. -/
def readExponent? (isMark : Char → Bool) : List Char → Option (Int × List Char)
  | [] => some (0, [])
  | mark :: rest =>
    if isMark mark then
      let (negative, rest) := splitSign rest
      match readDigits decimalDigit? 10 0 0 rest with
      | (_, 0, _) => none
      | (value, _, rest) => some (if negative then -(value : Int) else value, rest)
    else some (0, mark :: rest)

/-- An unsigned numeral: its digits without the point, the number of digits after the point, and
its exponent. The whole text must be used. -/
def readUnsigned? (digit? : Char → Option Nat) (base : Nat) (isMark : Char → Bool)
    (characters : List Char) : Option (Nat × Nat × Int) := do
  let (whole, wholeCount, rest) := readDigits digit? base 0 0 characters
  let (value, places, rest) := match rest with
    | '.' :: rest => readDigits digit? base whole 0 rest
    | rest => (whole, 0, rest)
  if wholeCount = 0 ∧ places = 0 then none
  else
    let (exponent, rest) ← readExponent? isMark rest
    if rest.isEmpty then some (value, places, exponent) else none

/-- Whether a numeral consists of digits only. -/
def isWhole (digit? : Char → Option Nat) (characters : List Char) : Bool :=
  !characters.isEmpty && characters.all fun character => (digit? character).isSome

/-- Read a text as a number. -/
def read? (text : String) : Option Value := do
  let (negative, magnitude) := splitSign (strip text.toList)
  match magnitude with
  | '0' :: mark :: digits =>
    if mark == 'x' || mark == 'X' then
      if isWhole hexDigit? digits then
        let value := Int64.ofInt (readDigits hexDigit? 16 0 0 digits).1
        return .integer (if negative then -value else value)
      else
        let (value, places, exponent) ←
          readUnsigned? hexDigit? 16 (fun mark => mark == 'p' || mark == 'P') digits
        return .number (Number.ofBinary negative value (exponent - 4 * (places : Int)))
    else decimal negative magnitude
  | _ => decimal negative magnitude
where
  /-- Read a decimal numeral after its sign. -/
  decimal (negative : Bool) (magnitude : List Char) : Option Value := do
    let (value, places, exponent) ←
      readUnsigned? decimalDigit? 10 (fun mark => mark == 'e' || mark == 'E') magnitude
    let signed := Number.signed negative value
    if isWhole decimalDigit? magnitude && Number.isInt64 signed then
      return .integer (Int64.ofInt signed)
    else
      return .number (Number.ofDecimal negative value (exponent - (places : Int)))

end Numeral

/-- The number a value stands for: itself, or what a string reads as. -/
def Value.numeral? : Value → Option Value
  | .integer whole => some (.integer whole)
  | .number fraction => some (.number fraction)
  | .text content => Numeral.read? content
  | _ => none

end ScriptedRobot.Script
