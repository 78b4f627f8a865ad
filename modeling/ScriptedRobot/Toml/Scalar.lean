import ScriptedRobot.Number.Binary64
import ScriptedRobot.Setup.Setting

/-! # Constants of TOML

Texts between quotation marks, numbers, truth values and dates. Every reader takes characters and
leaves the rest, or refuses. -/

namespace ScriptedRobot.Toml

open Setup (Setting)

/-- Blanks within a line. -/
def isBlank (character : Char) : Bool :=
  character == ' ' || character == '\t'

/-- Whether a character may stand in a comment or a text: tabs, and what is no control. -/
def isPlain (character : Char) : Bool :=
  character == '\t' || (' ' ≤ character && character != '\x7f')

/-- The value of a hexadecimal digit. -/
def hexDigit? (character : Char) : Option Nat :=
  if character.isDigit then some (character.toNat - '0'.toNat)
  else if 'a' ≤ character ∧ character ≤ 'f' then some (character.toNat - 'a'.toNat + 10)
  else if 'A' ≤ character ∧ character ≤ 'F' then some (character.toNat - 'A'.toNat + 10)
  else none

/-- The character with a number, if there is one. -/
def scalar? (code : Nat) : Option Char :=
  if code < 0xD800 ∨ (0xDFFF < code ∧ code < 0x110000) then some (Char.ofNat code) else none

/-- The character whose number is written in hexadecimal digits. -/
def hexScalar? (digits : List Char) : Option Char := do
  let values ← digits.mapM hexDigit?
  scalar? (values.foldl (fun code digit => 16 * code + digit) 0)

/-- The character after a backslash. -/
def shortEscape? : Char → Option Char
  | 'b' => some '\x08'
  | 't' => some '\t'
  | 'n' => some '\n'
  | 'f' => some '\x0c'
  | 'r' => some '\r'
  | '"' => some '"'
  | '\\' => some '\\'
  | _ => none

/-- What a reader read, backwards, as a text. -/
def finish (read : List Char) : String :=
  String.ofList read.reverse

/-- The rest of a text between quotation marks. -/
def readBasic (read : List Char) : List Char → Option (String × List Char)
  | '"' :: rest => some (finish read, rest)
  | '\\' :: 'u' :: a :: b :: c :: d :: rest =>
    match hexScalar? [a, b, c, d] with
    | some character => readBasic (character :: read) rest
    | none => none
  | '\\' :: 'U' :: a :: b :: c :: d :: e :: f :: g :: h :: rest =>
    match hexScalar? [a, b, c, d, e, f, g, h] with
    | some character => readBasic (character :: read) rest
    | none => none
  | '\\' :: escape :: rest =>
    match shortEscape? escape with
    | some character => readBasic (character :: read) rest
    | none => none
  | character :: rest => if isPlain character then readBasic (character :: read) rest else none
  | [] => none

/-- The rest of a text between apostrophes. -/
def readLiteral (read : List Char) : List Char → Option (String × List Char)
  | '\'' :: rest => some (finish read, rest)
  | character :: rest => if isPlain character then readLiteral (character :: read) rest else none
  | [] => none

/-- Whether a line ends here. -/
def atLineEnd : List Char → Bool
  | '\n' :: _ => true
  | '\r' :: '\n' :: _ => true
  | _ => false

/-- The rest of a text between triple quotation marks. While `trimming`, blanks and ends of lines
are dropped. -/
def readBasicLines (trimming : Bool) (read : List Char) :
    List Char → Option (String × List Char)
  | '"' :: '"' :: '"' :: '"' :: '"' :: rest => some (finish ('"' :: '"' :: read), rest)
  | '"' :: '"' :: '"' :: '"' :: rest => some (finish ('"' :: read), rest)
  | '"' :: '"' :: '"' :: rest => some (finish read, rest)
  | '\r' :: '\n' :: rest =>
    if trimming then readBasicLines true read rest else readBasicLines false ('\n' :: read) rest
  | '\n' :: rest =>
    if trimming then readBasicLines true read rest else readBasicLines false ('\n' :: read) rest
  | '\\' :: 'u' :: a :: b :: c :: d :: rest =>
    match hexScalar? [a, b, c, d] with
    | some character => readBasicLines false (character :: read) rest
    | none => none
  | '\\' :: 'U' :: a :: b :: c :: d :: e :: f :: g :: h :: rest =>
    match hexScalar? [a, b, c, d, e, f, g, h] with
    | some character => readBasicLines false (character :: read) rest
    | none => none
  | '\\' :: escape :: rest =>
    match shortEscape? escape with
    | some character => readBasicLines false (character :: read) rest
    | none =>
      if atLineEnd ((escape :: rest).dropWhile isBlank) then
        if escape == '\r' || escape == '\n' || isBlank escape then readBasicLines true read rest
        else none
      else none
  | character :: rest =>
    if trimming && isBlank character then readBasicLines true read rest
    else if isPlain character then readBasicLines false (character :: read) rest
    else none
  | [] => none

/-- The rest of a text between triple apostrophes. -/
def readLiteralLines (read : List Char) : List Char → Option (String × List Char)
  | '\'' :: '\'' :: '\'' :: '\'' :: '\'' :: rest => some (finish ('\'' :: '\'' :: read), rest)
  | '\'' :: '\'' :: '\'' :: '\'' :: rest => some (finish ('\'' :: read), rest)
  | '\'' :: '\'' :: '\'' :: rest => some (finish read, rest)
  | '\r' :: '\n' :: rest => readLiteralLines ('\n' :: read) rest
  | '\n' :: rest => readLiteralLines ('\n' :: read) rest
  | character :: rest =>
    if isPlain character then readLiteralLines (character :: read) rest else none
  | [] => none

/-- Drop one end of a line. -/
def dropLineEnd : List Char → List Char
  | '\r' :: '\n' :: rest => rest
  | '\n' :: rest => rest
  | rest => rest

/-- A text in one of its four forms. -/
def readText : List Char → Option (String × List Char)
  | '"' :: '"' :: '"' :: rest => readBasicLines false [] (dropLineEnd rest)
  | '\'' :: '\'' :: '\'' :: rest => readLiteralLines [] (dropLineEnd rest)
  | '"' :: rest => readBasic [] rest
  | '\'' :: rest => readLiteral [] rest
  | _ => none

/-- Groups of digits joined by single underscores. -/
def groupedDigits? (isDigit : Char → Bool) (characters : List Char) : Option (List Char) :=
  let groups := characters.splitOn '_'
  if groups.all (fun group => !group.isEmpty && group.all isDigit) then some groups.flatten
  else none

/-- The value of digits in a base. -/
def digitsValue (base : Nat) (digits : List Char) : Nat :=
  digits.foldl (fun value digit => base * value + (hexDigit? digit).getD 0) 0

/-- Split off a sign. -/
def splitSign : List Char → Bool × List Char
  | '-' :: rest => (true, rest)
  | '+' :: rest => (false, rest)
  | rest => (false, rest)

/-- The digits of a whole number: no zero comes before other digits. -/
def wholeDigits? (characters : List Char) : Option (List Char) := do
  let digits ← groupedDigits? Char.isDigit characters
  if digits.head? = some '0' ∧ 1 < digits.length then none else some digits

/-- A whole number that fits into 64 bits. -/
def fitting? (value : Int) : Option Setting :=
  if Number.isInt64 value then some (.signed value) else none

/-- A whole number in base sixteen, eight or two. -/
def readBased? : List Char → Option Setting
  | '0' :: 'x' :: rest => do
    let digits ← groupedDigits? (fun character => (hexDigit? character).isSome) rest
    fitting? (digitsValue 16 digits)
  | '0' :: 'o' :: rest => do
    let digits ← groupedDigits? (fun character => '0' ≤ character && character ≤ '7') rest
    fitting? (digitsValue 8 digits)
  | '0' :: 'b' :: rest => do
    let digits ← groupedDigits? (fun character => character == '0' || character == '1') rest
    fitting? (digitsValue 2 digits)
  | _ => none

/-- A whole number in base ten. -/
def readWhole? (characters : List Char) : Option Setting := do
  let (negative, characters) := splitSign characters
  let digits ← wholeDigits? characters
  fitting? (Number.signed negative (digitsValue 10 digits))

/-- Whether a character starts an exponent. -/
def isExponentMark (character : Char) : Bool :=
  character == 'e' || character == 'E'

/-- An exponent after its mark. -/
def readExponent? (characters : List Char) : Option Int := do
  let (negative, characters) := splitSign characters
  let digits ← groupedDigits? Char.isDigit characters
  return Number.signed negative (digitsValue 10 digits)

/-- A number with a fraction, an exponent, or both. One that is too great is refused. -/
def readFraction? (characters : List Char) : Option Setting := do
  let (negative, characters) := splitSign characters
  let mantissa := characters.takeWhile fun character => !isExponentMark character
  let exponent ← match characters.drop mantissa.length with
    | [] => some 0
    | _ :: rest => readExponent? rest
  let whole := mantissa.takeWhile (· != '.')
  let wholeDigits ← wholeDigits? whole
  let places ← match mantissa.drop whole.length with
    | [] => if mantissa.length = characters.length then none else some []
    | _ :: rest => groupedDigits? Char.isDigit rest
  let value := Number.ofDecimal negative (digitsValue 10 (wholeDigits ++ places))
    (exponent - (places.length : Int))
  if value == Number.infinity then none else some (.number value)

/-- A number that is none or has no bound. -/
def readSpecial? (characters : List Char) : Option Setting :=
  let (negative, characters) := splitSign characters
  match String.ofList characters with
  | "inf" => some (.number (if negative then Number.negativeInfinity else Number.infinity))
  | "nan" => some (.number Number.notANumber)
  | _ => none

/-- A number of digits of fixed width within a range. -/
def fixedDigits? (width least greatest : Nat) (characters : List Char) : Option (List Char) :=
  let digits := characters.take width
  let value := digitsValue 10 digits
  if digits.length = width ∧ digits.all Char.isDigit ∧ least ≤ value ∧ value ≤ greatest then
    some (characters.drop width)
  else none

/-- The number of days in a month. -/
def daysIn (year month : Nat) : Nat :=
  if month = 2 then
    if year % 4 = 0 ∧ (year % 100 ≠ 0 ∨ year % 400 = 0) then 29 else 28
  else if month = 4 ∨ month = 6 ∨ month = 9 ∨ month = 11 then 30
  else 31

/-- Drop one given character. -/
def expect? (character : Char) : List Char → Option (List Char)
  | other :: rest => if other = character then some rest else none
  | [] => none

/-- The rest after a date. -/
def dropDate? (characters : List Char) : Option (List Char) := do
  let year := digitsValue 10 (characters.take 4)
  let afterYear ← expect? '-' (← fixedDigits? 4 0 9999 characters)
  let month := digitsValue 10 (afterYear.take 2)
  let afterMonth ← expect? '-' (← fixedDigits? 2 1 12 afterYear)
  fixedDigits? 2 1 (daysIn year month) afterMonth

/-- The rest after a time of day. -/
def dropTime? (characters : List Char) : Option (List Char) := do
  let afterHour ← expect? ':' (← fixedDigits? 2 0 23 characters)
  let afterMinute ← expect? ':' (← fixedDigits? 2 0 59 afterHour)
  match ← fixedDigits? 2 0 60 afterMinute with
  | '.' :: rest =>
    if (rest.takeWhile Char.isDigit).isEmpty then none else some (rest.dropWhile Char.isDigit)
  | rest => some rest

/-- Whether a text is the distance of a time from the common one. -/
def isOffset (characters : List Char) : Bool :=
  match characters with
  | [] | ['Z'] | ['z'] => true
  | sign :: rest =>
    (sign == '+' || sign == '-') &&
      ((do fixedDigits? 2 0 59 (← expect? ':' (← fixedDigits? 2 0 23 rest))) == some [])

/-- Whether a text is a date, a time of day, or both. -/
def isMoment (characters : List Char) : Bool :=
  match dropDate? characters with
  | some [] => true
  | some (mark :: rest) =>
    (mark == 'T' || mark == 't' || mark == ' ') && ((dropTime? rest).any isOffset)
  | none => dropTime? characters == some []

/-- The key under which a date is kept. -/
def momentKey : String := "$__toml_private_datetime"

/-- A constant that is not between marks. -/
def bareConstant? (characters : List Char) : Option Setting :=
  match String.ofList characters with
  | "true" => some (.boolean true)
  | "false" => some (.boolean false)
  | text =>
    if isMoment characters then some (.table [(momentKey, .text text)])
    else
      (readBased? characters).orElse fun _ =>
      (readWhole? characters).orElse fun _ =>
      (readSpecial? characters).orElse fun _ =>
      readFraction? characters

/-- Whether a character may stand in a constant that is not between marks. -/
def isBareCharacter (character : Char) : Bool :=
  character.isAlphanum || character == '+' || character == '-' || character == '_' ||
    character == '.' || character == ':'

/-- The characters of a constant that is not between marks. A blank may stand between a date and
a time. -/
def bareCharacters (characters : List Char) : List Char :=
  let token := characters.takeWhile isBareCharacter
  match dropDate? token, characters.drop token.length with
  | some [], ' ' :: digit :: rest =>
    if digit.isDigit then token ++ ' ' :: (digit :: rest).takeWhile isBareCharacter else token
  | _, _ => token

/-- A constant. -/
def readConstant (characters : List Char) : Option (Setting × List Char) :=
  match readText characters with
  | some (text, rest) => some (.text text, rest)
  | none => do
    let token := bareCharacters characters
    let constant ← bareConstant? token
    return (constant, characters.drop token.length)

end ScriptedRobot.Toml
