import ScriptedRobot.Number.DecimalText
import ScriptedRobot.Text.Blank
import ScriptedRobot.Toml.Scalar

/-! # Settings from variables

A variable of the environment whose name starts with `LUABOT_` gives a setting. The rest of its
name is the path of the setting, with two underscores between the keys. Its value is read by a
loose grammar: what cannot be read as a whole is the text itself. -/

namespace ScriptedRobot.Setup

/-- A variable of the environment. -/
structure Variable where
  name : String
  value : String
  deriving Repr, DecidableEq

namespace Variable

/-- How the names of all variables that give settings start. -/
def nameStart : String := "luabot_"

/-- The path of keys that a name stands for. Small and capital letters are the same, and no key is
empty. -/
def path? (name : String) : Option (List String) :=
  let name := name.toLower
  if name.startsWith nameStart then
    let rest := Text.trim (name.drop nameStart.length).toString
    let keys := (rest.replace "__" ".").splitOn "."
    if keys.any String.isEmpty then none else some keys
  else none

/-- The blanks that may stand around a value. -/
def isSpace (character : Char) : Bool :=
  character == ' ' || character == '\t' || character == '\n' || character == '\r' ||
    character == '\x0c'

/-- Drop blanks. -/
def dropSpace (characters : List Char) : List Char :=
  characters.dropWhile isSpace

/-- Whether a character ends a plain value. -/
def isSeparator (character : Char) : Bool :=
  character == ',' || character == '\x7b' || character == '\x7d' || character == '[' ||
    character == ']'

/-- A plain value: a number with a point, a whole number that fits into 64 bits, or a text. -/
def plain (text : String) : Setting :=
  match if text.contains '.' then Number.readDecimal? text else none with
  | some value => .number value
  | none =>
    match Number.readNaturalBelow? Number.longWordCount text, Number.readInteger? text with
    | some value, _ => .unsigned value
    | none, some value => (Toml.fitting? value).getD (.text text)
    | none, none => .text text

/-- Whether a character may stand in a key without marks. -/
def isKeyCharacter (character : Char) : Bool :=
  character.isAlphanum || character == '_' || character == '-'

/-- A key of a table. -/
def readKey : List Char → Option (String × List Char)
  | '"' :: rest => Toml.readBasic [] rest
  | characters =>
    let key := characters.takeWhile isKeyCharacter
    if key.isEmpty then none else some (String.ofList key, characters.drop key.length)

mutual

/-- A value. Nesting and lists use up the fuel. -/
def readValue : Nat → List Char → Option (Setting × List Char)
  | 0, _ => none
  | fuel + 1, characters => do
    let (value, rest) ←
      match dropSpace characters with
      | 't' :: 'r' :: 'u' :: 'e' :: rest => some (.boolean true, rest)
      | 'f' :: 'a' :: 'l' :: 's' :: 'e' :: rest => some (.boolean false, rest)
      | '\x7b' :: rest =>
        (readEntries fuel [] rest).map fun (entries, rest) => (.table entries, rest)
      | '[' :: rest =>
        (readElements fuel rest).map fun (elements, rest) => (.list elements, rest)
      | '"' :: rest => (Toml.readBasic [] rest).map fun (text, rest) => (.text text, rest)
      | '\'' :: character :: '\'' :: rest => some (.text character.toString, rest)
      | '\'' :: _ => none
      | characters =>
        let text := characters.takeWhile fun character => !isSeparator character
        some (plain (Text.trim (String.ofList text)), characters.drop text.length)
    return (value, dropSpace rest)

/-- The elements of a list through its closing bracket. -/
def readElements : Nat → List Char → Option (List Setting × List Char)
  | 0, _ => none
  | _ + 1, ']' :: rest => some ([], rest)
  | fuel + 1, characters => do
    let (element, rest) ← readValue fuel characters
    match rest with
    | ',' :: rest => do
      let (elements, rest) ← readElements fuel rest
      return (element :: elements, rest)
    | ']' :: rest => some ([element], rest)
    | _ => none

/-- The entries of a table through its closing brace, added to those read before. A later entry
of a key replaces an earlier one. -/
def readEntries : Nat → Settings → List Char → Option (Settings × List Char)
  | 0, _, _ => none
  | _ + 1, read, '\x7d' :: rest => some (read, rest)
  | fuel + 1, read, characters => do
    let (key, rest) ← readKey (dropSpace characters)
    let (value, rest) ← readValue fuel (← Toml.expect? '=' (dropSpace rest))
    let read := Text.insertSorted key value read
    match rest with
    | ',' :: rest => readEntries fuel read rest
    | '\x7d' :: rest => some (read, rest)
    | _ => none

end

/-- The setting that a value stands for. -/
def settingOf (value : String) : Setting :=
  let characters := value.toList
  match readValue (characters.length + 2) characters with
  | some (setting, []) => setting
  | _ => .text value

/-- The settings that variables give, taken in the order of their names: of two variables for one
key the later name decides. -/
def settings (environment : List Variable) : Settings :=
  let sorted := environment.mergeSort fun left right => decide (left.name ≤ right.name)
  sorted.foldl
    (fun settings entry =>
      match path? entry.name with
      | some path =>
        match nested (settingOf entry.value) path with
        | .table entries => overEntries settings entries
        | _ => settings
      | none => settings)
    []

end Variable

end ScriptedRobot.Setup
