import ScriptedRobot.Toml.Scalar
import ScriptedRobot.Toml.Tree

/-! # TOML documents

Reads the text of a document: lines that give a value to a key, headers of tables, and comments.
A document that breaks a rule anywhere is refused as a whole. -/

namespace ScriptedRobot.Toml

open Setup (Setting Settings)

/-- Reads something off the start of the characters and leaves the rest. -/
abbrev Reader (α : Type) : Type := List Char → Option (α × List Char)

/-- How deep values are nested at most, and how many parts a key has at most. -/
def greatestDepth : Nat := 79

/-- Drop blanks within a line. -/
def dropBlanks (characters : List Char) : List Char :=
  characters.dropWhile isBlank

/-- Drop a comment, if there is one. -/
def dropComment (characters : List Char) : List Char :=
  match characters with
  | '#' :: rest => rest.dropWhile isPlain
  | characters => characters

/-- Drop blanks, ends of lines and comments. The fuel is the number of characters. -/
def dropLines : Nat → List Char → List Char
  | 0, characters => characters
  | fuel + 1, characters =>
    let rest := dropComment (dropBlanks characters)
    if atLineEnd rest then dropLines fuel (dropLineEnd rest) else rest

/-- Whether a character may stand in a key without marks. -/
def isKeyCharacter (character : Char) : Bool :=
  character.isAlphanum || character == '_' || character == '-'

/-- One part of a key. -/
def readKeyPart : Reader String
  | '"' :: rest => readBasic [] rest
  | '\'' :: rest => readLiteral [] rest
  | characters =>
    let part := characters.takeWhile isKeyCharacter
    if part.isEmpty then none
    else some (String.ofList part, characters.drop part.length)

/-- The parts of a key, with points between them. The fuel bounds their number. -/
def readKey : Nat → Reader (List String)
  | 0, _ => none
  | fuel + 1, characters => do
    let (part, rest) ← readKeyPart (dropBlanks characters)
    match dropBlanks rest with
    | '.' :: rest => do
      let (parts, rest) ← readKey fuel rest
      return (part :: parts, rest)
    | rest => some ([part], rest)

/-- A key, an equals sign and a value. -/
def readPair (readValue : Reader Setting) : Reader (List String × Setting) := fun characters => do
  let (path, rest) ← readKey greatestDepth characters
  let (value, rest) ← readValue (dropBlanks (← expect? '=' rest))
  return ((path, value), dropBlanks rest)

/-- The elements of a list through its closing bracket. A comma may stand after the last. The fuel
bounds their number. -/
def readElements (readValue : Reader Setting) : Nat → Reader (List Setting)
  | 0, _ => none
  | fuel + 1, characters =>
    match dropLines characters.length characters with
    | ']' :: rest => some ([], rest)
    | characters => do
      let (value, rest) ← readValue characters
      match dropLines rest.length rest with
      | ',' :: rest => do
        let (values, rest) ← readElements readValue fuel rest
        return (value :: values, rest)
      | ']' :: rest => some ([value], rest)
      | _ => none

/-- The pairs of an inline table through its closing brace. The fuel bounds their number. -/
def readPairs (readValue : Reader Setting) : Nat → Reader (List (List String × Setting))
  | 0, _ => none
  | fuel + 1, characters => do
    let (pair, rest) ← readPair readValue characters
    match rest with
    | ',' :: rest => do
      let (pairs, rest) ← readPairs readValue fuel rest
      return (pair :: pairs, rest)
    | '\x7d' :: rest => some ([pair], rest)
    | _ => none

/-- A value that is nested at most so deep. -/
def readValue : Nat → Reader Setting
  | 0, characters => readConstant characters
  | depth + 1, characters =>
    match characters with
    | '[' :: rest => do
      let (values, rest) ← readElements (readValue depth) characters.length rest
      return (.list values, rest)
    | '\x7b' :: rest => do
      match dropBlanks rest with
      | '\x7d' :: rest => some (.table [], rest)
      | rest => do
        let (pairs, rest) ← readPairs (readValue depth) characters.length rest
        return (← inlineTable? pairs, rest)
    | characters => readConstant characters

/-- What is read of a document so far: its tree, and the path of the last header. -/
structure Draft where
  tree : Node := Node.empty
  header : List String := []

/-- The path of a header through its closing brackets. -/
def readHeader (characters : List Char) : Option (Bool × List String × List Char) := do
  match characters with
  | '[' :: rest => do
    let (path, rest) ← readKey greatestDepth rest
    return (true, path, ← expect? ']' (← expect? ']' rest))
  | characters => do
    let (path, rest) ← readKey greatestDepth characters
    return (false, path, ← expect? ']' rest)

/-- Take in a header or a pair, and leave the rest of its line. -/
def readStatement (draft : Draft) : Reader Draft
  | '[' :: rest => do
    let (isElement, path, rest) ← readHeader rest
    let tree ← draft.tree.openAt isElement path
    return ({ tree, header := path }, rest)
  | characters => do
    let ((path, value), rest) ← readPair (readValue greatestDepth) characters
    let tree ← draft.tree.assignBelow draft.header path value
    return ({ draft with tree }, rest)

/-- Read the lines of a document. The fuel bounds their number. -/
def readDocument : Nat → Draft → List Char → Option Draft
  | 0, _, _ => none
  | fuel + 1, draft, characters =>
    match dropLines characters.length characters with
    | [] => some draft
    | characters => do
      let (draft, rest) ← readStatement draft characters
      match dropComment (dropBlanks rest) with
      | [] => some draft
      | rest => if atLineEnd rest then readDocument fuel draft (dropLineEnd rest) else none

/-- The settings of a document. A mark of the byte order may come first. -/
def parse? (text : String) : Option Settings := do
  let characters := match text.toList with
    | '\ufeff' :: rest => rest
    | characters => characters
  let draft ← readDocument (characters.length + 1) {} characters
  match draft.tree.setting with
  | .table entries => some entries
  | _ => none

end ScriptedRobot.Toml
