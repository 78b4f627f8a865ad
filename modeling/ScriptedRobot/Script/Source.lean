import ScriptedRobot.Files

/-! # Script sources

Reads the text of a script that is given to a run. What a host does with a file depends on what its
text is compiled to and not on how that is done, so that this reader is only one way to come by
files. Of the language it knows constants, tables, functions, calls and accesses, and as statements
local declarations, assignments, calls and a final `return`; handlers are given to a table where
they are written down. Blanks, comments and semicolons may stand in between. -/

namespace ScriptedRobot.Script.Source

/-- Drop characters through the end of the line. -/
def skipLine : List Char → List Char
  | [] => []
  | '\n' :: rest => rest
  | _ :: rest => skipLine rest

/-- Drop characters through two closing brackets. -/
def skipLong : List Char → Option (List Char)
  | [] => none
  | ']' :: ']' :: rest => some rest
  | _ :: rest => skipLong rest

/-- The pieces of a source. -/
inductive Token where
  | word (word : String)
  | text (text : String)
  | number (digits : String)
  | mark (mark : Char)
  deriving Repr, DecidableEq

/-- Whether a character may stand in a word. -/
def isWordCharacter (character : Char) : Bool :=
  character.isAlphanum || character == '_'

/-- The character that an escape stands for. -/
def escaped? : Char → Option Char
  | 'n' => some '\n'
  | 't' => some '\t'
  | 'r' => some '\r'
  | '\\' => some '\\'
  | '"' => some '"'
  | '\'' => some '\''
  | '\n' => some '\n'
  | _ => none

/-- The rest of a text up to its closing mark. -/
def readText (closing : Char) : List Char → List Char → Option (String × List Char)
  | _, [] => none
  | read, '\\' :: character :: rest =>
    match escaped? character with
    | some value => readText closing (value :: read) rest
    | none => none
  | read, character :: rest =>
    if character = closing then some (String.ofList read.reverse, rest)
    else if character = '\n' then none
    else readText closing (character :: read) rest

/-- Split a source into tokens. The fuel is the number of characters. -/
def tokens? : Nat → List Char → Option (List Token)
  | _, [] => some []
  | 0, _ => none
  | fuel + 1, character :: rest =>
    if character.isWhitespace then tokens? fuel rest
    else
      match character, rest with
      | '-', '-' :: '[' :: '[' :: rest => (skipLong rest).bind (tokens? fuel)
      | '-', '-' :: rest => tokens? fuel (skipLine rest)
      | character, rest =>
        if character = '"' ∨ character = '\'' then do
          let (text, rest) ← readText character [] rest
          return .text text :: (← tokens? fuel rest)
        else if character.isDigit then do
          let digits := character :: rest.takeWhile isWordCharacter
          return .number (String.ofList digits) ::
            (← tokens? fuel (rest.dropWhile isWordCharacter))
        else if isWordCharacter character then do
          let word := character :: rest.takeWhile isWordCharacter
          return .word (String.ofList word) :: (← tokens? fuel (rest.dropWhile isWordCharacter))
        else return .mark character :: (← tokens? fuel rest)

/-! ## Phrases

Every reader takes its phrase off the tokens and returns what is left of them. -/

/-- The words that are no names. -/
def reservedWords : List String := [
  "and", "break", "do", "else", "elseif", "end", "false", "for", "function", "goto", "if", "in",
  "local", "nil", "not", "or", "repeat", "return", "then", "true", "until", "while"]

/-- A name. -/
def name? : List Token → Option (String × List Token)
  | .word word :: rest => if word ∈ reservedWords then none else some (word, rest)
  | _ => none

/-- Names with commas between them. -/
def names? : List Token → Option (List String × List Token)
  | .word word :: .mark ',' :: rest => do
    let (first, _) ← name? [.word word]
    let (others, rest) ← names? rest
    return (first :: others, rest)
  | tokens => do
    let (name, rest) ← name? tokens
    return ([name], rest)

/-- A token that has to come next. -/
def expected? (token : Token) : List Token → Option (List Token)
  | next :: rest => if next = token then some rest else none
  | [] => none

/-- The parameters of a function, after the opening bracket. -/
def parameters? : List Token → Option (List String × List Token)
  | .mark ')' :: rest => some ([], rest)
  | tokens => do
    let (names, rest) ← names? tokens
    return (names, ← expected? (.mark ')') rest)

/-- The end of a block after its last statement. -/
def closing? : List Token → Option (List Token)
  | [] | [.mark ';'] => some []
  | .word "end" :: rest | .mark ';' :: .word "end" :: rest => some (.word "end" :: rest)
  | _ => none

/-- The value of a name, given the names of the variables that are visible. -/
def named (visible : List String) (name : String) : Expr :=
  if name ∈ visible then .variable name else .global name

/-- The handlers for absent keys that are read and written, in a table that lists them. -/
def handlers? : List Expr → Option (Expr × Expr)
  | [] => some (.nil, .nil)
  | [.literal (.text "__index"), read] => some (read, .nil)
  | [.literal (.text "__newindex"), write] => some (.nil, write)
  | [.literal (.text "__index"), read, .literal (.text "__newindex"), write] => some (read, write)
  | _ => none

/-- A call. Handlers are given to a table by a call, too, and are known where it is read. -/
def called? : Expr → List Expr → Option Expr
  | .global "setmetatable", [table, .table items] => do
    let (read, write) ← handlers? items
    return .withHandlers table read write
  | .global "setmetatable", _ => none
  | callee, arguments => some (.call callee arguments)

/-- An expression as a statement: only calls can stand alone. -/
def alone? : Expr → Option Stmt
  | .call callee arguments => some (.evaluate (.call callee arguments))
  | .withHandlers table read write => some (.evaluate (.withHandlers table read write))
  | _ => none

/-- An assignment to what an expression names. -/
def assignment? (value : Expr) : Expr → Option Stmt
  | .global name => some (.setGlobal name value)
  | .variable name => some (.setVariable name value)
  | .index object key => some (.setIndex object key value)
  | _ => none

mutual

/-- An expression. The fuel bounds how deep phrases are nested and how long they are. -/
def expression? : Nat → List String → List Token → Option (Expr × List Token)
  | 0, _, _ => none
  | fuel + 1, visible, tokens =>
    match tokens with
    | .word "nil" :: rest => some (.nil, rest)
    | .word "true" :: rest => some (.boolean true, rest)
    | .word "false" :: rest => some (.boolean false, rest)
    | .text value :: rest => some (.text value, rest)
    | .number digits :: rest => do return (.whole (← digits.toInt?), rest)
    | .mark '\x7b' :: rest => do
      let (items, rest) ← items? fuel visible rest
      return (.table items, rest)
    | .word "function" :: .mark '(' :: rest => do
      let (parameters, rest) ← parameters? rest
      let (body, rest) ← block? fuel (parameters ++ visible) rest
      return (.function parameters body, ← expected? (.word "end") rest)
    | .mark '(' :: rest => do
      let (expression, rest) ← expression? fuel visible rest
      suffixed? fuel visible (.first expression) (← expected? (.mark ')') rest)
    | tokens => do
      let (name, rest) ← name? tokens
      suffixed? fuel visible (named visible name) rest

/-- An expression that accesses and calls may follow. -/
def suffixed? : Nat → List String → Expr → List Token → Option (Expr × List Token)
  | 0, _, _, _ => none
  | fuel + 1, visible, expression, tokens =>
    match tokens with
    | .mark '.' :: rest => do
      let (name, rest) ← name? rest
      suffixed? fuel visible (expression.field name) rest
    | .mark '[' :: rest => do
      let (key, rest) ← expression? fuel visible rest
      suffixed? fuel visible (.index expression key) (← expected? (.mark ']') rest)
    | .mark '(' :: .mark ')' :: rest => do
      suffixed? fuel visible (← called? expression []) rest
    | .mark '(' :: rest => do
      let (arguments, rest) ← expressions? fuel visible rest
      suffixed? fuel visible (← called? expression arguments) (← expected? (.mark ')') rest)
    | .text value :: rest => do
      suffixed? fuel visible (← called? expression [.text value]) rest
    | .mark '\x7b' :: rest => do
      let (items, rest) ← items? fuel visible rest
      suffixed? fuel visible (← called? expression [.table items]) rest
    | rest => some (expression, rest)

/-- Expressions with commas between them. -/
def expressions? : Nat → List String → List Token → Option (List Expr × List Token)
  | 0, _, _ => none
  | fuel + 1, visible, tokens => do
    let (expression, rest) ← expression? fuel visible tokens
    match rest with
    | .mark ',' :: rest => do
      let (others, rest) ← expressions? fuel visible rest
      return (expression :: others, rest)
    | rest => return ([expression], rest)

/-- The key of an entry of a table. -/
def key? : Nat → List String → List Token → Option (Expr × List Token)
  | 0, _, _ => none
  | fuel + 1, visible, .mark '[' :: rest => do
    let (key, rest) ← expression? fuel visible rest
    return (key, ← expected? (.mark ']') rest)
  | _ + 1, _, tokens => do
    let (name, rest) ← name? tokens
    return (.text name, rest)

/-- The keys and values of a table, after the opening brace. -/
def items? : Nat → List String → List Token → Option (List Expr × List Token)
  | 0, _, _ => none
  | _ + 1, _, .mark '\x7d' :: rest => some ([], rest)
  | fuel + 1, visible, tokens => do
    let (key, rest) ← key? fuel visible tokens
    let (value, rest) ← expression? fuel visible (← expected? (.mark '=') rest)
    match rest with
    | .mark '\x7d' :: rest => return ([key, value], rest)
    | .mark ',' :: rest | .mark ';' :: rest => do
      let (items, rest) ← items? fuel visible rest
      return (key :: value :: items, rest)
    | _ => none

/-- An assignment or a call. -/
def statement? : Nat → List String → List Token → Option (Stmt × List Token)
  | 0, _, _ => none
  | fuel + 1, visible, tokens => do
    let (expression, rest) ← expression? fuel visible tokens
    match rest with
    | .mark '=' :: rest => do
      let (value, rest) ← expression? fuel visible rest
      return (← assignment? value expression, rest)
    | rest => return (← alone? expression, rest)

/-- The statements of a block, up to its end. -/
def block? : Nat → List String → List Token → Option (List Stmt × List Token)
  | 0, _, _ => none
  | fuel + 1, visible, tokens =>
    match tokens with
    | [] => some ([], [])
    | .word "end" :: _ => some ([], tokens)
    | .mark ';' :: rest => block? fuel visible rest
    | .word "return" :: rest =>
      match closing? rest with
      | some rest => some ([.returned []], rest)
      | none => do
        let (values, rest) ← expressions? fuel visible rest
        return ([.returned values], ← closing? rest)
    | .word "local" :: rest => do
      let (names, rest) ← names? rest
      match rest with
      | .mark '=' :: rest => do
        let (values, rest) ← expressions? fuel visible rest
        let (statements, rest) ← block? fuel (names ++ visible) rest
        return (.declare names values :: statements, rest)
      | rest => do
        let (statements, rest) ← block? fuel (names ++ visible) rest
        return (.declare names [] :: statements, rest)
    | tokens => do
      let (statement, rest) ← statement? fuel visible tokens
      let (statements, rest) ← block? fuel visible rest
      return (statement :: statements, rest)

end

/-- Read a source. No phrase takes more than three steps before it takes a token. -/
def parse? (source : String) : Option Chunk := do
  let characters := source.toList
  let tokens ← tokens? characters.length characters
  match ← block? (3 * tokens.length + 3) [] tokens with
  | (statements, []) => return statements
  | _ => none

/-- The content of a file with a text, compiled as far as this reader knows the language. -/
def fileContent (source : String) : FileContent :=
  .text source (parse? source)

end ScriptedRobot.Script.Source
