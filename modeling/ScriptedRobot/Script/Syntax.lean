import ScriptedRobot.Script.Value

/-! # Syntax of scripts

Expressions and statements of a small dynamic language: tables with handlers for absent keys,
functions that capture variables, and errors as values. Loops run over a count or over the entries
of a table, so that only calls can recur. -/

namespace ScriptedRobot.Script

/-- A constant. -/
inductive Literal where
  | nil
  | boolean (value : Bool)
  | integer (value : Int64)
  | number (value : Float)
  | text (value : String)
  | bytes (value : List UInt8)
  deriving Repr

/-- The value of a constant. -/
def Literal.value : Literal → Value
  | .nil => .nil
  | .boolean value => .boolean value
  | .integer value => .integer value
  | .number value => .number value
  | .text value => .text value
  | .bytes value => Value.ofBytes value

/-- Operators on one value. -/
inductive UnaryOperator where
  | negate
  | not
  deriving Repr, DecidableEq

/-- Operators on two values. -/
inductive BinaryOperator where
  | add
  | multiply
  | concatenate
  | equal
  | less
  | lessEqual
  deriving Repr, DecidableEq

mutual

/-- An expression. A call in last place may yield several values. -/
inductive Expr where
  | literal (literal : Literal)
  | builtin (builtin : Builtin)
  /-- The table that all chunks of a machine share, out of reach of global names. -/
  | shared
  | global (name : String)
  | variable (name : String)
  /-- The arguments of the enclosing function beyond its parameters. -/
  | rest
  | index (object key : Expr)
  | call (callee : Expr) (arguments : List Expr)
  /-- Exactly one value of an expression that may yield several. -/
  | first (expression : Expr)
  | unary (operator : UnaryOperator) (operand : Expr)
  | binary (operator : BinaryOperator) (left right : Expr)
  | conjunction (left right : Expr)
  | disjunction (left right : Expr)
  /-- A fresh table; keys and values alternate. -/
  | table (items : List Expr)
  /-- A table with handlers for absent keys that are read and written; nil is no handler. -/
  | withHandlers (table readHandler writeHandler : Expr)
  | function (parameters : List String) (body : List Stmt)

/-- A statement. -/
inductive Stmt where
  /-- New variables, visible in the rest of the block. -/
  | declare (names : List String) (values : List Expr)
  | setVariable (name : String) (value : Expr)
  | setGlobal (name : String) (value : Expr)
  | setIndex (object key value : Expr)
  | evaluate (expression : Expr)
  | branch (condition : Expr) (positive negative : List Stmt)
  | block (body : List Stmt)
  | repeated (count : Nat) (body : List Stmt)
  /-- Run the body for every entry that the table has when the loop starts. Tables have handlers for
  absent keys, but none for being iterated over. -/
  | forEntries (key value : String) (table : Expr) (body : List Stmt)
  | returned (values : List Expr)

end

instance : Inhabited Expr := ⟨.literal .nil⟩
instance : Inhabited Stmt := ⟨.block []⟩

/-- A script: the statements of a file. -/
abbrev Chunk : Type := List Stmt

namespace Expr

/-- A text constant. -/
def text (value : String) : Expr := .literal (.text value)

/-- An integer constant. -/
def integer (value : Int64) : Expr := .literal (.integer value)

/-- A whole number as a constant: an integer if it fits, and the nearest number if not. -/
def whole (value : Int) : Expr :=
  if Number.isInt64 value then .literal (.integer (Int64.ofInt value))
  else .literal (.number (Number.ofInt value))

/-- A number constant. -/
def number (value : Float) : Expr := .literal (.number value)

/-- A truth constant. -/
def boolean (value : Bool) : Expr := .literal (.boolean value)

/-- The absent value. -/
def nil : Expr := .literal .nil

/-- The entry of a table under a name. -/
def field (object : Expr) (name : String) : Expr := .index object (.text name)

/-- Raise a value. -/
def raise (value : Expr) : Expr := .call (.builtin .error) [value]

end Expr

end ScriptedRobot.Script
