import ScriptedRobot.Script.Syntax

/-! # Store

The objects of a script machine: tables, functions and variables, each known by a number. A table
keeps its entries in the order in which they were added. -/

namespace ScriptedRobot.Script

/-- A key of a table. A number equal to an integer is that integer; other numbers are told apart
by their bits. -/
inductive Key where
  | boolean (value : Bool)
  | integer (value : Int64)
  | fraction (bits : UInt64)
  | text (value : String)
  | bytes (value : List UInt8)
  | table (id : Nat)
  | function (callable : Callable)
  | failure (cause : Failure)
  deriving Repr, DecidableEq

namespace Key

/-- The key a value stands for. Nil and the value that is not a number are no keys. -/
def ofValue? : Value → Option Key
  | .nil => none
  | .boolean value => some (.boolean value)
  | .integer value => some (.integer value)
  | .number value =>
    if value.isNaN then none
    else
      match Number.exactInt64? value with
      | some whole => some (.integer whole)
      | none => some (.fraction value.toBits)
  | .text value => some (.text value)
  | .bytes value => some (.bytes value)
  | .table id => some (.table id)
  | .function callable => some (.function callable)
  | .failure cause => some (.failure cause)

/-- The value of a key. -/
def value : Key → Value
  | .boolean value => .boolean value
  | .integer value => .integer value
  | .fraction bits => .number (Float.ofBits bits)
  | .text value => .text value
  | .bytes value => .bytes value
  | .table id => .table id
  | .function callable => .function callable
  | .failure cause => .failure cause

end Key

/-- A table: its entries, none of them nil, and its handlers for absent keys. -/
structure Table where
  entries : List (Key × Value) := []
  readHandler : Value := .nil
  writeHandler : Value := .nil
  deriving Repr

instance : Inhabited Table := ⟨{}⟩

namespace Table

/-- The value under a key, nil if there is none. -/
def get (table : Table) (key : Key) : Value :=
  (table.entries.lookup key).getD .nil

/-- Replace the value of the first entry with a key, or add an entry at the end. -/
def put (key : Key) (value : Value) : List (Key × Value) → List (Key × Value)
  | [] => [(key, value)]
  | (other, old) :: rest =>
    if other = key then (key, value) :: rest else (other, old) :: put key value rest

/-- Set the value under a key; nil removes the entry. -/
def set (table : Table) (key : Key) (value : Value) : Table :=
  if value.isNil then
    { table with entries := table.entries.filter fun entry => entry.1 ≠ key }
  else
    { table with entries := put key value table.entries }

/-- The keys, in the order in which they were added. -/
def keys (table : Table) : List Key :=
  table.entries.map Prod.fst

end Table

/-- Which cell a variable names. The variables of the running function come before the captured
ones, and later declarations before earlier ones. -/
structure Scope where
  own : List (String × Nat) := []
  captured : List (String × Nat) := []
  /-- The arguments beyond the parameters. -/
  rest : List Value := []
  deriving Repr

namespace Scope

/-- The cell of a variable. -/
def cell? (scope : Scope) (name : String) : Option Nat :=
  (scope.own.lookup name).orElse fun _ => scope.captured.lookup name

/-- Whether a variable belongs to the running function. -/
def isOwn (scope : Scope) (name : String) : Bool :=
  (scope.own.lookup name).isSome

/-- What a function defined here captures. -/
def visible (scope : Scope) : List (String × Nat) :=
  scope.own ++ scope.captured

end Scope

/-- A function written in a script, with the variables it captured. -/
structure Closure where
  parameters : List String
  body : List Stmt
  captured : List (String × Nat)

instance : Inhabited Closure := ⟨⟨[], [], []⟩⟩

/-- All objects of a script machine. -/
structure Store where
  tables : Array Table := #[]
  closures : Array Closure := #[]
  cells : Array Value := #[]

namespace Store

/-- The table of global names. -/
def globalsId : Nat := 0

/-- The table that describes where modules are searched for. -/
def packageId : Nat := 1

/-- The table shared by all chunks. -/
def sharedId : Nat := 2

/-- A table by its number. -/
def table (store : Store) (id : Nat) : Table :=
  store.tables.getD id {}

/-- Change a table. -/
def modifyTable (store : Store) (id : Nat) (change : Table → Table) : Store :=
  { store with tables := store.tables.modify id change }

/-- Add a table. -/
def newTable (store : Store) (table : Table) : Nat × Store :=
  (store.tables.size, { store with tables := store.tables.push table })

/-- Add a function. -/
def newClosure (store : Store) (closure : Closure) : Nat × Store :=
  (store.closures.size, { store with closures := store.closures.push closure })

/-- Add a variable with a value. -/
def newCell (store : Store) (value : Value) : Nat × Store :=
  (store.cells.size, { store with cells := store.cells.push value })

/-- The value of a variable. -/
def cell (store : Store) (id : Nat) : Value :=
  store.cells.getD id .nil

/-- Set a variable. -/
def setCell (store : Store) (id : Nat) (value : Value) : Store :=
  { store with cells := store.cells.setIfInBounds id value }

/-- The name and version of the language. -/
def languageVersion : String := "Lua 5.4"

/-- Where modules are searched for before the host sets a directory. -/
def initialSearchPath : String :=
  "/usr/local/share/lua/5.4/?.lua;/usr/local/share/lua/5.4/?/init.lua;" ++
  "/usr/local/lib/lua/5.4/?.lua;/usr/local/lib/lua/5.4/?/init.lua;./?.lua;./?/init.lua"

/-- The global names at the start. -/
def initialGlobals : Table where
  entries := [
    (.text "_VERSION", .text languageVersion),
    (.text "package", .table packageId),
    (.text "error", .function (.builtin .error)),
    (.text "pcall", .function (.builtin .protectedCall)),
    (.text "type", .function (.builtin .type)),
    (.text "assert", .function (.builtin .assert))]

/-- The description of the module search at the start. -/
def initialPackage : Table where
  entries := [(.text "path", .text initialSearchPath)]

/-- The store of a new machine. -/
def initial : Store where
  tables := #[initialGlobals, initialPackage, {}]

end Store

end ScriptedRobot.Script
