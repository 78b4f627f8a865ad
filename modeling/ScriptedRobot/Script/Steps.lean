import ScriptedRobot.Script.Syntax

/-! # Script steps

Steps that robot programs are made of, as statements: calls of functions of the host, counters,
protected and repeated steps, and assignments. Values that a script keeps under a name for later
live in the table that all chunks share; a counter may also belong to one run of a chunk or a
factory. -/

namespace ScriptedRobot.Script

/-- Where a counter lives. -/
inductive Counter where
  /-- Shared by all chunks. -/
  | shared (name : String)
  /-- Of one run only. -/
  | own (name : String)

namespace Steps

/-- The table of the counters of one run. -/
def ownName : String := "own"

/-- Statements that have counters of their own. -/
def withOwnCounters (body : List Stmt) : List Stmt :=
  .declare [ownName] [.table []] :: body

/-- Statements with counters of their own, and a value that is returned after them. -/
def returning (body : List Stmt) (value : Expr) : Chunk :=
  withOwnCounters (body ++ [.returned [value]])

/-- The file of a program: statements and a factory, which is a function that runs statements of
its own and returns a descriptor. Another value may stand in for the factory or for the
descriptor. -/
def programFile (body factoryBody : List Stmt) (factory? descriptor? : Option Expr)
    (descriptor : Expr) : Chunk :=
  returning body
    (factory?.getD (.function [] (returning factoryBody (descriptor?.getD descriptor))))

/-- The place of a counter. -/
def counterPlace : Counter → Expr × Expr
  | .shared name => (.shared, .text ("count:" ++ name))
  | .own name => (.variable ownName, .text name)

/-- The value of a counter, zero at first. -/
def count (counter : Counter) : Expr :=
  let (table, key) := counterPlace counter
  .disjunction (.index table key) (.integer 0)

/-- Count up by one. -/
def increment (counter : Counter) : Stmt :=
  let (table, key) := counterPlace counter
  .setIndex table key (.binary .add (count counter) (.integer 1))

/-- The global table of modules. -/
def root : Expr := .global "bot"

/-- The robot configuration. -/
def configuration : Expr := .global "config"

/-- A function of the host. -/
def symbol (module symbol : String) : Expr :=
  (root.field module).field symbol

/-- Call a function of the host. -/
def callSymbol (module name : String) (arguments : List Expr) : Expr :=
  .call (symbol module name) arguments

/-- Show values to the host. -/
def report (values : List Expr) : Stmt :=
  .evaluate (.call (.builtin .report) values)

/-- The place of a value kept under a name. -/
def held (name : String) : Expr :=
  Expr.shared.field ("held:" ++ name)

/-- Keep a function of the host under a name. -/
def hold (module name heldName : String) : Stmt :=
  .setIndex .shared (.text ("held:" ++ heldName)) (symbol module name)

/-- Run steps protected. The outcome is success, or failure and what was raised. -/
def protectedRun (body : List Stmt) : Expr :=
  .call (.builtin .protectedCall) [.function [] body]

/-- Run steps protected and show whether they succeeded. -/
def attempt (body : List Stmt) : Stmt :=
  report [.first (protectedRun body)]

/-- Run steps protected and raise again what they raised. -/
def raiseAgain (body : List Stmt) : Stmt :=
  .block [
    .declare ["success", "raised"] [protectedRun body],
    .branch (.variable "success") [] [.evaluate (Expr.raise (.variable "raised"))]]

/-- Branch on whether a counter is below a bound. -/
def ifBelow (counter : Counter) (bound : Int64) (positive negative : List Stmt) : Stmt :=
  .branch (.binary .less (count counter) (.integer bound)) positive negative

/-- Show the name of the type of a module. -/
def reportType (module : String) : Stmt :=
  report [.call (.builtin .type) [root.field module]]

/-- A function that returns a value, the same each time. -/
def constantly (value : Expr) : Expr :=
  .call (.function ["value"] [.returned [.function [] [.returned [.variable "value"]]]]) [value]

/-- A function that returns no value. -/
def returningNothing : Expr :=
  .function [] []

/-- A function that returns its arguments. -/
def returningArguments : Expr :=
  .function [] [.returned [.rest]]

/-- A function that raises a value. -/
def raising (value : Expr) : Expr :=
  .call (.function ["value"] [.returned [
    .function [] [.evaluate (Expr.raise (.variable "value"))]]]) [value]

/-- A function that looks its argument up in a table, with a value for what is absent. -/
def lookingUp (table fallback : Expr) : Expr :=
  .call (.function ["entries", "fallback"] [.returned [
    .function ["key"] [
      .declare ["found"] [.index (.variable "entries") (.variable "key")],
      .branch (.binary .equal (.variable "found") .nil)
        [.returned [.variable "fallback"]]
        [.returned [.variable "found"]]]]]) [table, fallback]

end Steps

end ScriptedRobot.Script
