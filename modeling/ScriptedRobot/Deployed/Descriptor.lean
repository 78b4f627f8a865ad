import ScriptedRobot.Script.Steps

/-! # Deployed programs

The shape that the programs on the robot have in common: a file returns a factory, the factory
sets up its variables, fills a descriptor with functions, and returns it. -/

namespace ScriptedRobot.Deployed

open Script

/-- The variable that holds the descriptor. -/
def descriptorName : String := "M"

/-- The descriptor. -/
def descriptor : Expr := .variable descriptorName

/-- Add an entry to the descriptor. -/
def define (name : String) (value : Expr) : Stmt :=
  .setIndex descriptor (.text name) value

/-- Add a function without parameters to the descriptor. -/
def callback (name : String) (body : List Stmt) : Stmt :=
  define name (.function [] body)

/-- Statements that fill a fresh descriptor and return it. -/
def describing (body : List Stmt) : List Stmt :=
  .declare [descriptorName] [.table []] :: body ++ [.returned [descriptor]]

/-- A program whose factory runs statements on a fresh descriptor. -/
def program (body : List Stmt) : Chunk :=
  [.returned [.function [] (describing body)]]

/-- Call a function of the host for its effect. -/
def command (module name : String) (arguments : List Expr) : Stmt :=
  .evaluate (Steps.callSymbol module name arguments)

end ScriptedRobot.Deployed
