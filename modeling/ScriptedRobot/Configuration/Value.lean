import ScriptedRobot.Number.Decimal

/-! # Values of the robot configuration

A configuration value as the host sees it. The host never looks into a nested table. -/

namespace ScriptedRobot.Configuration

/-- A value found under a category and a symbol. -/
inductive Value where
  | number (value : Float)
  | text (value : String)
  | boolean (value : Bool)
  | table
  deriving Repr

namespace Value

/-- The number, if the value is one. -/
def number? : Value → Option Float
  | .number value => some value
  | _ => none

/-- The text, if the value is one. -/
def text? : Value → Option String
  | .text value => some value
  | _ => none

/-- The truth value, if the value is one. -/
def boolean? : Value → Option Bool
  | .boolean value => some value
  | _ => none

/-- The value as a text. -/
def display : Value → String
  | .number value => Number.shortest value
  | .text value => value
  | .boolean value => if value then "true" else "false"
  | .table => "<table>"

end Value

end ScriptedRobot.Configuration
