import ScriptedRobot.Configuration.Value
import ScriptedRobot.Shooter.Settings

/-! # Reading the robot configuration

Typed reads over any way to look a value up. A read never fails: an absent value, or one of
another type, is replaced by the caller's fallback. Looking a value up may run a program, so that
reads are computations of a monad. -/

namespace ScriptedRobot.Configuration

/-- A way to find the value under a category and a symbol. -/
abbrev Lookup (m : Type → Type) : Type :=
  String → String → m (Option Value)

namespace Lookup

variable {m : Type → Type} [Monad m]

/-- Read a number. -/
def number (lookup : Lookup m) (category symbol : String) (fallback : Float) : m Float := do
  let value ← lookup category symbol
  return (value.bind Value.number?).getD fallback

/-- Read a number and narrow it to a 32-bit integer. -/
def integer (lookup : Lookup m) (category symbol : String) (fallback : Int32) : m Int32 := do
  let value ← lookup category symbol
  return match value.bind Value.number? with
    | some number => Number.narrowToInt32 number fallback
    | none => fallback

/-- Read a text. -/
def text (lookup : Lookup m) (category symbol : String) (fallback : String) : m String := do
  let value ← lookup category symbol
  return (value.bind Value.text?).getD fallback

/-- Read a truth value. -/
def boolean (lookup : Lookup m) (category symbol : String) (fallback : Bool) : m Bool := do
  let value ← lookup category symbol
  return (value.bind Value.boolean?).getD fallback

/-- The value of a symbol of the general category. -/
def general (lookup : Lookup m) (symbol : String) : m (Option Value) :=
  lookup "general" symbol

/-- The name of the team. -/
def teamName (lookup : Lookup m) : m String :=
  lookup.text "general" "team_name" ""

/-- The number of the team. -/
def teamNumber (lookup : Lookup m) : m Int32 :=
  lookup.integer "general" "team_number" 0

/-- Where the robot stands at the start of a match. -/
def matchStartPosition (lookup : Lookup m) : m String :=
  lookup.text "general" "match_start_position" "Left"

/-- The factor on stick values. -/
def gamepadSkewFactor (lookup : Lookup m) : m Float :=
  lookup.number "gamepad" "skew_factor" 1.0

/-- The control period in milliseconds. -/
def enginePeriod (lookup : Lookup m) : m Int32 :=
  lookup.integer "engine" "period" Shooter.defaultPeriod

/-- A duration in milliseconds as seconds. -/
def seconds (milliseconds : Int32) : Float :=
  Number.ofInt milliseconds.toInt / 1000.0

/-- The settings of the shooter. Every duration and power has its own fallback. -/
def shooterSettings (lookup : Lookup m) : m Shooter.Settings := do
  let defaults : Shooter.Settings := {}
  let period ← lookup.enginePeriod
  let intake ← lookup.number "shooter" "intake_time" (seconds defaults.intake)
  let warmup ← lookup.number "shooter" "warmup_time" (seconds defaults.warmup)
  let shoot ← lookup.number "shooter" "shoot_time" (seconds defaults.shoot)
  let shootPower ← lookup.number "shooter" "shoot_power" defaults.shootPower
  let primary ← lookup.number "shooter" "intake_primary_power" defaults.intakePrimaryPower
  let secondary ← lookup.number "shooter" "intake_secondary_power" defaults.intakeSecondaryPower
  return (Shooter.Settings.ofSeconds period intake warmup shoot).withPowers
    shootPower primary secondary

end Lookup

end ScriptedRobot.Configuration
