import ScriptedRobot.Configuration.Reading

/-! # What the settings of the shooter are made of

The settings of the shooter are made of seven values, each looked up once, whatever looking a value
up does besides. What was found under one key has no bearing on the others: a value that is absent
or of another type is replaced by the fallback of its own key. -/

namespace ScriptedRobot.Configuration

open Shooter (Settings)

/-- What was found under the keys that make up the settings of the shooter. -/
structure Readings where
  period : Option Value
  intake : Option Value
  warmup : Option Value
  shoot : Option Value
  shootPower : Option Value
  intakePrimaryPower : Option Value
  intakeSecondaryPower : Option Value

namespace Readings

variable {m : Type → Type} [Monad m]

/-- Look the values up, in the order in which the settings are read. -/
def take (lookup : Lookup m) : m Readings := do
  let period ← lookup "engine" "period"
  let intake ← lookup "shooter" "intake_time"
  let warmup ← lookup "shooter" "warmup_time"
  let shoot ← lookup "shooter" "shoot_time"
  let shootPower ← lookup "shooter" "shoot_power"
  let intakePrimaryPower ← lookup "shooter" "intake_primary_power"
  let intakeSecondaryPower ← lookup "shooter" "intake_secondary_power"
  return { period, intake, warmup, shoot, shootPower, intakePrimaryPower, intakeSecondaryPower }

/-- The number that was found. -/
def number (found : Option Value) (fallback : Float) : Float :=
  (found.bind Value.number?).getD fallback

/-- The number that was found, narrowed to a 32-bit integer. -/
def integer (found : Option Value) (fallback : Int32) : Int32 :=
  match found.bind Value.number? with
  | some number => Number.narrowToInt32 number fallback
  | none => fallback

/-- The settings that the values make up: durations are rounded to whole milliseconds, and those
that are not finite count as none. -/
def settings (found : Readings) : Settings where
  period := integer found.period Shooter.defaultPeriod
  intake := Settings.milliseconds (number found.intake (Lookup.seconds 600))
  warmup := Settings.milliseconds (number found.warmup (Lookup.seconds 500))
  shoot := Settings.milliseconds (number found.shoot (Lookup.seconds 1000))
  shootPower := number found.shootPower 12.0
  intakePrimaryPower := number found.intakePrimaryPower 6.0
  intakeSecondaryPower := number found.intakeSecondaryPower 3.0

theorem shooterSettings_eq [LawfulMonad m] (lookup : Lookup m) :
    lookup.shooterSettings = settings <$> take lookup := by
  simp only [Lookup.shooterSettings, Lookup.enginePeriod, Lookup.integer, Lookup.number, take,
    bind_assoc, pure_bind, map_bind, map_pure]
  rfl

/-- Lookups that are related make related readings, for every relation between steps that can be
chained. -/
theorem take_related {n : Type → Type} [Monad n] (related : ∀ {α : Type}, m α → n α → Prop)
    (yielded : ∀ {α : Type} (value : α), related (pure value) (pure value))
    (chained : ∀ {α β : Type} {first : m α} {other : n α} {second : α → m β} {otherSecond : α → n β},
      related first other → (∀ value, related (second value) (otherSecond value)) →
      related (first >>= second) (other >>= otherSecond))
    (lookup : Lookup m) (otherLookup : Lookup n)
    (lookups : ∀ category symbol, related (lookup category symbol) (otherLookup category symbol)) :
    related (take lookup) (take otherLookup) := by
  refine chained (lookups _ _) fun period => ?_
  refine chained (lookups _ _) fun intake => ?_
  refine chained (lookups _ _) fun warmup => ?_
  refine chained (lookups _ _) fun shoot => ?_
  refine chained (lookups _ _) fun shootPower => ?_
  refine chained (lookups _ _) fun primary => ?_
  refine chained (lookups _ _) fun secondary => ?_
  exact yielded _

/-! ## Parts -/

/-- The values that make up the settings. -/
inductive Part where
  | period
  | intake
  | warmup
  | shoot
  | shootPower
  | intakePrimaryPower
  | intakeSecondaryPower

namespace Part

/-- The parts in the order in which they are looked up. -/
def all : List Part :=
  [period, intake, warmup, shoot, shootPower, intakePrimaryPower, intakeSecondaryPower]

/-- The category of a part. -/
def category : Part → String
  | period => "engine"
  | _ => "shooter"

/-- The symbol of a part. -/
def symbol : Part → String
  | period => "period"
  | intake => "intake_time"
  | warmup => "warmup_time"
  | shoot => "shoot_time"
  | shootPower => "shoot_power"
  | intakePrimaryPower => "intake_primary_power"
  | intakeSecondaryPower => "intake_secondary_power"

/-- What was found for a part. -/
def found (readings : Readings) : Part → Option Value
  | period => readings.period
  | intake => readings.intake
  | warmup => readings.warmup
  | shoot => readings.shoot
  | shootPower => readings.shootPower
  | intakePrimaryPower => readings.intakePrimaryPower
  | intakeSecondaryPower => readings.intakeSecondaryPower

/-- The setting that comes of a part: milliseconds or volts. -/
def setting (settings : Settings) : Part → Int32 ⊕ Float
  | period => .inl settings.period
  | intake => .inl settings.intake
  | warmup => .inl settings.warmup
  | shoot => .inl settings.shoot
  | shootPower => .inr settings.shootPower
  | intakePrimaryPower => .inr settings.intakePrimaryPower
  | intakeSecondaryPower => .inr settings.intakeSecondaryPower

/-- A setting depends on its own part only. -/
theorem setting_of_same {part : Part} {readings others : Readings}
    (same : part.found readings = part.found others) :
    part.setting readings.settings = part.setting others.settings := by
  cases part <;> simp only [found] at same <;> simp only [setting, settings, same]

/-- The durations by default survive the detour through seconds. -/
theorem milliseconds_seconds_defaults :
    Settings.milliseconds (Lookup.seconds 600) = 600 ∧
      Settings.milliseconds (Lookup.seconds 500) = 500 ∧
      Settings.milliseconds (Lookup.seconds 1000) = 1000 := by
  decide +kernel

/-- A part that is no number leaves its setting as it is by default. -/
theorem setting_of_noNumber {part : Part} {readings : Readings}
    (noNumber : (part.found readings).bind Value.number? = none) :
    part.setting readings.settings = part.setting {} := by
  obtain ⟨intakeKept, warmupKept, shootKept⟩ := milliseconds_seconds_defaults
  cases part <;> simp only [found] at noNumber <;>
    simp only [setting, settings, number, integer, noNumber, Option.getD_none, intakeKept,
      warmupKept, shootKept]

end Part

end Readings

end ScriptedRobot.Configuration
