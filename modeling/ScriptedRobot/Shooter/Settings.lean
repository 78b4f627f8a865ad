import ScriptedRobot.Number.Decimal

/-! # Timing and power of the shooter

Durations are whole milliseconds and powers are volts. A duration is spent in control ticks: its
*budget* is the least number of ticks that covers it, at least one. -/

namespace ScriptedRobot.Shooter

/-- The control period used when none is configured, in milliseconds. -/
def defaultPeriod : Int32 := 20

/-- Timing and power of the shooter. -/
structure Settings where
  period : Int32 := defaultPeriod
  intake : Int32 := 600
  warmup : Int32 := 500
  shoot : Int32 := 1000
  shootPower : Float := 12.0
  intakePrimaryPower : Float := 6.0
  intakeSecondaryPower : Float := 3.0
  deriving Repr

/-- Settings used when the configured ones cannot be. -/
instance : Inhabited Settings := ⟨{}⟩

/-- Two settings are the same when all fields compare equal; a power that is not a number makes
settings differ from themselves. -/
instance : BEq Settings where
  beq left right :=
    left.period == right.period && left.intake == right.intake && left.warmup == right.warmup &&
    left.shoot == right.shoot && left.shootPower == right.shootPower &&
    left.intakePrimaryPower == right.intakePrimaryPower &&
    left.intakeSecondaryPower == right.intakeSecondaryPower

/-- Why settings cannot be used. -/
inductive SettingsError where
  | negativeDuration
  | powerNotFinite (power : Float)
  deriving Repr

/-- The complaint about settings that cannot be used. -/
def SettingsError.message : SettingsError → String
  | .negativeDuration => "Invalid shooter settings: durations cannot be negative"
  | .powerNotFinite power =>
    "Invalid shooter settings: power must be finite, got " ++ Number.shortest power

namespace Settings

/-- A duration in seconds as whole milliseconds, a half away from zero. A duration that is not
finite counts as none; one too long for a 32-bit integer is cut to its range. -/
def milliseconds (seconds : Float) : Int32 :=
  if seconds.isFinite then
    let scaled := seconds * 1000.0
    match Number.roundHalfAway? scaled with
    | some rounded => Number.clampToInt32 rounded
    | none =>
      Number.clampToInt32
        (if Number.isNegative scaled then Number.int32Least else Number.int32Greatest)
  else 0

/-- Settings with durations in seconds and default powers. -/
def ofSeconds (period : Int32) (intake warmup shoot : Float) : Settings where
  period := period
  intake := milliseconds intake
  warmup := milliseconds warmup
  shoot := milliseconds shoot

/-- The same timing with other powers. -/
def withPowers (settings : Settings) (shoot intakePrimary intakeSecondary : Float) : Settings :=
  { settings with
    shootPower := shoot
    intakePrimaryPower := intakePrimary
    intakeSecondaryPower := intakeSecondary }

/-- The length of a tick in milliseconds, at least one. -/
def tickLength (settings : Settings) : Nat :=
  (max settings.period.toInt 1).toNat

/-- The budget of a duration: the least number of ticks that covers it, at least one. -/
def ticksFor (settings : Settings) (duration : Int32) : Nat :=
  max 1 ((duration.toInt.toNat + settings.tickLength - 1) / settings.tickLength)

/-- The budget of an intake. -/
def intakeTicks (settings : Settings) : Nat :=
  settings.ticksFor settings.intake

/-- The budget of the warm-up of a shot. -/
def warmupTicks (settings : Settings) : Nat :=
  settings.ticksFor settings.warmup

/-- The budget of a whole shot, warm-up included. The sum of the durations is cut to the range of
32-bit integers. -/
def shootTicks (settings : Settings) : Nat :=
  settings.ticksFor (Number.clampToInt32 (settings.warmup.toInt + settings.shoot.toInt))

/-- The three powers, in the order in which they are checked. -/
def powers (settings : Settings) : List Float :=
  [settings.shootPower, settings.intakePrimaryPower, settings.intakeSecondaryPower]

/-- The first reason why the settings cannot be used. -/
def fault? (settings : Settings) : Option SettingsError :=
  if settings.intake < 0 ∨ settings.warmup < 0 ∨ settings.shoot < 0 then
    some .negativeDuration
  else
    (settings.powers.find? fun power => !power.isFinite).map .powerNotFinite

end Settings

end ScriptedRobot.Shooter
