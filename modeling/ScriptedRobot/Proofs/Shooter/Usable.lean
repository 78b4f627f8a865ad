import ScriptedRobot.Proofs.Number.Finite
import ScriptedRobot.Shooter.Sequence

/-! # Settings that can be used

Settings are usable when no duration is negative and every power is finite. A shooter with usable
settings gives finite volts to its wheels in every phase. -/

namespace ScriptedRobot.Shooter

namespace Settings

/-- No duration is negative, and every power is finite. The period is no concern: one that is not
positive counts as a millisecond. -/
structure IsUsable (settings : Settings) : Prop where
  intake : 0 ≤ settings.intake
  warmup : 0 ≤ settings.warmup
  shoot : 0 ≤ settings.shoot
  shootPower : settings.shootPower.isFinite = true
  intakePrimaryPower : settings.intakePrimaryPower.isFinite = true
  intakeSecondaryPower : settings.intakeSecondaryPower.isFinite = true

variable {settings : Settings}

theorem powers_finite_iff : settings.powers.find? (fun power => !power.isFinite) = none ↔
    settings.shootPower.isFinite = true ∧ settings.intakePrimaryPower.isFinite = true ∧
      settings.intakeSecondaryPower.isFinite = true := by
  simp [powers]

/-- Settings are usable exactly if nothing is found fault with. -/
theorem fault?_eq_none_iff : settings.fault? = none ↔ settings.IsUsable := by
  unfold fault?
  constructor
  · intro faultless
    split at faultless
    case isTrue => cases faultless
    case isFalse nonnegative =>
      rw [not_or, not_or, Int32.not_lt, Int32.not_lt, Int32.not_lt] at nonnegative
      obtain ⟨shoot, primary, secondary⟩ :=
        powers_finite_iff.mp (Option.map_eq_none_iff.mp faultless)
      exact ⟨nonnegative.1, nonnegative.2.1, nonnegative.2.2, shoot, primary, secondary⟩
  · intro usable
    have nonnegative : ¬(settings.intake < 0 ∨ settings.warmup < 0 ∨ settings.shoot < 0) := by
      rw [not_or, not_or, Int32.not_lt, Int32.not_lt, Int32.not_lt]
      exact ⟨usable.intake, usable.warmup, usable.shoot⟩
    rw [if_neg nonnegative, Option.map_eq_none_iff]
    exact powers_finite_iff.mpr
      ⟨usable.shootPower, usable.intakePrimaryPower, usable.intakeSecondaryPower⟩

instance : Decidable settings.IsUsable :=
  decidable_of_iff _ fault?_eq_none_iff

theorem IsUsable.withPeriod (usable : settings.IsUsable) (period : Int32) :
    { settings with period }.IsUsable :=
  ⟨usable.intake, usable.warmup, usable.shoot, usable.shootPower, usable.intakePrimaryPower,
    usable.intakeSecondaryPower⟩

theorem isUsable_defaults (period : Int32) : { period : Settings }.IsUsable := by
  have usable : ({} : Settings).IsUsable := by decide
  exact usable.withPeriod period

end Settings

/-- Both volts are finite. -/
structure Volts.IsFinite (volts : Volts) : Prop where
  primary : volts.primary.isFinite = true
  secondary : volts.secondary.isFinite = true

theorem Volts.isFinite_off : Volts.off.IsFinite := by
  constructor <;> decide

namespace Sequence

variable {sequence : Sequence}

/-- Only finite volts are given with usable settings, whatever the shooter is doing. -/
theorem isFinite_output (usable : sequence.settings.IsUsable) :
    sequence.output.IsFinite := by
  unfold output
  cases sequence.phase with
  | idle => exact Volts.isFinite_off
  | loading =>
      refine ⟨?_, ?_⟩
      · exact (Number.isFinite_neg _).trans ((Number.isFinite_abs _).trans usable.intakePrimaryPower)
      · exact (Number.isFinite_neg _).trans
          ((Number.isFinite_abs _).trans usable.intakeSecondaryPower)
  | shooting =>
      have power : sequence.settings.shootPower.abs.isFinite = true :=
        (Number.isFinite_abs _).trans usable.shootPower
      refine ⟨power, ?_⟩
      dsimp only
      split
      · exact power
      · exact Volts.isFinite_off.secondary

/-! ## Commands and ticks leave the settings alone -/

theorem settings_load : sequence.load.settings = sequence.settings := by
  unfold load
  split <;> rfl

theorem settings_shoot : sequence.shoot.settings = sequence.settings := by
  unfold shoot
  split <;> rfl

theorem settings_advance : sequence.advance.settings = sequence.settings := by
  unfold advance
  split <;> rfl

end Sequence

end ScriptedRobot.Shooter
