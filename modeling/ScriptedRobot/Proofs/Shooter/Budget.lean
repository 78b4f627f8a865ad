import ScriptedRobot.Proofs.Number.Words
import ScriptedRobot.Proofs.Shooter.Countdown
import Mathlib.Order.Bounds.Defs

/-! # Budgets

A positive number of ticks covers a duration exactly if it is no less than the budget of the
duration (`ticksFor_le_iff`). All that matters about budgets follows from this equivalence: they are
the least such numbers, grow with the duration, shrink with the length of a tick, and the budget of
a whole shot is no less than that of its warm-up (`budgets_cover_durations`). -/

namespace ScriptedRobot.Shooter.Settings

open Number (int32Greatest)

variable (settings : Settings)

/-- The length of a tick in milliseconds, as an integer. -/
theorem toInt_tickLength : (settings.tickLength : Int) = max settings.period.toInt 1 := by
  unfold tickLength
  omega

theorem ticksFor_le_iff (duration : Int32) {count : Nat} (positive : 1 ≤ count) :
    settings.ticksFor duration ≤ count ↔ duration.toInt ≤ count * settings.tickLength := by
  have length := settings.one_le_tickLength
  have rounded : (duration.toInt.toNat + settings.tickLength - 1) / settings.tickLength ≤ count ↔
      duration.toInt.toNat ≤ count * settings.tickLength := by
    rw [← Nat.lt_succ_iff, Nat.div_lt_iff_lt_mul length, Nat.succ_mul]
    omega
  unfold ticksFor
  rw [Nat.max_le, and_iff_right positive, rounded, ← Int.natCast_mul]
  omega

/-- The budget itself covers the duration. -/
theorem le_ticksFor (duration : Int32) :
    duration.toInt ≤ settings.ticksFor duration * settings.tickLength :=
  (settings.ticksFor_le_iff duration (settings.one_le_ticksFor duration)).mp (Nat.le_refl _)

/-- A longer duration has no smaller budget. -/
theorem ticksFor_mono {duration longer : Int32} (atMost : duration.toInt ≤ longer.toInt) :
    settings.ticksFor duration ≤ settings.ticksFor longer :=
  (settings.ticksFor_le_iff duration (settings.one_le_ticksFor longer)).mpr
    (Int.le_trans atMost (settings.le_ticksFor longer))

/-- Longer ticks make no budget larger. -/
theorem ticksFor_anti {slower : Settings} (atMost : settings.period.toInt ≤ slower.period.toInt)
    (duration : Int32) : slower.ticksFor duration ≤ settings.ticksFor duration := by
  refine (slower.ticksFor_le_iff duration (settings.one_le_ticksFor duration)).mpr ?_
  have lengths : (settings.tickLength : Int) ≤ slower.tickLength := by
    rw [toInt_tickLength, toInt_tickLength]
    omega
  calc duration.toInt
      ≤ settings.ticksFor duration * settings.tickLength := settings.le_ticksFor duration
    _ ≤ settings.ticksFor duration * slower.tickLength :=
        Int.mul_le_mul_of_nonneg_left lengths (Int.natCast_nonneg _)

/-- Nothing covers the duration with fewer ticks, be it negative and thus none at all. -/
theorem isLeast_ticksFor (duration : Int32) :
    IsLeast {count : Nat | 1 ≤ count ∧
      max duration.toInt 0 ≤ count * max settings.period.toInt 1} (settings.ticksFor duration) := by
  have covers {count : Nat} (positive : 1 ≤ count) : settings.ticksFor duration ≤ count ↔
      max duration.toInt 0 ≤ count * max settings.period.toInt 1 := by
    rw [settings.ticksFor_le_iff duration positive, ← toInt_tickLength, ← Int.natCast_mul]
    omega
  have positive := settings.one_le_ticksFor duration
  exact ⟨⟨positive, (covers positive).mp (Nat.le_refl _)⟩,
    fun _ covering => (covers covering.1).mpr covering.2⟩

/-! ## Counting in words -/

/-- The budget of a duration as it is counted in 32-bit words: both are made words that are not
negative, and divided with one tick for what remains. There is none if a step divides by zero or
overflows. -/
def wordTicksFor? (duration : Int32) : Option UInt32 := do
  let length := (max settings.period 1).toUInt32
  let covered := (max duration 0).toUInt32
  let count ← Number.divideUp? covered length
  return max count 1

/-- No step fails, and the words count the budget. -/
theorem wordTicksFor?_eq (duration : Int32) :
    (settings.wordTicksFor? duration).map UInt32.toNat = some (settings.ticksFor duration) := by
  have length : (max settings.period 1).toUInt32.toNat = settings.tickLength :=
    Number.toNat_toUInt32_max settings.period (by decide)
  have covered : (max duration 0).toUInt32.toNat = duration.toInt.toNat := by
    rw [Number.toNat_toUInt32_max duration (by decide)]
    change (max duration.toInt 0).toNat = _
    omega
  obtain ⟨count, divided, counts⟩ := Number.exists_divideUp? (max duration 0).toUInt32
    (length ▸ settings.one_le_tickLength)
  rw [length, covered] at counts
  unfold wordTicksFor? ticksFor
  dsimp only
  rw [divided, ← counts, Nat.max_comm]
  exact congrArg some (Number.toNat_max count 1)

/-! ## Shots -/

/-- A shot is longer than its warm-up, in ticks, exactly if the ticks of the warm-up end before the
shot does. Its duration counts as far as 32 bits go. -/
theorem warmupTicks_lt_shootTicks_iff : settings.warmupTicks < settings.shootTicks ↔
    settings.warmupTicks * max settings.period.toInt 1 <
      min int32Greatest (settings.warmup.toInt + settings.shoot.toInt) := by
  have positive : 1 ≤ settings.warmupTicks := settings.one_le_ticksFor settings.warmup
  have length := settings.one_le_tickLength
  have lasting : 1 ≤ settings.warmupTicks * settings.tickLength := Nat.mul_pos positive length
  rw [← Nat.not_le, shootTicks, settings.ticksFor_le_iff _ positive, Number.toInt_clampToInt32,
    ← toInt_tickLength, ← Int.natCast_mul]
  unfold Number.int32Least
  omega

/-- A budget is the least positive number of ticks that covers its duration, and it is counted in
32-bit words without dividing by zero or overflowing; it grows with the duration and shrinks with
the period. A shot that does not end before its warm-up has a budget that is no less than that of
the warm-up, and that covers the whole shot if its duration has 32 bits. -/
theorem budgets_cover_durations :
    (∀ duration : Int32,
      let budget := settings.ticksFor duration
      IsLeast {count : Nat | 1 ≤ count ∧
        max duration.toInt 0 ≤ count * max settings.period.toInt 1} budget ∧
      1 ≤ budget ∧ budget ≤ 2 ^ 31 - 1 ∧
      (settings.wordTicksFor? duration).map UInt32.toNat = some budget ∧
      (∀ longer : Int32, duration ≤ longer → budget ≤ settings.ticksFor longer) ∧
      (∀ slower : Settings, settings.period ≤ slower.period →
        slower.ticksFor duration ≤ budget)) ∧
    (0 ≤ settings.shoot →
      settings.warmupTicks ≤ settings.shootTicks ∧
      (settings.warmup.toInt + settings.shoot.toInt ≤ int32Greatest →
        settings.warmup.toInt + settings.shoot.toInt ≤
          settings.shootTicks * max settings.period.toInt 1)) := by
  refine ⟨fun duration => ⟨settings.isLeast_ticksFor duration, settings.one_le_ticksFor duration,
    settings.ticksFor_le_longestBudget duration, settings.wordTicksFor?_eq duration,
    fun longer atMost => settings.ticksFor_mono (Int32.le_iff_toInt_le.mp atMost),
    fun slower atMost => settings.ticksFor_anti (Int32.le_iff_toInt_le.mp atMost) duration⟩, ?_⟩
  intro forward
  have least := settings.warmup.le_toInt
  have most := settings.warmup.toInt_lt
  have onward : 0 ≤ settings.shoot.toInt := Int32.le_iff_toInt_le.mp forward
  have cut := Number.toInt_clampToInt32 (settings.warmup.toInt + settings.shoot.toInt)
  unfold Number.int32Least int32Greatest at cut
  refine ⟨settings.ticksFor_mono (by omega), fun fits => ?_⟩
  have covered := settings.le_ticksFor
    (Number.clampToInt32 (settings.warmup.toInt + settings.shoot.toInt))
  rw [toInt_tickLength] at covered
  unfold int32Greatest at fits
  unfold shootTicks
  omega

end ScriptedRobot.Shooter.Settings
