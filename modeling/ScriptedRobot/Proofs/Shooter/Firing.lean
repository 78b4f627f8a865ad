import ScriptedRobot.Proofs.Shooter.Budget
import ScriptedRobot.Proofs.Shooter.Profile
import ScriptedRobot.Proofs.Shooter.Usable

/-! # Shots that fire

A shot fires while it gives its power to the secondary wheels, which it does after its warm-up. The
ticks of the warm-up and those of the whole shot are rounded up apart from each other, and so the
warm-up may use up all of them: whether a shot fires is a matter of where its last tick of warm-up
ends (`shot_fires_iff`). -/

namespace ScriptedRobot.Shooter.Sequence

open Number (int32Greatest)

/-- When a shot is started and so many ticks pass, the next one fires: the shooter is shooting, its
warm-up is over, and the secondary wheels are given the power of the shot. -/
def FiresAfter (ticks : Nat) (shooter : Sequence) : Prop :=
  let reached := run (List.replicate ticks .process) shooter.shoot
  reached.isShooting = true ∧ reached.isWarmingUp = false ∧
    reached.process.1.secondary = shooter.settings.shootPower.abs

theorem run_replicate_process (ticks : Nat) (sequence : Sequence) :
    run (List.replicate ticks .process) sequence = advance^[ticks] sequence := by
  induction ticks generalizing sequence with
  | zero => rfl
  | succ ticks ih =>
      rw [List.replicate_succ, run_cons, Function.iterate_succ_apply]
      exact ih _

variable {shooter : Sequence}

/-- What is left of the budget after the warm-up fires. -/
theorem IsTimed.firesAfter_iff (timed : shooter.IsTimed) (idle : shooter.phase = .idle)
    (ticks : Nat) : shooter.FiresAfter ticks ↔
      shooter.settings.warmupTicks ≤ ticks ∧ ticks < shooter.settings.shootTicks := by
  have volts := timed.output_shot idle ticks
  have warming := timed.isWarmingUp_shot idle ticks
  have shooting : (advance^[ticks] shooter.shoot).isShooting = true ↔
      ticks < shooter.settings.shootTicks := by
    rw [timed.shot_advance_iterate idle]
    unfold isShooting
    split_ifs with unspent
    · exact iff_of_true rfl unspent
    · exact iff_of_false Bool.false_ne_true unspent
  unfold FiresAfter
  dsimp only [process]
  rw [run_replicate_process, shooting, volts, Bool.eq_false_iff, Ne, warming]
  constructor
  · rintro ⟨unspent, warm, _⟩
    omega
  · rintro ⟨warm, unspent⟩
    refine ⟨unspent, by omega, ?_⟩
    unfold Settings.shotVolts
    rw [if_neg (by omega), if_pos (by omega)]

/-- Whatever happened to an idle shooter before, the ticks of its next shot that fire are those
after the warm-up, up to the end of the budget. There is one exactly if the ticks of the warm-up end
before the shot does, where its duration counts as far as 32 bits go. -/
theorem shot_fires_iff (settings : Settings) (history : List Operation)
    (idle : (run history (new settings)).phase = .idle) :
    let shooter := run history (new settings)
    let warmup := shooter.settings.warmupTicks
    (∀ ticks, shooter.FiresAfter ticks ↔ warmup ≤ ticks ∧ ticks < shooter.settings.shootTicks) ∧
    ((∃ ticks, shooter.FiresAfter ticks) ↔
      warmup * max shooter.settings.period.toInt 1 <
        min int32Greatest (shooter.settings.warmup.toInt + shooter.settings.shoot.toInt)) := by
  intro shooter warmup
  have timed : shooter.IsTimed := (isTimed_new settings).run history
  have fires := timed.firesAfter_iff idle
  refine ⟨fires, ?_⟩
  rw [← shooter.settings.warmupTicks_lt_shootTicks_iff]
  constructor
  · rintro ⟨ticks, fired⟩
    have between := (fires ticks).mp fired
    omega
  · intro longer
    exact ⟨warmup, (fires warmup).mpr ⟨Nat.le_refl _, longer⟩⟩

/-- With the default settings the warm-up takes 25 of the 75 ticks of a shot. -/
theorem default_shot_fires : (run [] (new {})).phase = .idle ∧ (new {}).FiresAfter 25 := by
  have idle : (run [] (new {})).phase = .idle := rfl
  obtain ⟨fires, _⟩ := shot_fires_iff {} [] idle
  exact ⟨idle, (fires 25).mpr (by decide)⟩

/-- A shot as long as one tick, without a warm-up. -/
def fleeting : Settings := { period := 20, warmup := 0, shoot := 20 }

/-- The one tick that such a shot lasts is taken for its warm-up, which is never shorter. -/
theorem fleeting_shot_does_not_fire : fleeting.fault? = none ∧ 0 < fleeting.shoot ∧
    (new fleeting).phase = .idle ∧ ∀ ticks, ¬ (new fleeting).FiresAfter ticks := by
  refine ⟨Settings.fault?_eq_none_iff.mpr (by decide), by decide, rfl, fun ticks fired => ?_⟩
  have between := ((isTimed_new fleeting).firesAfter_iff rfl ticks).mp fired
  have warmup : (new fleeting).settings.warmupTicks = 1 := by decide
  have budget : (new fleeting).settings.shootTicks = 1 := by decide
  omega

end ScriptedRobot.Shooter.Sequence
