import ScriptedRobot.Proofs.Shooter.Countdown

/-! # The volts of a sequence

What the wheels are given on every tick of a sequence is settled when it starts: it depends on the
settings alone. A shot gives volts to the primary wheels while it warms up, then to both, and none
when its budget is spent; loading turns both backwards for its budget. Commands to start while the
shooter is busy change nothing, and neither does whatever was begun and stopped before. -/

namespace ScriptedRobot.Shooter

/-- Whether an operation is a command to start a sequence. -/
def Operation.isStart : Operation → Bool
  | .load | .intake | .shoot => true
  | .stop | .process | .reset _ => false

theorem Operation.isSome_start? (settings : Settings) (operation : Operation) :
    (operation.start? settings).isSome = operation.isStart := by
  cases operation <;> rfl

/-- The volts of a tick of a shot; the ticks are counted from one on. -/
def Settings.shotVolts (settings : Settings) (tick : Nat) : Volts :=
  let power := settings.shootPower.abs
  if tick ≤ min settings.warmupTicks settings.shootTicks then ⟨power, 0.0⟩
  else if tick ≤ settings.shootTicks then ⟨power, power⟩
  else .off

/-- The volts of a tick of an intake; the ticks are counted from one on. -/
def Settings.intakeVolts (settings : Settings) (tick : Nat) : Volts :=
  if tick ≤ settings.intakeTicks then
    ⟨-settings.intakePrimaryPower.abs, -settings.intakeSecondaryPower.abs⟩
  else .off

namespace Sequence

variable {sequence : Sequence}

/-- Operations that leave a shooter to its sequence: ticks, and commands to start while it is
busy. -/
def Undisturbed : List Operation → Sequence → Prop
  | [], _ => True
  | operation :: rest, sequence =>
    (operation.isTick = true ∨ operation.isStart = true ∧ sequence.phase ≠ .idle) ∧
      Undisturbed rest (operation.apply sequence)

instance decidableUndisturbed :
    (operations : List Operation) → (sequence : Sequence) →
      Decidable (Undisturbed operations sequence)
  | [], _ => .isTrue trivial
  | operation :: rest, sequence =>
    have := decidableUndisturbed rest (operation.apply sequence)
    inferInstanceAs (Decidable (_ ∧ _))

/-- Of such operations only the ticks count. -/
theorem run_of_undisturbed {operations : List Operation}
    (undisturbed : Undisturbed operations sequence) :
    run operations sequence = advance^[operations.countP Operation.isTick] sequence := by
  induction operations generalizing sequence with
  | nil => rfl
  | cons operation rest ih =>
      obtain ⟨quiet, later⟩ := undisturbed
      rw [run_cons, ih later, List.countP_cons]
      rcases quiet with ticking | ⟨starting, busy⟩
      · cases operation with
        | process => rfl
        | load | intake | shoot | stop | reset _ => cases ticking
      · have ignored : operation.apply sequence = sequence :=
          apply_start_of_busy busy operation (by rw [Operation.isSome_start?, starting])
        have silent : operation.isTick = false := by
          cases operation with
          | process => cases starting
          | load | intake | shoot | stop | reset _ => rfl
        simp only [ignored, silent, Bool.false_eq_true, ↓reduceIte, Nat.add_zero]

namespace IsTimed

variable (timed : sequence.IsTimed)
include timed

/-- A shooter that is shooting after some ticks. -/
theorem shot_advance_iterate (idle : sequence.phase = .idle) (count : Nat) :
    advance^[count] sequence.shoot = { sequence with
      phase := if count < sequence.settings.shootTicks then .shooting else .idle
      remaining := sequence.settings.shootTicks - count
      warmupTicks := sequence.settings.warmupTicks
      elapsed := min count sequence.settings.shootTicks } := by
  have started : sequence.shoot.IsTimed := timed.apply .shoot
  rw [started.advance_iterate, shoot_of_idle idle]
  simp only [Nat.zero_add]

theorem output_shot (idle : sequence.phase = .idle) (count : Nat) :
    (advance^[count] sequence.shoot).output = sequence.settings.shotVolts (count + 1) := by
  rw [timed.shot_advance_iterate idle]
  unfold output Settings.shotVolts
  by_cases unspent : count < sequence.settings.shootTicks
  · have spent : min count sequence.settings.shootTicks = count := by omega
    by_cases warm : sequence.settings.warmupTicks ≤ count
    · have warmed : ¬ count + 1 ≤ min sequence.settings.warmupTicks sequence.settings.shootTicks := by
        omega
      simp only [unspent, ↓reduceIte, spent, warm, warmed, Nat.succ_le_iff]
    · have warming : count + 1 ≤ min sequence.settings.warmupTicks sequence.settings.shootTicks := by
        omega
      simp only [unspent, ↓reduceIte, spent, warm, warming]
  · have warmed : ¬ count + 1 ≤ min sequence.settings.warmupTicks sequence.settings.shootTicks := by
      omega
    simp only [unspent, ↓reduceIte, warmed, Nat.succ_le_iff]

theorem isWarmingUp_shot (idle : sequence.phase = .idle) (count : Nat) :
    (advance^[count] sequence.shoot).isWarmingUp = true ↔
      count + 1 ≤ min sequence.settings.warmupTicks sequence.settings.shootTicks := by
  rw [timed.shot_advance_iterate idle]
  unfold isWarmingUp isShooting
  by_cases unspent : count < sequence.settings.shootTicks
  · simp only [unspent, ↓reduceIte, beq_self_eq_true, Bool.true_and, decide_eq_true_eq]
    omega
  · have warmed : ¬ count + 1 ≤ min sequence.settings.warmupTicks sequence.settings.shootTicks := by
      omega
    simp only [unspent, ↓reduceIte, warmed, iff_false, Bool.and_eq_true, not_and]
    intro shooting
    cases shooting

theorem output_intake (idle : sequence.phase = .idle) (count : Nat) :
    (advance^[count] sequence.load).output = sequence.settings.intakeVolts (count + 1) := by
  have started : sequence.load.IsTimed := timed.apply .load
  rw [started.advance_iterate, load_of_idle idle]
  unfold output Settings.intakeVolts
  by_cases unspent : count < sequence.settings.intakeTicks
  · simp only [unspent, ↓reduceIte, Nat.succ_le_iff]
  · simp only [unspent, ↓reduceIte, Nat.succ_le_iff]

end IsTimed

/-- What the wheels of an idle shooter are given after it was started, tick by tick, whatever
happened to the shooter before, and whatever commands to start come in between while it is busy.
The tick that is looked at is the one after the ticks among `calls`. -/
theorem volts_of_start (settings : Settings) (history : List Operation)
    (idle : (run history (new settings)).phase = .idle) :
    let shooter := run history (new settings)
    let warmup := shooter.settings.warmupTicks
    let budget := shooter.settings.shootTicks
    (∀ calls, Undisturbed calls shooter.shoot →
      let tick := calls.countP Operation.isTick + 1
      let reached := run calls shooter.shoot
      reached.process.1 = shooter.settings.shotVolts tick ∧
      (reached.isWarmingUp = true ↔ tick ≤ min warmup budget)) ∧
    (∀ start ∈ [shooter.load, shooter.intake], ∀ calls, Undisturbed calls start →
      let tick := calls.countP Operation.isTick + 1
      (run calls start).process.1 = shooter.settings.intakeVolts tick) := by
  intro shooter warmup budget
  have timed : shooter.IsTimed := (isTimed_new settings).run history
  refine ⟨fun calls undisturbed => ?_, fun start begun calls undisturbed => ?_⟩
  · dsimp only
    rw [run_of_undisturbed undisturbed]
    exact ⟨timed.output_shot idle _, timed.isWarmingUp_shot idle _⟩
  · have loading : start = shooter.load := by
      simpa only [List.mem_cons, List.not_mem_nil, or_false, intake, or_self] using begun
    dsimp only
    subst loading
    rw [run_of_undisturbed undisturbed]
    exact timed.output_intake idle _

namespace AbortedShot

/-! A shot is stopped in its warm-up, and the next one is disturbed in vain. -/

def quick : Settings := { warmup := 40, shoot := 40 }

def history : List Operation := [.shoot, .process, .stop]

def calls : List Operation := [.process, .load, .process, .shoot]

end AbortedShot

open AbortedShot in
/-- The third tick of the second shot gives volts to both wheels. -/
theorem second_shot_after_aborted_one :
    (run history (new quick)).phase = .idle ∧
      Undisturbed calls (run history (new quick)).shoot ∧
      (run calls (run history (new quick)).shoot).process.1 = ⟨12.0, 12.0⟩ := by
  have idle : (run history (new quick)).phase = .idle := rfl
  have undisturbed : Undisturbed calls (run history (new quick)).shoot := by decide
  obtain ⟨shot, _⟩ := volts_of_start quick history idle
  have third := (shot calls undisturbed).1
  exact ⟨idle, undisturbed, third.trans rfl⟩

end Sequence

end ScriptedRobot.Shooter
