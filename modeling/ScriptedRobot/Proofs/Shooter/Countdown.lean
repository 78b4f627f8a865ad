import ScriptedRobot.Shooter.Sequence
import Mathlib.Algebra.Group.Nat.Defs
import Mathlib.Data.List.Induction
import Mathlib.Logic.Function.Iterate

/-! # The countdown of the shooter

Whatever is done to a shooter, it is idle exactly when no ticks are left. While it is busy, the
ticks spent and the ticks left add up to the budget its current sequence was started with. The
budget is not stored, and stopping leaves old counters behind; it is found again in the history of
the shooter, at the last operation before which the shooter was idle.

Any number of ticks is told by one equation, `IsTimed.advance_iterate`. -/

namespace ScriptedRobot.Shooter

/-- The longest budget. -/
def longestBudget : Nat := 2 ^ 31 - 1

namespace Settings

variable (settings : Settings) (duration : Int32)

theorem one_le_tickLength : 1 ≤ settings.tickLength := by
  unfold tickLength
  omega

theorem one_le_ticksFor : 1 ≤ settings.ticksFor duration :=
  Nat.le_max_left _ _

theorem ticksFor_le_longestBudget : settings.ticksFor duration ≤ longestBudget := by
  have short : duration.toInt.toNat ≤ longestBudget := by
    have below := duration.toInt_lt
    unfold longestBudget
    omega
  have length := settings.one_le_tickLength
  have covered : (duration.toInt.toNat + settings.tickLength - 1) / settings.tickLength ≤
      longestBudget := by
    -- No duration lasts longer in ticks than in milliseconds.
    refine Nat.div_le_of_le_mul ?_
    have scaled : duration.toInt.toNat + (settings.tickLength - 1) * 1 ≤
        longestBudget + (settings.tickLength - 1) * longestBudget :=
      Nat.add_le_add short (Nat.mul_le_mul_left _ (by decide))
    have product : settings.tickLength * longestBudget =
        longestBudget + (settings.tickLength - 1) * longestBudget := by
      obtain ⟨rest, same⟩ := Nat.exists_eq_add_of_le length
      rw [same, Nat.add_sub_cancel_left, Nat.add_mul, Nat.one_mul]
    omega
  exact Nat.max_le.mpr ⟨by decide, covered⟩

end Settings

/-- What can be done to a shooter. -/
inductive Operation where
  | load
  | intake
  | shoot
  | stop
  | process
  | reset (settings : Settings)

namespace Operation

/-- The shooter after an operation. -/
def apply : Operation → Sequence → Sequence
  | .load, sequence => sequence.load
  | .intake, sequence => sequence.intake
  | .shoot, sequence => sequence.shoot
  | .stop, sequence => sequence.stop
  | .process, sequence => sequence.process.2
  | .reset settings, sequence => sequence.reset settings

/-- The phase and the budget that an idle shooter is started with. -/
def start? (settings : Settings) : Operation → Option (Phase × Nat)
  | .load | .intake => some (.loading, settings.intakeTicks)
  | .shoot => some (.shooting, settings.shootTicks)
  | .stop | .process | .reset _ => none

/-- Whether an operation makes the shooter idle at once. -/
def isInterruption : Operation → Bool
  | .stop | .reset _ => true
  | _ => false

/-- Whether an operation is a command of a script. -/
def isCommand : Operation → Bool
  | .process | .reset _ => false
  | _ => true

/-- Whether an operation is a tick. -/
def isTick : Operation → Bool
  | .process => true
  | _ => false

end Operation

namespace Sequence

/-- The shooter after operations, one after the other. -/
def run (operations : List Operation) (sequence : Sequence) : Sequence :=
  operations.foldl (fun sequence operation => operation.apply sequence) sequence

variable {sequence : Sequence}

@[simp] theorem run_nil : run [] sequence = sequence := rfl

@[simp] theorem run_cons (operation : Operation) (operations : List Operation) :
    run (operation :: operations) sequence = run operations (operation.apply sequence) := rfl

theorem run_append (earlier later : List Operation) :
    run (earlier ++ later) sequence = run later (run earlier sequence) :=
  List.foldl_append

/-! ## What one operation does -/

theorem advance_of_idle (idle : sequence.phase = .idle) : sequence.advance = sequence := by
  unfold advance
  rw [idle]

theorem output_of_idle (idle : sequence.phase = .idle) : sequence.output = .off := by
  unfold output
  rw [idle]

theorem advance_of_busy (busy : sequence.phase ≠ .idle) :
    sequence.advance = { sequence with
      elapsed := sequence.elapsed + 1
      remaining := sequence.remaining - 1
      phase := if sequence.remaining - 1 = 0 then .idle else sequence.phase } := by
  unfold advance
  cases phase : sequence.phase with
  | idle => exact (busy phase).elim
  | loading | shooting => rfl

/-- A busy shooter does not listen to what would start a sequence. -/
theorem apply_start_of_busy (busy : sequence.phase ≠ .idle) (operation : Operation)
    (starting : (operation.start? sequence.settings).isSome = true) :
    operation.apply sequence = sequence := by
  cases phase : sequence.phase with
  | idle => exact (busy phase).elim
  | loading | shooting =>
      cases operation with
      | load | intake | shoot =>
          simp only [Operation.apply, load, intake, shoot, phase]
      | stop | process | reset _ => cases starting

theorem load_of_idle (idle : sequence.phase = .idle) : sequence.load = { sequence with
    phase := .loading, remaining := sequence.settings.intakeTicks, elapsed := 0 } := by
  unfold load
  rw [idle]

theorem shoot_of_idle (idle : sequence.phase = .idle) : sequence.shoot = { sequence with
    phase := .shooting, remaining := sequence.settings.shootTicks,
    warmupTicks := sequence.settings.warmupTicks, elapsed := 0 } := by
  unfold shoot
  rw [idle]

/-! ## What every shooter keeps -/

/-- The counters fit the phase: no ticks are left exactly if the shooter is idle, and the ticks
spent and left are no more than the longest budget. -/
structure IsTimed (sequence : Sequence) : Prop where
  idle_iff : sequence.remaining = 0 ↔ sequence.phase = .idle
  bounded : sequence.elapsed + sequence.remaining ≤ longestBudget

theorem isTimed_new (settings : Settings) : (new settings).IsTimed where
  idle_iff := iff_of_true rfl rfl
  bounded := Nat.zero_le _

namespace IsTimed

variable (timed : sequence.IsTimed)
include timed

theorem remaining_pos (busy : sequence.phase ≠ .idle) : 0 < sequence.remaining :=
  Nat.pos_of_ne_zero fun done => busy (timed.idle_iff.mp done)

/-- An idle shooter is started with a full budget, or stays idle. -/
theorem apply_of_idle (idle : sequence.phase = .idle) (operation : Operation) :
    (∃ phase budget, operation.start? sequence.settings = some (phase, budget) ∧
      phase ≠ .idle ∧ 1 ≤ budget ∧ budget ≤ longestBudget ∧
      (operation.apply sequence).phase = phase ∧ (operation.apply sequence).remaining = budget ∧
      (operation.apply sequence).elapsed = 0) ∨
    ((operation.apply sequence).phase = .idle ∧ (operation.apply sequence).remaining = 0 ∧
      (operation.apply sequence).elapsed ≤ sequence.elapsed) := by
  have loading := load_of_idle idle
  have shooting := shoot_of_idle idle
  cases operation with
  | load | intake =>
      refine .inl ⟨_, _, rfl, by decide, Settings.one_le_ticksFor _ _,
        Settings.ticksFor_le_longestBudget _ _, ?_⟩
      simp only [Operation.apply, intake, loading, Settings.intakeTicks, and_self]
  | shoot =>
      refine .inl ⟨_, _, rfl, by decide, Settings.one_le_ticksFor _ _,
        Settings.ticksFor_le_longestBudget _ _, ?_⟩
      simp only [Operation.apply, shooting, Settings.shootTicks, and_self]
  | stop => exact .inr ⟨rfl, rfl, Nat.le_refl _⟩
  | reset _ => exact .inr ⟨rfl, rfl, Nat.zero_le _⟩
  | process =>
      have still : Operation.process.apply sequence = sequence := advance_of_idle idle
      rw [still]
      exact .inr ⟨idle, timed.idle_iff.mpr idle, Nat.le_refl _⟩

/-- A busy shooter is left alone, turns idle, or counts a tick. -/
theorem apply_of_busy (busy : sequence.phase ≠ .idle) (operation : Operation) :
    operation.apply sequence = sequence ∨
    ((operation.apply sequence).phase = .idle ∧ (operation.apply sequence).remaining = 0 ∧
      (operation.apply sequence).elapsed ≤ sequence.elapsed + sequence.remaining) ∨
    (operation = .process ∧ 1 < sequence.remaining ∧ operation.apply sequence = { sequence with
        elapsed := sequence.elapsed + 1, remaining := sequence.remaining - 1 }) := by
  cases operation with
  | load | intake | shoot => exact .inl (apply_start_of_busy busy _ rfl)
  | stop => exact .inr (.inl ⟨rfl, rfl, Nat.le_add_right _ _⟩)
  | reset _ => exact .inr (.inl ⟨rfl, rfl, Nat.zero_le _⟩)
  | process =>
      have left := timed.remaining_pos busy
      have ticked : Operation.process.apply sequence = _ := advance_of_busy busy
      by_cases last : sequence.remaining - 1 = 0
      · refine .inr (.inl ?_)
        simp only [ticked, last, ↓reduceIte, true_and]
        omega
      · refine .inr (.inr ⟨rfl, by omega, ?_⟩)
        simp only [ticked, last, ↓reduceIte]

theorem apply (operation : Operation) : (operation.apply sequence).IsTimed := by
  have bounded := timed.bounded
  by_cases idle : sequence.phase = .idle
  · obtain ⟨phase, budget, _, busy, least, most, phaseIs, remainingIs, elapsedIs⟩ |
      ⟨phaseIs, remainingIs, elapsedIs⟩ := timed.apply_of_idle idle operation
    · have some_left : budget ≠ 0 := by omega
      refine ⟨?_, ?_⟩
      · simp only [phaseIs, remainingIs, some_left, busy]
      · omega
    · exact ⟨iff_of_true remainingIs phaseIs, by omega⟩
  · obtain same | ⟨phaseIs, remainingIs, elapsedIs⟩ | ⟨_, left, ticked⟩ :=
      timed.apply_of_busy idle operation
    · rw [same]
      exact timed
    · exact ⟨iff_of_true remainingIs phaseIs, by omega⟩
    · rw [ticked]
      refine ⟨iff_of_false ?_ idle, ?_⟩ <;> dsimp only <;> omega

theorem run (operations : List Operation) : (run operations sequence).IsTimed := by
  induction operations generalizing sequence with
  | nil => exact timed
  | cons operation rest ih => exact ih (timed.apply operation)

/-- Any number of ticks: the shooter goes on until its budget is spent, and is idle from then
on. -/
theorem advance_iterate (count : Nat) : advance^[count] sequence = { sequence with
    phase := if count < sequence.remaining then sequence.phase else .idle
    remaining := sequence.remaining - count
    elapsed := sequence.elapsed + min count sequence.remaining } := by
  induction count with
  | zero =>
      have phaseIs : (if 0 < sequence.remaining then sequence.phase else .idle) =
          sequence.phase := by
        by_cases idle : sequence.phase = .idle
        · rw [idle, ite_self]
        · rw [if_pos (timed.remaining_pos idle)]
      simp only [Function.iterate_zero, id_eq, phaseIs, Nat.sub_zero, Nat.zero_min, Nat.add_zero]
  | succ count ih =>
      rw [Function.iterate_succ_apply']
      by_cases busy : count < sequence.remaining
      · have still : (advance^[count] sequence).phase ≠ .idle := by
          rw [ih]
          intro idle
          simp only [busy, ↓reduceIte] at idle
          have spent := timed.idle_iff.mpr idle
          omega
        have last : sequence.remaining - (count + 1) = 0 ↔ ¬ count + 1 < sequence.remaining := by
          omega
        have spent : min (count + 1) sequence.remaining = min count sequence.remaining + 1 := by
          omega
        rw [advance_of_busy still, ih]
        simp only [busy, ↓reduceIte, Nat.sub_sub, last, ite_not, spent, Nat.add_assoc]
      · have beyond : ¬ count + 1 < sequence.remaining := by omega
        have spent : min (count + 1) sequence.remaining = min count sequence.remaining := by omega
        have left : sequence.remaining - (count + 1) = sequence.remaining - count := by omega
        rw [ih, if_neg busy, if_neg beyond, spent, left]
        exact advance_of_idle rfl

theorem advance_iterate_of_unspent {count : Nat} (unspent : count < sequence.remaining) :
    advance^[count] sequence = { sequence with
      remaining := sequence.remaining - count
      elapsed := sequence.elapsed + count } := by
  rw [timed.advance_iterate, if_pos unspent, Nat.min_eq_left (Nat.le_of_lt unspent)]

theorem phase_advance_iterate (count : Nat) :
    (advance^[count] sequence).phase = .idle ↔ sequence.remaining ≤ count := by
  by_cases unspent : count < sequence.remaining
  · have busy : sequence.phase ≠ .idle := fun idle => by
      have none_left := timed.idle_iff.mpr idle
      omega
    rw [timed.advance_iterate_of_unspent unspent]
    exact iff_of_false busy (Nat.not_le.mpr unspent)
  · rw [timed.advance_iterate, if_neg unspent]
    exact iff_of_true rfl (Nat.not_lt.mp unspent)

/-- Until the budget is spent, only ticks and interruptions count. -/
theorem run_uninterrupted {operations : List Operation}
    (calm : ∀ operation ∈ operations, operation.isInterruption = false)
    (unspent : operations.countP Operation.isTick < sequence.remaining) :
    Sequence.run operations sequence =
      advance^[operations.countP Operation.isTick] sequence := by
  induction operations generalizing sequence with
  | nil => rfl
  | cons operation rest ih =>
      have calmRest := fun later member => calm later (List.mem_cons_of_mem operation member)
      have busy : sequence.phase ≠ .idle := fun idle => by
        have spent := timed.idle_iff.mpr idle
        omega
      rw [List.countP_cons] at unspent ⊢
      by_cases ticking : operation = .process
      · subst ticking
        have left : (Operation.process.apply sequence).remaining = sequence.remaining - 1 :=
          congrArg remaining (advance_of_busy busy)
        simp only [Operation.isTick, ↓reduceIte] at unspent ⊢
        have unspentRest : rest.countP Operation.isTick <
            (Operation.process.apply sequence).remaining := by
          omega
        rw [Function.iterate_succ_apply]
        exact ih (timed.apply .process) calmRest unspentRest
      · have quiet : operation.isTick = false := by
          cases operation with
          | process => exact (ticking rfl).elim
          | load | intake | shoot | stop | reset _ => rfl
        have ignored : operation.apply sequence = sequence := by
          have uninterrupted := calm operation List.mem_cons_self
          cases operation with
          | load | intake | shoot => exact apply_start_of_busy busy _ rfl
          | process => exact (ticking rfl).elim
          | stop | reset _ => cases uninterrupted
        simp only [quiet, Bool.false_eq_true, ↓reduceIte, Nat.add_zero, run_cons, ignored]
          at unspent ⊢
        exact ih timed calmRest unspent

end IsTimed

/-! ## Where a busy shooter comes from -/

/-- Among the operations of a shooter there is one that started a sequence, and since then the
shooter has been in the phase of that sequence. -/
def IsUnderway (settings : Settings) (operations : List Operation) (phase : Phase)
    (budget : Nat) : Prop :=
  ∃ earlier start later, operations = earlier ++ start :: later ∧
    (run earlier (new settings)).phase = .idle ∧
    start.start? (run earlier (new settings)).settings = some (phase, budget) ∧
    ∀ done, done <+: later → (run (earlier ++ start :: done) (new settings)).phase = phase

/-- A sequence that goes on after one more operation is still the same. -/
theorem IsUnderway.snoc {settings : Settings} {operations : List Operation} {phase : Phase}
    {budget : Nat} (underway : IsUnderway settings operations phase budget)
    {operation : Operation}
    (goesOn : (run (operations ++ [operation]) (new settings)).phase = phase) :
    IsUnderway settings (operations ++ [operation]) phase budget := by
  obtain ⟨earlier, start, later, rfl, idle, started, throughout⟩ := underway
  refine ⟨earlier, start, later ++ [operation], by simp, idle, started, fun done reached => ?_⟩
  rcases List.prefix_concat_iff.mp reached with rfl | before
  · simpa using goesOn
  · exact throughout done before

/-- Every busy shooter was started, and the ticks spent and left are its budget. -/
theorem isUnderway_of_busy (settings : Settings) (operations : List Operation)
    (busy : (run operations (new settings)).phase ≠ .idle) :
    ∃ budget, IsUnderway settings operations (run operations (new settings)).phase budget ∧
      1 ≤ budget ∧ budget ≤ longestBudget ∧
      (run operations (new settings)).elapsed + (run operations (new settings)).remaining =
        budget := by
  induction operations using List.reverseRecOn with
  | nil => exact (busy rfl).elim
  | append_singleton operations operation ih =>
      have timed : (run operations (new settings)).IsTimed := (isTimed_new settings).run operations
      have last : run (operations ++ [operation]) (new settings) =
          operation.apply (run operations (new settings)) := by
        rw [run_append, run_cons, run_nil]
      by_cases idle : (run operations (new settings)).phase = .idle
      · obtain ⟨phase, budget, started, _, least, most, phaseIs, remainingIs, elapsedIs⟩ |
          ⟨phaseIs, _⟩ := timed.apply_of_idle idle operation
        · rw [last, phaseIs, remainingIs, elapsedIs]
          refine ⟨budget, ⟨operations, operation, [], rfl, idle, started, ?_⟩, least, most,
            Nat.zero_add _⟩
          intro done reached
          rw [List.prefix_nil.mp reached, last, phaseIs]
        · exact (busy (last ▸ phaseIs)).elim
      · obtain ⟨budget, underway, least, most, total⟩ := ih idle
        obtain same | ⟨phaseIs, _⟩ | ⟨_, left, ticked⟩ := timed.apply_of_busy idle operation
        · rw [last, same]
          exact ⟨budget, underway.snoc (by rw [last, same]), least, most, total⟩
        · exact (busy (last ▸ phaseIs)).elim
        · rw [last, ticked]
          refine ⟨budget, underway.snoc (by rw [last, ticked]), least, most, ?_⟩
          dsimp only
          omega

/-- Whatever is done to a shooter: it is idle exactly when no ticks are left; while it is busy, the
ticks spent and left are the budget that its sequence was started with; loading and shooting never
follow each other directly; a busy shooter cannot be started again; and it is idle after exactly
the ticks that are left, unless it is interrupted before. -/
theorem countdown_of_run (settings : Settings) (operations : List Operation) :
    let reached := run operations (new settings)
    (reached.remaining = 0 ↔ reached.phase = .idle) ∧
    reached.elapsed ≤ longestBudget ∧
    (reached.phase ≠ .idle → ∃ budget, IsUnderway settings operations reached.phase budget ∧
      1 ≤ budget ∧ budget ≤ longestBudget ∧ reached.elapsed + reached.remaining = budget) ∧
    (∀ operation : Operation,
      (reached.phase = .loading → (operation.apply reached).phase ≠ .shooting) ∧
      (reached.phase = .shooting → (operation.apply reached).phase ≠ .loading)) ∧
    (reached.phase ≠ .idle →
      reached.load = reached ∧ reached.intake = reached ∧ reached.shoot = reached) ∧
    (reached.phase ≠ .idle → ∀ later : List Operation,
      (∀ operation ∈ later, operation.isInterruption = false) →
      (later.countP Operation.isTick < reached.remaining →
        (run later reached).phase = reached.phase) ∧
      (later.countP Operation.isTick + 1 = reached.remaining →
        (run (later ++ [.process]) reached).phase = .idle)) := by
  intro reached
  have timed : reached.IsTimed := (isTimed_new settings).run operations
  refine ⟨timed.idle_iff, Nat.le_trans (Nat.le_add_right _ _) timed.bounded,
    isUnderway_of_busy settings operations, fun operation => ?_, fun busy => ?_,
    fun busy later calm => ⟨fun unspent => ?_, fun last => ?_⟩⟩
  · have kept : reached.phase ≠ .idle → (operation.apply reached).phase = reached.phase ∨
        (operation.apply reached).phase = .idle := by
      intro busy
      obtain same | ⟨phaseIs, _⟩ | ⟨_, _, ticked⟩ := timed.apply_of_busy busy operation
      · exact .inl (congrArg phase same)
      · exact .inr phaseIs
      · exact .inl (by rw [ticked])
    constructor
    · intro loading shooting
      simp [loading, shooting] at kept
    · intro shooting loading
      simp [loading, shooting] at kept
  · exact ⟨apply_start_of_busy busy .load rfl, apply_start_of_busy busy .intake rfl,
      apply_start_of_busy busy .shoot rfl⟩
  · rw [timed.run_uninterrupted calm unspent, timed.advance_iterate_of_unspent unspent]
  · have ticks : advance (run later reached) = advance^[reached.remaining] reached := by
      rw [timed.run_uninterrupted calm (by omega), ← Function.iterate_succ_apply' advance]
      rw [Nat.succ_eq_add_one, last]
    rw [run_append, run_cons, run_nil]
    change (advance (run later reached)).phase = .idle
    rw [ticks]
    exact (timed.phase_advance_iterate reached.remaining).mpr (Nat.le_refl _)

end Sequence

end ScriptedRobot.Shooter
