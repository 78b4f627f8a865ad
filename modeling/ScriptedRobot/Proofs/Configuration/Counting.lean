import ScriptedRobot.Proofs.Configuration.Lookups

/-! # Counting of ports

The number of ports is computed by the configuration, or it is that of the entries that list them.
As with a single port, scripts may run on the way, and what they raise counts for nothing. -/

namespace ScriptedRobot.Configuration.Global

open Script (Key Run)

variable {σ : Type} {machine after : Script.Machine σ}

/-- What the ports are counted by. -/
inductive Tally where
  | computed (found : Option Script.Value)
  | listed (entries : List (Key × Script.Value))

/-- A computed number of ports: a number that is not negative. -/
def countOf : Script.Value → Int32
  | .integer whole => max 0 (Number.narrowToInt32 (Number.ofInt64 whole) 0)
  | .number fraction => max 0 (Number.narrowToInt32 fraction 0)
  | _ => 0

/-- The number of ports by what they are counted by. -/
def Tally.count : Tally → Int32
  | .computed found => found.elim 0 countOf
  | .listed entries => Int32.ofNat entries.length

/-- What the configuration has to count the ports by. -/
inductive Counts (machine : Script.Machine σ) : Tally → Script.Machine σ → Prop where
  | computed {callable : Script.Callable} {outcome : Except Script.Value (List Script.Value)}
      {middle after : Script.Machine σ}
      (isFunction : (function "num_ports").start machine = (.ok (some callable), middle))
      (called : (Run.call callable []).start middle = (outcome, after)) :
      Counts machine (.computed (outcome.toOption.map Script.Value.first)) after
  | listed {id : Nat} {middle after : Script.Machine σ}
      (noFunction : (function "num_ports").start machine = (.ok none, middle))
      (isTable : (category "ports").start middle = (.ok (some (.table id)), after)) :
      Counts machine (.listed (after.store.table id).entries) after
  | unlisted {middle after : Script.Machine σ}
      (noFunction : (function "num_ports").start machine = (.ok none, middle))
      (noTable : (category "ports").start middle = (.ok none, after)) :
      Counts machine (.listed []) after

theorem exists_counts (machine : Script.Machine σ) : ∃ tally after, Counts machine tally after := by
  obtain ⟨callable, middle, isFunction⟩ := yields_function "num_ports" machine
  cases callable with
  | some callable => exact ⟨_, _, .computed isFunction rfl⟩
  | none =>
      obtain ⟨found, after, looked⟩ := yields_category "ports" middle
      obtain rfl | ⟨id, rfl⟩ := eq_table_of_category looked
      · exact ⟨_, after, .unlisted isFunction looked⟩
      · exact ⟨_, after, .listed isFunction looked⟩

/-- Counting yields what the ports are counted by, and never raises. -/
theorem Counts.start_portCount {tally : Tally} (counts : Counts machine tally after) :
    portCount.start machine = (.ok tally.count, after) := by
  unfold portCount
  rw [Run.start_bind]
  cases counts with
  | @computed callable outcome middle _ isFunction called =>
      rw [isFunction]
      dsimp only
      rw [Run.start_bind, start_attempt, Run.start_map, called]
      obtain raised | values := outcome
      · rfl
      · simp only [Except.map, Except.toOption, Option.map_some]
        cases Script.Value.first values <;> rfl
  | listed noFunction isTable =>
      rw [noFunction]
      dsimp only
      rw [Run.start_bind, isTable]
      rfl
  | unlisted noFunction noTable =>
      rw [noFunction]
      dsimp only
      rw [Run.start_bind, noTable]
      rfl

end ScriptedRobot.Configuration.Global
