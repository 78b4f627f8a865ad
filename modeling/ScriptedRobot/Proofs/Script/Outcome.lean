import ScriptedRobot.Script.Evaluation

/-! # Outcomes of steps

What the elementary steps of a script and their combinations do to a machine: the outcome and the
machine afterwards. A step that raises stops whatever follows it, and keeps what it changed. -/

namespace ScriptedRobot.Script.Run

variable {σ α β : Type}

@[simp] theorem start_get (machine : Machine σ) :
    (get : Run σ (Machine σ)).start machine = (.ok machine, machine) := rfl

@[simp] theorem start_readStore (read : Store → α) (machine : Machine σ) :
    (readStore read : Run σ α).start machine = (.ok (read machine.store), machine) := rfl

@[simp] theorem start_modifyGet (change : Machine σ → α × Machine σ) (machine : Machine σ) :
    (modifyGet change : Run σ α).start machine =
      (.ok (change machine).1, (change machine).2) := rfl

@[simp] theorem start_liftExcept (outcome : Except Value α) (machine : Machine σ) :
    (liftExcept outcome : Run σ α).start machine = (outcome, machine) := by
  cases outcome <;> rfl

theorem start_bind (step : Run σ α) (next : α → Run σ β) (machine : Machine σ) :
    (step >>= next).start machine =
      match step.start machine with
      | (.ok value, after) => (next value).start after
      | (.error raised, after) => (.error raised, after) := by
  unfold start ExceptT.run StateT.run
  simp only [bind, ExceptT.bind, ExceptT.mk, StateT.bind]
  rcases step machine with ⟨_ | _, after⟩ <;> rfl

theorem start_map (change : α → β) (step : Run σ α) (machine : Machine σ) :
    (change <$> step).start machine =
      ((step.start machine).1.map change, (step.start machine).2) := by
  rw [map_eq_pure_bind, start_bind]
  rcases step.start machine with ⟨_ | _, after⟩ <;> rfl

theorem start_discard (step : Run σ α) (machine : Machine σ) :
    (discard step).start machine =
      ((step.start machine).1.map fun _ => (), (step.start machine).2) :=
  start_map (fun _ => ()) step machine

theorem start_tryCatch (step : Run σ α) (handler : Value → Run σ α) (machine : Machine σ) :
    (tryCatch step handler).start machine =
      match step.start machine with
      | (.ok value, after) => (.ok value, after)
      | (.error raised, after) => (handler raised).start after := by
  unfold start ExceptT.run StateT.run
  simp only [tryCatch, tryCatchThe, MonadExceptOf.tryCatch, ExceptT.tryCatch, ExceptT.mk, bind,
    StateT.bind]
  rcases step machine with ⟨_ | _, after⟩ <;> rfl

@[simp] theorem start_perform (native : Capability.Native σ) (arguments : List Value)
    (machine : Machine σ) :
    (perform native arguments).start machine =
      (.ok (native arguments machine.native).1,
        { machine with
          native := (native arguments machine.native).2.1
          journal := machine.journal ++ (native arguments machine.native).2.2 }) := rfl

/-- A combination that ends well consists of two steps that end well. -/
theorem start_bind_ok {step : Run σ α} {next : α → Run σ β} {machine after : Machine σ}
    {result : β} :
    (step >>= next).start machine = (.ok result, after) ↔
      ∃ value middle, step.start machine = (.ok value, middle) ∧
        (next value).start middle = (.ok result, after) := by
  rw [start_bind]
  constructor
  · intro ended
    split at ended
    case h_1 value middle first => exact ⟨value, middle, first, ended⟩
    case h_2 => cases ended
  · rintro ⟨value, middle, first, second⟩
    rw [first]
    exact second

/-- A combination raises in its first step, or in the second after the first ended well. -/
theorem start_bind_error {step : Run σ α} {next : α → Run σ β} {machine after : Machine σ}
    {raised : Value} :
    (step >>= next).start machine = (.error raised, after) ↔
      step.start machine = (.error raised, after) ∨
      ∃ value middle, step.start machine = (.ok value, middle) ∧
        (next value).start middle = (.error raised, after) := by
  rw [start_bind]
  constructor
  · intro ended
    split at ended
    case h_1 value middle first => exact .inr ⟨value, middle, first, ended⟩
    case h_2 _ _ first =>
        cases ended
        exact .inl first
  · rintro (first | ⟨value, middle, first, second⟩)
    · rw [first]
    · rw [first]
      exact second

/-! ## Steps that raise nothing -/

/-- On every machine the step yields a value. -/
def Yields (step : Run σ α) : Prop :=
  ∀ machine, ∃ value after, step.start machine = (.ok value, after)

theorem yields_pure (value : α) : Yields (pure value : Run σ α) :=
  fun machine => ⟨value, machine, rfl⟩

theorem yields_readStore (read : Store → α) : Yields (readStore read : Run σ α) :=
  fun machine => ⟨read machine.store, machine, rfl⟩

theorem Yields.bind {step : Run σ α} {next : α → Run σ β} (first : Yields step)
    (second : ∀ value, Yields (next value)) : Yields (step >>= next) := by
  intro machine
  obtain ⟨value, middle, ended⟩ := first machine
  obtain ⟨result, after, endedNext⟩ := second value middle
  exact ⟨result, after, start_bind_ok.mpr ⟨value, middle, ended, endedNext⟩⟩

theorem Yields.map {step : Run σ α} (yields : Yields step) (change : α → β) :
    Yields (change <$> step) := by
  rw [map_eq_pure_bind]
  exact yields.bind fun _ => yields_pure _

end ScriptedRobot.Script.Run

namespace ScriptedRobot

open Script (Call Value Run)

variable {σ : Type}

/-- What a call of a live function of the host does: run the function, and answer what it
replies. -/
def Capability.answer (call : Call σ) (capability : Capability σ) (arguments : List Value) :
    Run σ (List Value) := do
  match ← Run.perform capability.perform arguments with
  | .returns values => return values
  | .fails message => throw (.failure (.cause message))
  | .delegates callee =>
    tryCatch (call callee []) fun raised => throw (.failure (.wrap raised))

/-- A call of a function of the host: a live one runs, a retired one answers its neutral value. -/
theorem Script.start_callGrant (call : Call σ) (id : Nat) (arguments : List Value)
    (machine : Script.Machine σ) :
    (Script.callGrant call id arguments).start machine =
      match machine.registry.grants[id]? with
      | none => (.ok [], machine)
      | some grant =>
        if grant.live = true then (grant.capability.answer call arguments).start machine
        else (.ok grant.capability.neutral.values, machine) := by
  unfold Script.callGrant
  rw [Run.start_bind, Run.start_get]
  dsimp only
  cases machine.registry.grants[id]? with
  | none => rfl
  | some grant =>
      by_cases live : grant.live = true
      · simp only [live, ↓reduceIte]
        rfl
      · simp only [live, Bool.false_eq_true, ↓reduceIte]
        rfl

end ScriptedRobot
