import ScriptedRobot.Proofs.Script.Tracking

/-! # Where failures come from

A failure of the host that a script holds, or that it raises, was raised by a function of the host
before. If these functions fail in allowed ways only, and wrapping a failure once more is allowed
too, then all failures that a script ever deals with are allowed (`tracking_vets`). -/

namespace ScriptedRobot.Script

open Vettable (IsVetted)

variable {σ α β : Type}

/-- On a vetted machine the step comes to a vetted outcome, and it leaves the machine vetted. -/
def Run.Vets [Vettable α] (allowed : Failure → Prop) (step : Run σ α) : Prop :=
  ∀ machine, IsVetted allowed machine →
    IsVetted allowed (step.start machine).1 ∧ IsVetted allowed (step.start machine).2

section Vets

open Run (Vets)

variable {allowed : Failure → Prop}

theorem vets_bind [Vettable α] [Vettable β] {step : Run σ α} {next : α → Run σ β}
    (first : Vets allowed step)
    (second : ∀ value, IsVetted allowed value → Vets allowed (next value)) :
    Vets allowed (step >>= next) := by
  intro machine vetted
  have between := first machine vetted
  rw [Run.start_bind]
  generalize step.start machine = ended at between ⊢
  rcases ended with ⟨raised | value, middle⟩
  · exact between
  · exact second value between.1 middle between.2

theorem vets_tryCatch [Vettable α] {step : Run σ α} {handler : Value → Run σ α}
    (first : Vets allowed step)
    (second : ∀ raised, IsVetted allowed raised → Vets allowed (handler raised)) :
    Vets allowed (tryCatch step handler) := by
  intro machine vetted
  have between := first machine vetted
  rw [Run.start_tryCatch]
  generalize step.start machine = ended at between ⊢
  rcases ended with ⟨raised | value, middle⟩
  · exact second raised between.1 middle between.2
  · exact between

variable (wraps : ∀ raised : Value, IsVetted allowed raised → allowed (.wrap raised))
include wraps

theorem vets_answer {call : Call σ}
    (calls : ∀ callable {arguments}, IsVetted allowed arguments →
      Vets allowed (call callable arguments))
    {capability : Capability σ} (faithful : capability.IsFaithful allowed)
    {arguments : List Value} (vetted : IsVetted allowed arguments) :
    Vets allowed (capability.answer call arguments) := by
  intro machine machineVetted
  have replied := faithful arguments machine.native vetted
  have after : IsVetted allowed
      ((Run.perform capability.perform arguments).start machine).2 := machineVetted
  unfold Capability.answer
  rw [Run.start_bind]
  rw [Run.start_perform] at after ⊢
  dsimp only
  generalize (capability.perform arguments machine.native).1 = reply at replied ⊢
  cases reply with
  | returns values => exact ⟨replied, after⟩
  | fails message => exact ⟨replied, after⟩
  | delegates callee =>
      have raisesAgain : ∀ raised, IsVetted allowed raised →
          Vets allowed (throw (.failure (.wrap raised)) : Run σ (List Value)) :=
        fun raised raisedVetted machine machineVetted => ⟨wraps raised raisedVetted, machineVetted⟩
      exact vets_tryCatch (calls callee isVetted_nil) raisesAgain _ after

theorem vets_callGrant {call : Call σ}
    (calls : ∀ callable {arguments}, IsVetted allowed arguments →
      Vets allowed (call callable arguments))
    (id : Nat) {arguments : List Value} (vetted : IsVetted allowed arguments) :
    Vets allowed (callGrant call id arguments) := by
  intro machine machineVetted
  rw [start_callGrant]
  cases found : machine.registry.grants[id]? with
  | none => exact ⟨isVetted_nil, machineVetted⟩
  | some entry =>
      by_cases live : entry.live = true
      · simp only [live, ↓reduceIte]
        exact vets_answer wraps calls (machineVetted.2 id entry found) vetted machine machineVetted
      · simp only [live, Bool.false_eq_true, ↓reduceIte]
        exact ⟨isVetted_neutral _, machineVetted⟩

/-- Vetting passes from the steps of scripts to scripts. -/
theorem tracking_vets : Tracking allowed fun step : Run σ _ => Vets allowed step where
  pure vetted _ machineVetted := ⟨vetted, machineVetted⟩
  throw vetted _ machineVetted := ⟨vetted, machineVetted⟩
  bind := vets_bind
  tryCatch := vets_tryCatch
  useStore change kept machine machineVetted := by
    obtain ⟨yielded, storeVetted⟩ := kept machine.store machineVetted.1
    exact ⟨yielded, storeVetted, machineVetted.2⟩
  report _ _ machineVetted := ⟨trivial, machineVetted⟩
  callGrant := vets_callGrant wraps

end Vets

end ScriptedRobot.Script
