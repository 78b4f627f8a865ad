import ScriptedRobot.Proofs.Script.Composition

/-! # Machines that scripts cannot tell apart

Two machines with the same objects and the same functions of the host may differ in the subsystems
behind these functions. As long as every live function replies alike on both sides, a script comes
to the same outcome on both, and the machines stay alike (`AnswersAlike.compositional`). -/

namespace ScriptedRobot.Script

open Capability (Registry)

variable {σ α : Type}

/-- Two machines that agree in everything scripts can look at, with related subsystems. -/
structure Alike (registry : Registry σ) (related : σ → σ → Prop) (left right : Machine σ) :
    Prop where
  registry_left : left.registry = registry
  registry_right : right.registry = registry
  store : left.store = right.store
  shown : left.shown = right.shown
  native : related left.native right.native

/-- A step has the same outcome on machines that are alike, and leaves them alike. -/
def Run.Agrees (registry : Registry σ) (related : σ → σ → Prop) (step : Run σ α) : Prop :=
  ∀ left right, Alike registry related left right →
    (step.start left).1 = (step.start right).1 ∧
      Alike registry related (step.start left).2 (step.start right).2

/-- Every live function replies alike on related subsystems, and leaves them related. -/
def AnswersAlike (registry : Registry σ) (related : σ → σ → Prop) : Prop :=
  ∀ (grant : Nat) (entry : Capability.Grant σ), registry.grants[grant]? = some entry →
    entry.live = true → ∀ arguments left right, related left right →
      (entry.capability.perform arguments left).1 = (entry.capability.perform arguments right).1 ∧
        related (entry.capability.perform arguments left).2.1
          (entry.capability.perform arguments right).2.1

section Agrees

open Run (Agrees)

variable {registry : Registry σ} {related : σ → σ → Prop} {left right : Machine σ}

theorem agrees_useStore (change : Store → α × Store) :
    Agrees registry related (Run.useStore change : Run σ α) := by
  intro left right alike
  unfold Run.useStore
  simp only [Run.start_modifyGet, alike.store, true_and]
  exact { alike with store := rfl }

theorem agrees_report (values : List Value) :
    Agrees registry related (Run.report values : Run σ Unit) := by
  intro left right alike
  refine ⟨rfl, { alike with shown := ?_ }⟩
  exact congrArg (fun shown => shown.push values) alike.shown

theorem agrees_bind {β : Type} {step : Run σ α} {next : α → Run σ β}
    (first : Agrees registry related step) (second : ∀ value, Agrees registry related (next value)) :
    Agrees registry related (step >>= next) := by
  intro left right alike
  obtain ⟨same, still⟩ := first left right alike
  rw [Run.start_bind, Run.start_bind]
  generalize step.start left = endedLeft at same still ⊢
  generalize step.start right = endedRight at same still ⊢
  obtain ⟨outcome, left⟩ := endedLeft
  obtain ⟨_, right⟩ := endedRight
  subst same
  cases outcome with
  | error raised => exact ⟨rfl, still⟩
  | ok value => exact second value left right still

theorem agrees_tryCatch {step : Run σ α} {handler : Value → Run σ α}
    (first : Agrees registry related step)
    (second : ∀ raised, Agrees registry related (handler raised)) :
    Agrees registry related (tryCatch step handler) := by
  intro left right alike
  obtain ⟨same, still⟩ := first left right alike
  rw [Run.start_tryCatch, Run.start_tryCatch]
  generalize step.start left = endedLeft at same still ⊢
  generalize step.start right = endedRight at same still ⊢
  obtain ⟨outcome, left⟩ := endedLeft
  obtain ⟨_, right⟩ := endedRight
  subst same
  cases outcome with
  | error raised => exact second raised left right still
  | ok value => exact ⟨rfl, still⟩

theorem agrees_callGrant (answers : AnswersAlike registry related) {call : Call σ}
    (calls : ∀ callable arguments, Agrees registry related (call callable arguments)) (id : Nat)
    (arguments : List Value) : Agrees registry related (callGrant call id arguments) := by
  intro left right alike
  rw [start_callGrant, start_callGrant, alike.registry_left, alike.registry_right]
  cases found : registry.grants[id]? with
  | none => exact ⟨rfl, alike⟩
  | some entry =>
      by_cases live : entry.live = true
      · obtain ⟨reply, kept⟩ := answers id entry found live arguments _ _ alike.native
        have still : Alike registry related
            ((Run.perform entry.capability.perform arguments).start left).2
            ((Run.perform entry.capability.perform arguments).start right).2 :=
          { alike with native := kept }
        simp only [live, ↓reduceIte]
        unfold Capability.answer
        rw [Run.start_bind, Run.start_bind]
        rw [Run.start_perform, Run.start_perform] at still ⊢
        dsimp only
        rw [← reply]
        cases (entry.capability.perform arguments left.native).1 with
        | returns values => exact ⟨rfl, still⟩
        | fails message => exact ⟨rfl, still⟩
        | delegates callee =>
            refine agrees_tryCatch (calls callee []) (fun raised => ?_) _ _ still
            exact fun left right alike => ⟨rfl, alike⟩
      · simp only [live, Bool.false_eq_true, ↓reduceIte, true_and]
        exact alike

/-- What scripts are made of cannot tell such machines apart. -/
theorem AnswersAlike.compositional (answers : AnswersAlike registry related) :
    Compositional (Agrees registry related) where
  pure _ _ _ alike := ⟨rfl, alike⟩
  throw _ _ _ alike := ⟨rfl, alike⟩
  bind := agrees_bind
  tryCatch := agrees_tryCatch
  useStore := agrees_useStore
  report := agrees_report
  callGrant := agrees_callGrant answers

end Agrees

end ScriptedRobot.Script
