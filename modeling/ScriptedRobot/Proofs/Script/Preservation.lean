import ScriptedRobot.Proofs.Script.Composition

/-! # What scripts cannot help keeping

A script changes objects, shows values, and calls the functions of the host that are live. Every
relation between machines that allows these three and can be chained therefore holds between the
machines before and after any evaluation, whether it ends well or raises
(`ScriptClosed.keeps_chunk`, `ScriptClosed.keeps_call`). -/

namespace ScriptedRobot.Script

variable {σ α β : Type}

/-- A step relates the machine before it to the one after it, whatever the outcome. -/
def Run.Keeps (relation : Machine σ → Machine σ → Prop) (step : Run σ α) : Prop :=
  ∀ machine, relation machine (step.start machine).2

theorem Run.Keeps.of_start {relation : Machine σ → Machine σ → Prop} {step : Run σ α}
    (kept : step.Keeps relation) {machine after : Machine σ} {outcome : Except Value α}
    (ended : step.start machine = (outcome, after)) : relation machine after := by
  have held := kept machine
  rwa [ended] at held

theorem Run.Keeps.map {relation : Machine σ → Machine σ → Prop} {step : Run σ α}
    (kept : step.Keeps relation) (change : α → β) : Run.Keeps relation (change <$> step) := by
  intro machine
  rw [Run.start_map]
  exact kept machine

/-- A relation between machines that each elementary effect of a script stays within. -/
structure ScriptClosed (relation : Machine σ → Machine σ → Prop) : Prop where
  refl : ∀ machine, relation machine machine
  trans : ∀ {first second third}, relation first second → relation second third →
    relation first third
  objects : ∀ machine store, relation machine { machine with store }
  shown : ∀ machine shown, relation machine { machine with shown }
  perform : ∀ machine (grant : Nat) (entry : Capability.Grant σ) arguments,
    machine.registry.grants[grant]? = some entry → entry.live = true →
    relation machine ((Run.perform entry.capability.perform arguments).start machine).2

namespace ScriptClosed

open Run (Keeps)

variable {relation : Machine σ → Machine σ → Prop} (closed : ScriptClosed relation)
include closed

theorem keeps_pure (value : α) : Keeps relation (pure value : Run σ α) :=
  fun machine => closed.refl machine

theorem keeps_throw (raised : Value) : Keeps relation (throw raised : Run σ α) :=
  fun machine => closed.refl machine

theorem keeps_bind {step : Run σ α} {next : α → Run σ β} (first : Keeps relation step)
    (second : ∀ value, Keeps relation (next value)) : Keeps relation (step >>= next) := by
  intro machine
  have before := first machine
  rw [Run.start_bind]
  generalize step.start machine = ended at before ⊢
  rcases ended with ⟨raised | value, middle⟩
  · exact before
  · exact closed.trans before (second value middle)

theorem keeps_tryCatch {step : Run σ α} {handler : Value → Run σ α} (first : Keeps relation step)
    (second : ∀ raised, Keeps relation (handler raised)) :
    Keeps relation (tryCatch step handler) := by
  intro machine
  have before := first machine
  rw [Run.start_tryCatch]
  generalize step.start machine = ended at before ⊢
  rcases ended with ⟨raised | value, middle⟩
  · exact closed.trans before (second raised middle)
  · exact before

/-- A grant that is live passes on to its function, and one that is not answers at once. -/
theorem keeps_callGrant {call : Call σ}
    (calls : ∀ callable arguments, Keeps relation (call callable arguments)) (id : Nat)
    (arguments : List Value) : Keeps relation (callGrant call id arguments) := by
  intro machine
  rw [start_callGrant]
  cases found : machine.registry.grants[id]? with
  | none => exact closed.refl machine
  | some entry =>
      by_cases live : entry.live = true
      · have performed := closed.perform machine id entry arguments found live
        simp only [live, ↓reduceIte]
        unfold Capability.answer
        rw [Run.start_bind, Run.start_perform]
        rw [Run.start_perform] at performed
        refine closed.trans performed ?_
        cases (entry.capability.perform arguments machine.native).1 with
        | returns values => exact closed.refl _
        | fails message => exact closed.refl _
        | delegates callee =>
            exact closed.keeps_tryCatch (calls _ _) (fun _ => closed.keeps_throw _) _
      · simp only [live, Bool.false_eq_true, ↓reduceIte]
        exact closed.refl machine

theorem compositional : Compositional (Keeps relation) where
  pure := closed.keeps_pure
  throw := closed.keeps_throw
  bind := closed.keeps_bind
  tryCatch := closed.keeps_tryCatch
  useStore change machine := closed.objects machine (change machine.store).2
  report values machine := closed.shown machine (machine.shown.push values)
  callGrant := closed.keeps_callGrant

theorem keeps_changeStore (change : Store → Store) :
    Keeps relation (Run.changeStore change : Run σ Unit) :=
  closed.compositional.holds_changeStore change

theorem keeps_newTable (table : Table) : Keeps relation (Run.newTable table : Run σ Value) :=
  closed.compositional.holds_newTable table

theorem keeps_call (callable : Callable) (arguments : List Value) :
    Keeps relation (Run.call callable arguments : Run σ (List Value)) :=
  closed.compositional.holds_call callable arguments

theorem keeps_setIndex (table key value : Value) :
    Keeps relation (Run.setIndex table key value : Run σ Unit) :=
  closed.compositional.holds_setIndex table key value

theorem keeps_chunk (chunk : Chunk) (arguments : List Value) :
    Keeps relation (Run.chunk chunk arguments : Run σ (List Value)) :=
  closed.compositional.holds_chunk chunk arguments

end ScriptClosed

end ScriptedRobot.Script
