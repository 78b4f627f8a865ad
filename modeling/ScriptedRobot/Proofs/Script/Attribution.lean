import ScriptedRobot.Proofs.Script.Origins
import ScriptedRobot.Proofs.Script.Tables

/-! # What bodies raise

A body that ends in an error raises the value that belongs to the origin of the error, however often
the error was caught and raised again on the way (`Ends.evaluates`). -/

namespace ScriptedRobot.Script

variable {σ : Type}
open Run

/-- What a task comes to on a machine. -/
def Task.Evaluates (depth : Nat) (machine : Machine σ) (outcome : Option Origin)
    (after : Machine σ) : Task → Prop
  | .body scope steps => (evalBlock (callAt depth) scope (Step.statements steps)).start machine =
      ((outcome.map Origin.value).elim (.ok .next) .error, after)
  | .step scope next => (evalStmt (callAt depth) scope next.statement).start machine =
      ((outcome.map Origin.value).elim (.ok .next) .error, after)
  | .call callable arguments => ∃ values, (callAt depth callable arguments).start machine =
      ((outcome.map Origin.value).elim (.ok values) .error, after) ∧
        ∀ id, callable = .closure id → values = []
  | .read limit object name => ∃ value,
      (readIndex (callAt depth) limit object (.text name)).start machine =
        ((outcome.map Origin.value).elim (.ok value) .error, after)

section Evaluation
variable {call : Call σ} {scope : Scope} {machine between after : Machine σ}

theorem start_evalCall {callee : Expr} {arguments : List Expr} {value : Value} {values : List Value}
    (first : (evalExpr call scope callee).start machine = (.ok [value], between))
    (others : (evalArguments call scope arguments).start between = (.ok values, after)) :
    (evalExpr call scope (.call callee arguments)).start machine =
      (callValue call ⟨value, callee.description scope⟩ values).start after := by
  rw [evalExpr, start_bind, one, start_map, first]
  dsimp only [Except.map]
  rw [start_bind, others]
  rfl

theorem start_evalArguments_singleton {expression : Expr} {values : List Value}
    (evaluates : (evalExpr call scope expression).start machine = (.ok values, after)) :
    (evalArguments call scope [expression]).start machine = (.ok values, after) := by
  rw [evalArguments, start_bind, evaluates]
  rfl

theorem start_evaluate (expression : Expr) :
    (evalStmt call scope (.evaluate expression)).start machine =
      (((evalExpr call scope expression).start machine).1.map fun _ => .next,
        ((evalExpr call scope expression).start machine).2) := by
  rw [evalStmt, start_bind]
  rcases (evalExpr call scope expression).start machine with ⟨_ | _, _⟩ <;> rfl

theorem start_raise {depth : Nat} {expression : Expr} {origin : Origin}
    (evaluates : (evalExpr (callAt depth) scope expression).start machine =
      (.ok [origin.value], after)) :
    (evalStmt (callAt depth) scope (.evaluate (Expr.raise expression))).start machine =
      (.error (origin.atDepth depth).value, after) := by
  rw [start_evaluate, Expr.raise, start_evalCall rfl (start_evalArguments_singleton evaluates)]
  cases depth <;> rfl

theorem evalBlock_cons {step : Step} {rest : List Step} :
    evalBlock call scope (Step.statements (step :: rest)) =
      (evalStmt call scope step.statement >>= fun flow =>
        match flow with
        | .next => evalBlock call scope (Step.statements rest)
        | .returned values => pure (.returned values)) := by
  rw [Step.statements]
  cases step <;> rfl

theorem start_evalBlock_cons {step : Step} {rest : List Step} :
    (evalBlock call scope (Step.statements (step :: rest))).start machine =
      match (evalStmt call scope step.statement).start machine with
      | (.ok .next, between) => (evalBlock call scope (Step.statements rest)).start between
      | (.ok (.returned values), between) => (.ok (.returned values), between)
      | (.error raised, between) => (.error raised, between) := by
  rw [evalBlock_cons, start_bind]
  rcases (evalStmt call scope step.statement).start machine with ⟨_ | _ | _, between⟩ <;> rfl

theorem start_repeated {count : Nat} {body : List Step} :
    (evalStmt call scope (Step.repeated (count + 1) body).statement).start machine =
      match (evalBlock call scope (Step.statements body)).start machine with
      | (.ok .next, between) =>
        (evalStmt call scope (Step.repeated count body).statement).start between
      | (.ok (.returned values), between) => (.ok (.returned values), between)
      | (.error raised, between) => (.error raised, between) := by
  rw [Step.statement, Step.statement, evalStmt, evalStmt, repeatFlow, start_bind]
  rcases (evalBlock call scope (Step.statements body)).start machine with ⟨_ | _ | _, between⟩ <;>
    rfl

theorem start_protectedRun (call : Call σ) (scope : Scope) (body : List Step) (state : Tracked σ) :
    (evalExpr call scope (Steps.protectedRun (Step.statements body))).start state.machine =
      (call (.builtin .protectedCall) [.function state.nextFunction]).start
        (state.withFunction scope body).machine := by
  have function : (evalExpr call scope (.function [] (Step.statements body))).start state.machine =
      (.ok [.function state.nextFunction], (state.withFunction scope body).machine) := by
    rw [evalExpr]
    rfl
  have builtin : (evalExpr call scope (.builtin .protectedCall)).start state.machine =
      (.ok [.function (.builtin .protectedCall)], state.machine) := by
    rw [evalExpr]
    rfl
  exact start_evalCall builtin (start_evalArguments_singleton function)

theorem start_protectedCall (depth : Nat) (callable : Callable) :
    (callAt (depth + 1) (.builtin .protectedCall) [.function callable]).start machine =
      match (callAt depth callable []).start machine with
      | (.ok values, after) => (.ok (.boolean true :: values), after)
      | (.error raised, after) => (.ok [.boolean false, raised], after) := by
  rw [callAt, callWith, callBuiltin, start_tryCatch, start_bind]
  dsimp only [callValue, Value.first, List.tail]
  rcases (callAt depth callable []).start machine with ⟨_ | _, _⟩ <;> rfl

theorem start_evalArguments_cons (expression : Expr) (rest : List Expr) {value : Value}
    {values : List Value}
    (first : (evalExpr call scope expression).start machine = (.ok [value], between))
    (others : (evalArguments call scope rest).start between = (.ok values, after)) :
    (evalArguments call scope (expression :: rest)).start machine =
      (.ok (value :: values), after) := by
  rw [evalArguments, start_bind, first]
  cases rest with
  | nil =>
      cases others
      rfl
  | cons next rest =>
      dsimp only
      rw [start_bind, others]
      rfl

theorem start_argument (argument : Argument) (state : Tracked σ) :
    (evalExpr call scope argument.expression).start state.machine =
      (.ok [state.argument argument], (state.withArgument scope argument).machine) := by
  cases argument with
  | constant _ | table | function _ =>
      rw [Argument.expression, evalExpr]
      rfl

theorem start_evalArguments (arguments : List Argument) (state : Tracked σ) :
    (evalArguments call scope (Argument.expressions arguments)).start state.machine =
      (.ok (state.arguments scope arguments).1, (state.arguments scope arguments).2.machine) := by
  induction arguments generalizing state with
  | nil => rfl
  | cons argument rest ih =>
      exact start_evalArguments_cons _ _ (start_argument argument state) (ih _)

theorem cell?_raised (state : Tracked σ) (scope : Scope) :
    (state.handling scope).cell? "raised" = some (state.nextCell + 1) := rfl

theorem cell?_success (state : Tracked σ) (scope : Scope) :
    (state.handling scope).cell? "success" = some state.nextCell := rfl

theorem cell_withOutcome (state : Tracked σ) (outcome : Option Origin) :
    (state.withOutcome outcome).machine.store.cell state.nextCell = .boolean outcome.isNone := by
  have earlier : state.machine.store.cells.size ≠
      (state.machine.store.cells.push (.boolean outcome.isNone)).size := by
    rw [Array.size_push]
    exact Nat.ne_of_lt (Nat.lt_succ_self _)
  unfold Tracked.withOutcome Tracked.nextCell Store.cell
  rw [Array.getD_eq_getD_getElem?, Array.getElem?_push, if_neg earlier, Array.getElem?_push,
    if_pos rfl]
  rfl

theorem start_declareOutcome (state : Tracked σ) (outcome : Option Origin) (rest : List Value)
    (raised : Value.first rest = (outcome.map Origin.value).getD .nil) :
    (declareAll ["success", "raised"] (.boolean outcome.isNone :: rest)).start state.machine =
      (.ok [("raised", state.nextCell + 1), ("success", state.nextCell)],
        (state.withOutcome outcome).machine) := by
  have next :
      (state.machine.store.cells.push (.boolean outcome.isNone)).size = state.nextCell + 1 :=
    Array.size_push _
  unfold Tracked.withOutcome
  rw [← raised, ← next]
  rfl

theorem start_branchOutcome (state : Tracked σ) (outcome : Option Origin) (handler : List Step) :
    (evalStmt call (state.handling scope)
        (.branch (.variable "success") [] (Step.statements handler))).start
        (state.withOutcome outcome).machine =
      outcome.elim (.ok .next, (state.withOutcome none).machine) fun origin =>
        (evalBlock call (state.handling scope) (Step.statements handler)).start
          (state.withOutcome (some origin)).machine := by
  have condition : (evalExpr call (state.handling scope) (.variable "success")).start
      (state.withOutcome outcome).machine =
        (.ok [.boolean outcome.isNone], (state.withOutcome outcome).machine) := by
    rw [evalExpr, cell?_success]
    dsimp only
    rw [start_bind, start_readStore]
    dsimp only
    rw [cell_withOutcome]
    rfl
  rw [evalStmt, start_bind, one, start_map, condition]
  cases outcome with
  | none => rfl
  | some origin => rfl

theorem start_protect (outcome : Option Origin) (rest : List Value) {body handler : List Step}
    {state : Tracked σ}
    (ran : (evalExpr call scope (Steps.protectedRun (Step.statements body))).start machine =
      (.ok (.boolean outcome.isNone :: rest), state.machine))
    (raised : Value.first rest = (outcome.map Origin.value).getD .nil) :
    (evalStmt call scope (Step.protect body handler).statement).start machine =
      outcome.elim (.ok .next, (state.withOutcome none).machine) fun origin =>
        (evalBlock call (state.handling scope) (Step.statements handler)).start
          (state.withOutcome (some origin)).machine := by
  rw [← start_branchOutcome state outcome handler]
  have block : evalStmt call scope (Step.protect body handler).statement = evalBlock call scope [
      .declare ["success", "raised"] [Steps.protectedRun (Step.statements body)],
      .branch (.variable "success") [] (Step.statements handler)] := by
    rw [Step.statement, evalStmt]
  rw [block, evalBlock, start_bind, start_evalArguments_singleton ran]
  dsimp only
  rw [start_bind, start_declareOutcome state outcome rest raised]
  change (evalBlock call (state.handling scope) _).start _ = _
  rw [evalBlock, start_bind]
  · rcases (evalStmt call (state.handling scope) _).start _ with ⟨_ | _ | _, _⟩ <;> rfl
  · nofun

theorem start_evalCall_error {callee : Expr} {arguments : List Expr} {raised : Value}
    (first : (evalExpr call scope callee).start machine = (.error raised, after)) :
    (evalExpr call scope (.call callee arguments)).start machine = (.error raised, after) := by
  rw [evalExpr, start_bind, one, start_map, first]
  rfl

theorem start_protect_error {body handler : List Step} {raised : Value}
    (ran : (evalExpr call scope (Steps.protectedRun (Step.statements body))).start machine =
      (.error raised, after)) :
    (evalStmt call scope (Step.protect body handler).statement).start machine =
      (.error raised, after) := by
  rw [Step.statement, evalStmt, evalBlock, start_bind, evalArguments, start_bind, ran]

theorem start_callClosure {id : Nat} {arguments : List Value} {closure : Closure}
    {own : List (String × Nat)}
    (there : machine.store.closures[id]? = some closure)
    (declared : (declareAll closure.parameters arguments).start machine = (.ok own, between)) :
    (callClosure call id arguments).start machine =
      (((evalBlock call ⟨own, closure.captured, arguments.drop closure.parameters.length⟩
        closure.body).start between).1.map Flow.values,
      ((evalBlock call ⟨own, closure.captured, arguments.drop closure.parameters.length⟩
        closure.body).start between).2) := by
  unfold callClosure
  rw [start_bind, start_readStore, Array.getD_eq_getD_getElem?, there]
  dsimp only [Option.getD_some]
  rw [start_bind, declared]
  dsimp only
  rw [start_bind]
  rcases (evalBlock call _ closure.body).start between with ⟨_ | _, _⟩ <;> rfl

theorem callValue_of_ne {callee : Operand} {arguments : List Value}
    (other : ∀ callable, callee.value ≠ .function callable) :
    callValue call callee arguments = throw (Arithmetic.typeComplaint "call" callee) := by
  unfold callValue
  split
  next callable function => exact (other callable function).elim
  next => rfl

theorem start_callGrant_of_not_live {depth grant : Nat} {arguments : List Value}
    (off : machine.registry.isLiveGrant grant = false) :
    ∃ values, (callAt (depth + 1) (.capability grant) arguments).start machine =
      (.ok values, machine) := by
  rw [callAt, callWith, start_callGrant]
  unfold Capability.Registry.isLiveGrant at off
  cases there : machine.registry.grants[grant]? with
  | none => exact ⟨[], rfl⟩
  | some entry =>
      rw [there] at off
      exact ⟨_, if_neg (ne_true_of_eq_false off)⟩

/-- What a live function of the host replies decides how its call ends. -/
theorem start_callGrant_of_live {depth grant : Nat} {entry : Capability.Grant σ}
    {arguments : List Value} (there : machine.registry.grants[grant]? = some entry)
    (live : entry.live = true) :
    let performed := ((Run.perform entry.capability.perform arguments).start machine).2
    (callAt (depth + 1) (.capability grant) arguments).start machine =
      match (entry.capability.perform arguments machine.native).1 with
      | .returns values => (.ok values, performed)
      | .fails message => (.error (.failure (.cause message)), performed)
      | .delegates callee =>
        match (callAt depth callee []).start performed with
        | (.ok values, after) => (.ok values, after)
        | (.error raised, after) => (.error (.failure (.wrap raised)), after) := by
  intro performed
  rw [callAt, callWith, start_callGrant, there]
  simp only [live, ↓reduceIte]
  have replied : (Run.perform entry.capability.perform arguments).start machine =
      (.ok (entry.capability.perform arguments machine.native).1, performed) := rfl
  rw [Capability.answer, start_bind, replied]
  cases (entry.capability.perform arguments machine.native).1 with
  | returns values | fails message => rfl
  | delegates callee =>
      dsimp only
      rw [start_tryCatch]
      rcases (callAt depth callee []).start performed with ⟨_ | _, _⟩ <;> rfl

theorem start_readIndex_of_absent {limit id : Nat} {description name : String}
    (absent : (machine.store.table id).get (.text name) = .nil)
    (there : (machine.store.table id).readHandler ≠ .nil) :
    (readIndex call (limit + 1) ⟨.table id, description⟩ (.text name)).start machine =
      match (machine.store.table id).readHandler with
      | .function handler => (one (call handler [.table id, .text name])).start machine
      | handler => (readIndex call limit ⟨handler, ""⟩ (.text name)).start machine := by
  rw [readIndex]
  dsimp only
  rw [start_bind, start_readStore]
  dsimp only [Key.ofValue?, Option.map_some, Option.getD_some]
  rw [absent]
  cases handles : (machine.store.table id).readHandler with
  | nil => exact (there handles).elim
  | function _ | boolean _ | integer _ | number _ | text _ | bytes _ | table _ | failure _ => rfl

end Evaluation

theorem getElem?_push_of_some {α : Type} {entries : Array α} {position : Nat} {entry : α}
    (there : entries[position]? = some entry) (last : α) :
    (entries.push last)[position]? = some entry := by
  obtain ⟨within, _⟩ := Array.getElem?_eq_some_iff.mp there
  rw [Array.getElem?_push, if_neg (Nat.ne_of_lt within)]
  exact there

/-- Parameters become variables of their own. -/
theorem start_declareAll (parameters : List String) (arguments : List Value) (machine : Machine σ) :
    ∃ own cells, (declareAll parameters arguments).start machine =
      (.ok own, { machine with store := { machine.store with cells } }) ∧
        (∀ (cell : Nat) (value : Value), machine.store.cells[cell]? = some value →
          cells[cell]? = some value) ∧
        ∀ name ∉ parameters, own.lookup name = none := by
  induction parameters generalizing arguments machine with
  | nil => exact ⟨[], _, rfl, fun _ _ => id, fun _ _ => rfl⟩
  | cons name rest ih =>
      obtain ⟨own, cells, declared, kept, names⟩ := ih arguments.tail
        { machine with store := (machine.store.newCell (Value.first arguments)).2 }
      refine ⟨own ++ [(name, machine.store.cells.size)], cells, ?_, fun cell value there =>
        kept cell value (getElem?_push_of_some there _), fun other absent => ?_⟩
      · rw [declareAll, start_bind]
        change (declareAll rest arguments.tail >>= fun own => _ : Run σ _).start
          { machine with store := (machine.store.newCell (Value.first arguments)).2 } = _
        rw [start_bind, declared]
        rfl
      · rw [List.mem_cons, not_or] at absent
        rw [List.lookup_append, names other absent.2, Text.lookup_cons_eq_ite, if_neg absent.1]
        rfl

namespace Tracked

/-- The variables that are said to hold caught errors do so. -/
def IsFaithful (state : Tracked σ) : Prop :=
  ∀ cell origin, state.caught.lookup cell = some origin →
    state.machine.store.cells[cell]? = some origin.value

/-- What running bodies leaves alone: the tables, the functions that were handed out, the values of
the variables, and which of them hold caught errors. -/
structure Extends (before after : Tracked σ) : Prop where
  tables : ∀ id, after.machine.store.table id = before.machine.store.table id
  registry : after.machine.registry = before.machine.registry
  cells : ∀ (cell : Nat) (value : Value), before.machine.store.cells[cell]? = some value →
    after.machine.store.cells[cell]? = some value
  caught : ∀ cell origin, before.caught.lookup cell = some origin →
    ∃ other, after.caught.lookup cell = some other

variable {before between after : Tracked σ}

theorem Extends.refl (state : Tracked σ) : state.Extends state :=
  ⟨fun _ => rfl, rfl, fun _ _ => id, fun _ origin found => ⟨origin, found⟩⟩

theorem Extends.trans (first : before.Extends between) (second : between.Extends after) :
    before.Extends after where
  tables id := (second.tables id).trans (first.tables id)
  registry := second.registry.trans first.registry
  cells cell value there := second.cells cell value (first.cells cell value there)
  caught cell origin found := by
    obtain ⟨other, found⟩ := first.caught cell origin found
    exact second.caught cell other found

theorem IsFaithful.of_extends (faithful : before.IsFaithful) (extends_ : before.Extends after)
    (same : after.caught = before.caught) : after.IsFaithful := by
  intro cell origin found
  exact extends_.cells cell _ (faithful cell origin (same ▸ found))

variable (state : Tracked σ)

theorem extends_withFunction (scope : Scope) (body : List Step) :
    state.Extends (state.withFunction scope body) :=
  ⟨fun _ => rfl, rfl, fun _ _ => id, fun _ origin found => ⟨origin, found⟩⟩

theorem extends_performed (capability : Capability σ) (arguments : List Value) :
    state.Extends (state.performed capability arguments) :=
  ⟨fun _ => rfl, rfl, fun _ _ => id, fun _ origin found => ⟨origin, found⟩⟩

theorem extends_withArgument (scope : Scope) (argument : Argument) :
    state.Extends (state.withArgument scope argument) := by
  cases argument with
  | constant _ => exact .refl state
  | table =>
      exact ⟨state.machine.store.table_newTable, rfl, fun _ _ => id,
        fun _ origin found => ⟨origin, found⟩⟩
  | function body => exact state.extends_withFunction scope body

theorem extends_arguments (scope : Scope) (arguments : List Argument) :
    state.Extends (state.arguments scope arguments).2 := by
  induction arguments generalizing state with
  | nil => exact .refl state
  | cons argument rest ih => exact (state.extends_withArgument scope argument).trans (ih _)

theorem extends_declared {state : Tracked σ} {parameters : List String} {arguments : List Value}
    {own : List (String × Nat)} {started : Machine σ}
    (declared : (declareAll parameters arguments).start state.machine = (.ok own, started)) :
    state.Extends ⟨started, state.caught⟩ := by
  obtain ⟨_, cells, same, kept, _⟩ := start_declareAll parameters arguments state.machine
  rw [same] at declared
  cases declared
  exact ⟨fun _ => rfl, rfl, kept, fun _ origin found => ⟨origin, found⟩⟩

theorem caught_withArgument (scope : Scope) (argument : Argument) :
    (state.withArgument scope argument).caught = state.caught := by
  cases argument <;> rfl

theorem caught_arguments (scope : Scope) (arguments : List Argument) :
    (state.arguments scope arguments).2.caught = state.caught := by
  induction arguments generalizing state with
  | nil => rfl
  | cons argument rest ih => exact (ih _).trans (state.caught_withArgument scope argument)

theorem getElem?_withOutcome (outcome : Option Origin) {cell : Nat} {value : Value}
    (there : state.machine.store.cells[cell]? = some value) :
    (state.withOutcome outcome).machine.store.cells[cell]? = some value := by
  unfold withOutcome
  exact getElem?_push_of_some (getElem?_push_of_some there _) _

theorem extends_withOutcome (outcome : Option Origin) :
    state.Extends (state.withOutcome outcome) where
  tables _ := rfl
  registry := rfl
  cells cell value := state.getElem?_withOutcome outcome
  caught cell origin found := by
    cases outcome with
    | none => exact ⟨origin, found⟩
    | some other =>
        change ∃ other, ((state.nextCell + 1, _) :: state.caught).lookup cell = some other
        rw [Text.lookup_cons_eq_ite]
        split
        · exact ⟨_, rfl⟩
        · exact ⟨origin, found⟩

theorem IsFaithful.withOutcome {state : Tracked σ} (faithful : state.IsFaithful)
    (outcome : Option Origin) : (state.withOutcome outcome).IsFaithful := by
  intro cell origin found
  cases outcome with
  | none => exact state.getElem?_withOutcome none (faithful cell origin found)
  | some raised =>
      change ((state.nextCell + 1, raised) :: state.caught).lookup cell = some origin at found
      rw [Text.lookup_cons_eq_ite] at found
      split at found
      next last =>
        obtain rfl := Option.some.inj found
        subst last
        unfold Tracked.withOutcome nextCell
        dsimp only
        rw [← Array.size_push (.boolean _), Array.getElem?_push_size]
        rfl
      next => exact state.getElem?_withOutcome _ (faithful cell origin found)

end Tracked

namespace Ends

variable {depth : Nat} {task : Task} {state after : Tracked σ} {outcome : Option Origin}

theorem extended (ends : Ends depth task state outcome after) : state.Extends after := by
  induction ends with
  | done | raiseAgain _ _ | nothingCaught _ | repeatedNever | notThere _ | tooDeep
  | standIn | inert _ | chainTooLong | refused _ | silent _ => exact .refl _
  | next _ _ first others | repeatedAgain _ _ first others => exact first.trans others
  | stop _ ih | repeatedUntil _ ih | answered _ _ _ ih | passedOn _ _ _ _ _ ih => exact ih
  | unprotected => exact Tracked.extends_withFunction _ _ _
  | @unharmed _ _ _ _ state between _ ih =>
      exact (state.extends_withFunction _ _).trans (ih.trans (between.extends_withOutcome _))
  | @handled _ _ _ _ state between _ _ _ _ _ inside handles =>
      exact (state.extends_withFunction _ _).trans
        (inside.trans ((between.extends_withOutcome _).trans handles))
  | raise => exact Tracked.extends_withArgument _ _ _
  | noFunction _ _ _ => exact Tracked.extends_arguments _ _ _
  | called _ _ ih => exact (Tracked.extends_arguments _ _ _).trans ih
  | entered _ declared _ ih => exact (Tracked.extends_declared declared).trans ih
  | returned _ _ _ | failed _ _ _ => exact Tracked.extends_performed _ _ _
  | delegated _ _ _ _ ih => exact (Tracked.extends_performed _ _ _).trans ih

theorem evaluates (ends : Ends depth task state outcome after) (faithful : state.IsFaithful) :
    task.Evaluates depth state.machine outcome after.machine ∧ after.IsFaithful := by
  induction ends with
  | done => exact ⟨rfl, faithful⟩
  | next _ _ first others =>
      obtain ⟨ran, between⟩ := first faithful
      obtain ⟨rest, after⟩ := others between
      refine ⟨start_evalBlock_cons.trans ?_, after⟩
      rw [show _ = _ from ran]
      exact rest
  | stop _ first =>
      obtain ⟨ran, after⟩ := first faithful
      refine ⟨start_evalBlock_cons.trans ?_, after⟩
      rw [show _ = _ from ran]
      rfl
  | @raise depth scope value state =>
      exact ⟨start_raise (start_argument value state), faithful.of_extends
        (state.extends_withArgument scope value) (state.caught_withArgument scope value)⟩
  | @raiseAgain depth scope state cell origin visible caught =>
      refine ⟨start_raise ?_, faithful⟩
      have held := faithful cell origin caught
      rw [evalExpr, visible]
      dsimp only
      rw [Run.start_bind, Run.start_readStore, Store.cell, Array.getD_eq_getD_getElem?, held]
      rfl
  | @nothingCaught depth scope state absent =>
      have evaluates : (evalExpr (callAt depth) scope (.variable "raised")).start state.machine =
          (.ok [(Origin.script .nil rfl).value], state.machine) := by
        rw [evalExpr, absent]
        rfl
      exact ⟨start_raise evaluates, faithful⟩
  | repeatedNever => exact ⟨rfl, faithful⟩
  | repeatedAgain _ _ once again =>
      obtain ⟨ran, between⟩ := once faithful
      obtain ⟨rest, after⟩ := again between
      refine ⟨start_repeated.trans ?_, after⟩
      rw [show _ = _ from ran]
      exact rest
  | repeatedUntil _ once =>
      obtain ⟨ran, after⟩ := once faithful
      refine ⟨start_repeated.trans ?_, after⟩
      rw [show _ = _ from ran]
      rfl
  | @unprotected scope body handler state =>
      have ran := start_protectedRun (callAt 0) scope body state
      exact ⟨start_protect_error ran, faithful⟩
  | @unharmed depth scope body handler state between _ inside =>
      obtain ⟨⟨values, ran, returns⟩, betweenFaithful⟩ := inside faithful
      obtain rfl := returns _ rfl
      refine ⟨start_protect none [] ?_ rfl, betweenFaithful.withOutcome none⟩
      rw [start_protectedRun, start_protectedCall, ran]
      rfl
  | @handled depth scope body handler state between after origin outcome _ _ inside handles =>
      obtain ⟨⟨values, ran, _⟩, betweenFaithful⟩ := inside faithful
      obtain ⟨handled, afterFaithful⟩ := handles (betweenFaithful.withOutcome (some origin))
      refine ⟨(start_protect (some origin) [origin.value] ?_ rfl).trans handled, afterFaithful⟩
      rw [start_protectedRun, start_protectedCall, ran]
      rfl
  | notThere lookup =>
      refine ⟨(start_evaluate _).trans ?_, faithful⟩
      rw [start_evalCall_error (lookup _)]
      rfl
  | @noFunction depth scope callee complaint arguments state value lookup other told =>
      refine ⟨(start_evaluate _).trans ?_, faithful.of_extends (state.extends_arguments _ _)
        (state.caught_arguments _ _)⟩
      rw [start_evalCall (lookup _) (start_evalArguments _ _),
        callValue_of_ne other, told]
      rfl
  | @called depth scope callee arguments state after callable outcome lookup _ ih =>
      obtain ⟨⟨values, ran, _⟩, afterFaithful⟩ := ih (faithful.of_extends
        (state.extends_arguments _ _) (state.caught_arguments _ _))
      refine ⟨(start_evaluate _).trans ?_, afterFaithful⟩
      rw [start_evalCall (lookup _) (start_evalArguments _ _), callValue, ran]
      cases outcome <;> rfl
  | tooDeep => exact ⟨⟨[], rfl, fun _ _ => rfl⟩, faithful⟩
  | @entered depth id arguments parameters body captured own state after started outcome isBody
      declared _ ih =>
      obtain ⟨ran, afterFaithful⟩ :=
        ih (faithful.of_extends (Tracked.extends_declared declared) rfl)
      refine ⟨⟨[], ?_, fun _ _ => rfl⟩, afterFaithful⟩
      rw [callAt, callWith, start_callClosure isBody declared, show _ = _ from ran]
      cases outcome <;> rfl
  | standIn => exact ⟨⟨_, rfl, nofun⟩, faithful⟩
  | @inert depth grant arguments state off =>
      exact ⟨⟨_, (start_callGrant_of_not_live off).choose_spec, nofun⟩, faithful⟩
  | @returned depth grant entry arguments values state there live reply =>
      refine ⟨⟨values, ?_, nofun⟩, faithful⟩
      rw [start_callGrant_of_live there live, reply]
      rfl
  | @failed depth grant entry arguments message state there live reply =>
      refine ⟨⟨[], ?_, nofun⟩, faithful⟩
      rw [start_callGrant_of_live there live, reply]
      rfl
  | @delegated depth grant entry arguments callee state after outcome there live reply _ ih =>
      obtain ⟨⟨values, ran, _⟩, afterFaithful⟩ := ih faithful
      refine ⟨⟨values, ?_, nofun⟩, afterFaithful⟩
      rw [start_callGrant_of_live there live, reply]
      dsimp only
      change (match (callAt depth callee []).start
        (state.performed entry.capability arguments).machine with
        | (.ok values, after) => (.ok values, after)
        | (.error raised, after) => (.error (.failure (.wrap raised)), after) :
        Except Value (List Value) × Machine σ) = _
      rw [ran]
      cases outcome with
      | none => rfl
      | some origin =>
          exact congrArg (fun raised => (Except.error raised, after.machine))
            origin.value_throughHost.symm
  | chainTooLong => exact ⟨⟨.nil, rfl⟩, faithful⟩
  | refused other => exact ⟨⟨.nil, other _⟩, faithful⟩
  | @silent depth limit object name state value plain => exact ⟨⟨value, plain _⟩, faithful⟩
  | @answered depth limit id description name handler state after outcome absent handles _ ih =>
      obtain ⟨⟨values, ran, _⟩, afterFaithful⟩ := ih faithful
      refine ⟨⟨Value.first values, ?_⟩, afterFaithful⟩
      rw [start_readIndex_of_absent absent (by rw [handles]; nofun), handles]
      dsimp only
      rw [one, Run.start_map, ran]
      cases outcome <;> rfl
  | @passedOn depth limit id description name handler state after outcome absent handles there other
      _ ih =>
      obtain ⟨⟨value, ran⟩, afterFaithful⟩ := ih faithful
      refine ⟨⟨value, ?_⟩, afterFaithful⟩
      rw [start_readIndex_of_absent absent (handles ▸ there), handles]
      cases handler with
      | function callable => exact (other callable rfl).elim
      | nil | boolean _ | integer _ | number _ | text _ | bytes _ | table _ | failure _ => exact ran

end Ends

end ScriptedRobot.Script
