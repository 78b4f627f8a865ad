import ScriptedRobot.Proofs.Script.Vetting

/-! # Properties of evaluations

Evaluation puts steps together in few ways: one after the other, and one in case another raises.
The elementary steps look at the objects or change them, show values, and call functions of the
host. A property of steps that these have, and that passes on to what is put together, holds of
every evaluation (`Tracking.holds_chunk`, `Tracking.holds_call`). On the way all values may be
taken to be vetted: what is put together need have the property only if the values that a step
yields and raises are. -/

namespace ScriptedRobot.Script

open Vettable (IsVetted)

variable {σ α β : Type}

/-- Look at the objects and change them. -/
def Run.useStore (change : Store → α × Store) : Run σ α :=
  modifyGet fun machine =>
    ((change machine.store).1, { machine with store := (change machine.store).2 })

/-- A property of steps that the elementary steps of a script have, as far as they handle vetted
values, and that passes on to what is put together from them. -/
structure Tracking (allowed : Failure → Prop)
    (holds : ∀ {α : Type} [Vettable α], Run σ α → Prop) : Prop where
  pure : ∀ {α : Type} [Vettable α] {value : α}, IsVetted allowed value →
    holds (pure value : Run σ α)
  throw : ∀ {α : Type} [Vettable α] {raised : Value}, IsVetted allowed raised →
    holds (throw raised : Run σ α)
  bind : ∀ {α β : Type} [Vettable α] [Vettable β] {step : Run σ α} {next : α → Run σ β},
    holds step → (∀ value, IsVetted allowed value → holds (next value)) → holds (step >>= next)
  tryCatch : ∀ {α : Type} [Vettable α] {step : Run σ α} {handler : Value → Run σ α}, holds step →
    (∀ raised, IsVetted allowed raised → holds (handler raised)) → holds (tryCatch step handler)
  useStore : ∀ {α : Type} [Vettable α] (change : Store → α × Store),
    (∀ store, IsVetted allowed store →
      IsVetted allowed (change store).1 ∧ IsVetted allowed (change store).2) →
    holds (Run.useStore change : Run σ α)
  report : ∀ {values : List Value}, IsVetted allowed values →
    holds (Run.report values : Run σ Unit)
  /-- The function may call back into the script. -/
  callGrant : ∀ {call : Call σ},
    (∀ callable {arguments}, IsVetted allowed arguments → holds (call callable arguments)) →
    ∀ id {arguments}, IsVetted allowed arguments → holds (callGrant call id arguments)

namespace Tracking

variable {allowed : Failure → Prop} {holds : ∀ {α : Type} [Vettable α], Run σ α → Prop}
  (tracking : Tracking allowed holds)
include tracking

theorem holds_map [Vettable α] [Vettable β] {step : Run σ α} (held : holds step) {change : α → β}
    (kept : ∀ value, IsVetted allowed value → IsVetted allowed (change value)) :
    holds (change <$> step) := by
  rw [map_eq_pure_bind]
  exact tracking.bind held fun value vetted => tracking.pure (kept value vetted)

theorem holds_one {step : Run σ (List Value)} (held : holds step) : holds (one step) :=
  tracking.holds_map held fun _ => isVetted_first

theorem holds_complaint [Vettable α] {raised : Value} (plain : raised.isNative = false) :
    holds (MonadExcept.throw raised : Run σ α) :=
  tracking.throw (isVetted_of_plain plain)

theorem holds_liftExcept {outcome : Except Value Value} (plain : IsPlain outcome) :
    holds (liftExcept outcome : Run σ Value) := by
  cases outcome with
  | ok value => exact tracking.pure (isVetted_of_plain plain)
  | error raised => exact tracking.holds_complaint plain

theorem holds_readStore [Vettable α] {read : Store → α}
    (vetted : ∀ store, IsVetted allowed store → IsVetted allowed (read store)) :
    holds (Run.readStore read : Run σ α) :=
  tracking.useStore (fun store => (read store, store)) fun store storeVetted =>
    ⟨vetted store storeVetted, storeVetted⟩

theorem holds_changeStore {change : Store → Store}
    (kept : ∀ store, IsVetted allowed store → IsVetted allowed (change store)) :
    holds (Run.changeStore change : Run σ Unit) :=
  tracking.useStore (fun store => ((), change store)) fun store storeVetted =>
    ⟨trivial, kept store storeVetted⟩

theorem holds_readTable (id : Nat) :
    holds (Run.readStore fun store => store.table id : Run σ Table) :=
  tracking.holds_readStore fun _ vetted => vetted.1 id

theorem holds_getGlobal (name : String) : holds (Run.getGlobal name : Run σ Value) :=
  tracking.holds_readStore fun _ vetted => Table.isVetted_get (vetted.1 _) _

theorem holds_newTable {table : Table} (vetted : IsVetted allowed table) :
    holds (Run.newTable table : Run σ Value) :=
  tracking.useStore (fun store => (Value.table (store.newTable table).1, (store.newTable table).2))
    fun _ storeVetted => ⟨trivial, Store.isVetted_newTable storeVetted vetted⟩

theorem holds_newClosure (closure : Closure) : holds (Run.newClosure closure : Run σ Value) :=
  tracking.useStore (fun store =>
    (Value.function (.closure (store.newClosure closure).1), (store.newClosure closure).2))
    fun _ storeVetted => ⟨trivial, storeVetted⟩

theorem holds_newCell {value : Value} (vetted : IsVetted allowed value) :
    holds (Run.newCell value : Run σ Nat) :=
  tracking.useStore (fun store => store.newCell value) fun _ storeVetted =>
    ⟨trivial, Store.isVetted_newCell storeVetted vetted⟩

theorem holds_setEntry (id : Nat) {key : Key} {value : Value} (keyVetted : IsVetted allowed key)
    (vetted : IsVetted allowed value) :
    holds (Run.changeStore fun store => store.modifyTable id fun table => table.set key value :
      Run σ Unit) :=
  tracking.holds_changeStore fun _ storeVetted => Store.isVetted_modifyTable storeVetted id
    fun _ tableVetted => Table.isVetted_set tableVetted keyVetted vetted

theorem holds_setGlobal (name : String) {value : Value} (vetted : IsVetted allowed value) :
    holds (Run.setGlobal name value : Run σ Unit) :=
  tracking.holds_setEntry Store.globalsId trivial vetted

theorem holds_keyOf {value : Value} (vetted : IsVetted allowed value) :
    holds (keyOf value : Run σ Key) := by
  unfold keyOf
  split
  next isKey => exact tracking.pure (isVetted_ofValue? vetted isKey)
  next => exact tracking.holds_complaint rfl

theorem holds_rawWrite (id : Nat) {key value : Value} (keyVetted : IsVetted allowed key)
    (vetted : IsVetted allowed value) : holds (rawWrite id key value : Run σ Unit) :=
  tracking.bind (tracking.holds_keyOf keyVetted) fun _ keyVetted =>
    tracking.holds_setEntry id keyVetted vetted

theorem holds_tableOf {table : Table} {values : List Value} (tableVetted : IsVetted allowed table)
    (vetted : IsVetted allowed values) : holds (tableOf table values : Run σ Table) := by
  induction table, values using tableOf.induct with
  | case1 table key value rest ih =>
      have keyVetted := isVetted_first vetted
      have restVetted := isVetted_tail vetted
      refine tracking.bind (tracking.holds_keyOf keyVetted) fun key keyVetted => ?_
      exact ih key (Table.isVetted_set tableVetted keyVetted (isVetted_first restVetted))
        (isVetted_tail restVetted)
  | case2 table values short =>
      rw [tableOf]
      · exact tracking.pure tableVetted
      · exact short

theorem holds_declareAll (names : List String) {values : List Value}
    (vetted : IsVetted allowed values) :
    holds (declareAll names values : Run σ (List (String × Nat))) := by
  induction names generalizing values with
  | nil => exact tracking.pure trivial
  | cons name names ih =>
      refine tracking.bind (tracking.holds_newCell (isVetted_first vetted)) fun cell _ => ?_
      exact tracking.bind (ih (isVetted_tail vetted)) fun _ _ => tracking.pure trivial

theorem holds_repeatFlow {body : Run σ Flow} (held : holds body) (count : Nat) :
    holds (repeatFlow body count) := by
  induction count with
  | zero => exact tracking.pure isVetted_nil
  | succ count ih =>
      refine tracking.bind held fun flow vetted => ?_
      cases flow with
      | next => exact ih
      | returned values => exact tracking.pure vetted

theorem holds_entriesFlow {body : Value → Value → Run σ Flow}
    (held : ∀ key value, IsVetted allowed key → IsVetted allowed value → holds (body key value))
    {entries : List (Key × Value)} (entriesVetted : IsVetted allowed entries) :
    holds (entriesFlow body entries) := by
  induction entries with
  | nil => exact tracking.pure isVetted_nil
  | cons entry rest ih =>
      obtain ⟨keyVetted, valueVetted⟩ := entriesVetted entry List.mem_cons_self
      have restVetted : IsVetted allowed rest := fun other member =>
        entriesVetted other (List.mem_cons_of_mem _ member)
      refine tracking.bind (held entry.1.value entry.2 keyVetted valueVetted) fun flow vetted => ?_
      cases flow with
      | next => exact ih restVetted
      | returned values => exact tracking.pure vetted

theorem holds_setHandlers (table : Value) {readHandler writeHandler : Value}
    (readVetted : IsVetted allowed readHandler) (writeVetted : IsVetted allowed writeHandler) :
    holds (setHandlers table readHandler writeHandler : Run σ Unit) := by
  unfold setHandlers
  split
  · exact tracking.holds_changeStore fun _ storeVetted => Store.isVetted_modifyTable storeVetted _
      fun _ tableVetted => ⟨tableVetted.1, readVetted, writeVetted⟩
  · exact tracking.pure trivial

theorem holds_entriesOf (value : Value) :
    holds (entriesOf value : Run σ (List (Key × Value))) := by
  unfold entriesOf
  split
  · exact tracking.holds_readStore fun _ vetted => (vetted.1 _).1
  · exact tracking.holds_complaint rfl

section Calls

/-! Evaluation takes the way to call functions as a parameter, and has what that has. -/

variable {call : Call σ}
  (calls : ∀ callable {arguments}, IsVetted allowed arguments → holds (call callable arguments))
include calls

theorem holds_callValue (callee : Operand) {arguments : List Value}
    (vetted : IsVetted allowed arguments) : holds (callValue call callee arguments) := by
  unfold callValue
  split
  · exact calls _ vetted
  · exact tracking.holds_complaint rfl

theorem holds_readIndex (limit : Nat) {object : Operand} {key : Value}
    (objectVetted : IsVetted allowed object.value) (keyVetted : IsVetted allowed key) :
    holds (readIndex call limit object key) := by
  induction limit generalizing object with
  | zero => exact tracking.holds_complaint rfl
  | succ limit ih =>
      unfold readIndex
      split
      · refine tracking.bind (tracking.holds_readTable _) fun table tableVetted => ?_
        have found : IsVetted allowed (((Key.ofValue? key).map table.get).getD .nil) := by
          cases Key.ofValue? key with
          | none => trivial
          | some key => exact Table.isVetted_get tableVetted key
        split
        · exact tracking.pure trivial
        · exact tracking.holds_one
            (calls _ (isVetted_cons trivial (isVetted_singleton keyVetted)))
        · exact ih tableVetted.2.1
        · exact tracking.pure found
      · exact tracking.pure trivial
      · exact tracking.pure trivial
      · exact tracking.holds_complaint rfl

theorem holds_writeIndex (limit : Nat) {object : Operand} {key value : Value}
    (objectVetted : IsVetted allowed object.value) (keyVetted : IsVetted allowed key)
    (vetted : IsVetted allowed value) : holds (writeIndex call limit object key value) := by
  induction limit generalizing object with
  | zero => exact tracking.holds_complaint rfl
  | succ limit ih =>
      unfold writeIndex
      split
      · refine tracking.bind (tracking.holds_readTable _) fun table tableVetted => ?_
        have arguments (id : Nat) : IsVetted allowed [.table id, key, value] :=
          isVetted_cons trivial (isVetted_cons keyVetted (isVetted_singleton vetted))
        split
        · exact tracking.holds_map (calls _ (arguments _)) fun _ _ => trivial
        · exact tracking.holds_rawWrite _ keyVetted vetted
        · exact ih tableVetted.2.2
        · exact tracking.holds_rawWrite _ keyVetted vetted
      · exact tracking.holds_complaint rfl

set_option linter.unusedSectionVars false in
mutual

theorem holds_evalExpr {scope : Scope} (rest : IsVetted allowed scope.rest) (expression : Expr) :
    holds (evalExpr call scope expression) := by
  match expression with
  | .literal literal =>
      exact tracking.pure (isVetted_singleton (isVetted_of_plain (plain_literal literal)))
  | .builtin builtin => exact tracking.pure (isVetted_singleton trivial)
  | .shared => exact tracking.pure (isVetted_singleton trivial)
  | .global name =>
      exact tracking.bind (tracking.holds_getGlobal name) fun _ vetted =>
        tracking.pure (isVetted_singleton vetted)
  | .variable name =>
      unfold evalExpr
      split
      · refine tracking.bind (tracking.holds_readStore fun _ vetted => vetted.2 _) fun _ vetted => ?_
        exact tracking.pure (isVetted_singleton vetted)
      · exact tracking.pure (isVetted_singleton trivial)
  | .rest => exact tracking.pure rest
  | .index object key =>
      unfold evalExpr
      refine tracking.bind (tracking.holds_one (holds_evalExpr rest object))
        fun objectValue objectVetted => ?_
      refine tracking.bind (tracking.holds_one (holds_evalExpr rest key))
        fun keyValue keyVetted => ?_
      exact tracking.bind (tracking.holds_readIndex calls _ objectVetted keyVetted)
        fun _ vetted => tracking.pure (isVetted_singleton vetted)
  | .call callee arguments =>
      unfold evalExpr
      refine tracking.bind (tracking.holds_one (holds_evalExpr rest callee)) fun _ _ => ?_
      refine tracking.bind (holds_evalArguments rest arguments) fun values vetted => ?_
      exact tracking.holds_callValue calls _ vetted
  | .first expression =>
      unfold evalExpr
      exact tracking.bind (tracking.holds_one (holds_evalExpr rest expression)) fun _ vetted =>
        tracking.pure (isVetted_singleton vetted)
  | .unary operator operand =>
      unfold evalExpr
      refine tracking.bind (tracking.holds_one (holds_evalExpr rest operand)) fun value _ => ?_
      exact tracking.bind (tracking.holds_liftExcept (Arithmetic.plain_unary _ _)) fun _ vetted =>
        tracking.pure (isVetted_singleton vetted)
  | .binary operator left right =>
      unfold evalExpr
      refine tracking.bind (tracking.holds_one (holds_evalExpr rest left)) fun leftValue _ => ?_
      refine tracking.bind (tracking.holds_one (holds_evalExpr rest right)) fun rightValue _ => ?_
      exact tracking.bind (tracking.holds_liftExcept (Arithmetic.plain_binary _ _ _))
        fun _ vetted => tracking.pure (isVetted_singleton vetted)
  | .conjunction left right =>
      unfold evalExpr
      refine tracking.bind (tracking.holds_one (holds_evalExpr rest left)) fun value vetted => ?_
      split
      · exact tracking.bind (tracking.holds_one (holds_evalExpr rest right)) fun _ vetted =>
          tracking.pure (isVetted_singleton vetted)
      · exact tracking.pure (isVetted_singleton vetted)
  | .disjunction left right =>
      unfold evalExpr
      refine tracking.bind (tracking.holds_one (holds_evalExpr rest left)) fun value vetted => ?_
      split
      · exact tracking.pure (isVetted_singleton vetted)
      · exact tracking.bind (tracking.holds_one (holds_evalExpr rest right)) fun _ vetted =>
          tracking.pure (isVetted_singleton vetted)
  | .table items =>
      unfold evalExpr
      refine tracking.bind (holds_evalSingles rest items) fun values vetted => ?_
      refine tracking.bind (tracking.holds_tableOf isVetted_empty vetted)
        fun table tableVetted => ?_
      exact tracking.bind (tracking.holds_newTable tableVetted) fun _ vetted =>
        tracking.pure (isVetted_singleton vetted)
  | .withHandlers table readHandler writeHandler =>
      unfold evalExpr
      refine tracking.bind (tracking.holds_one (holds_evalExpr rest table))
        fun tableValue vetted => ?_
      refine tracking.bind (tracking.holds_one (holds_evalExpr rest readHandler))
        fun readValue readVetted => ?_
      refine tracking.bind (tracking.holds_one (holds_evalExpr rest writeHandler))
        fun writeValue writeVetted => ?_
      exact tracking.bind (tracking.holds_setHandlers _ readVetted writeVetted) fun _ _ =>
        tracking.pure (isVetted_singleton vetted)
  | .function parameters body =>
      unfold evalExpr
      exact tracking.bind (tracking.holds_newClosure _) fun _ vetted =>
        tracking.pure (isVetted_singleton vetted)
termination_by structural expression

theorem holds_evalArguments {scope : Scope} (rest : IsVetted allowed scope.rest)
    (expressions : List Expr) : holds (evalArguments call scope expressions) := by
  cases expressions with
  | nil => exact tracking.pure isVetted_nil
  | cons expression others =>
      unfold evalArguments
      refine tracking.bind (holds_evalExpr rest expression) fun values vetted => ?_
      split
      · exact tracking.pure vetted
      · exact tracking.bind (holds_evalArguments rest others) fun _ othersVetted =>
          tracking.pure (isVetted_cons (isVetted_first vetted) othersVetted)
termination_by structural expressions

theorem holds_evalSingles {scope : Scope} (rest : IsVetted allowed scope.rest)
    (expressions : List Expr) : holds (evalSingles call scope expressions) := by
  cases expressions with
  | nil => exact tracking.pure isVetted_nil
  | cons expression others =>
      unfold evalSingles
      refine tracking.bind (tracking.holds_one (holds_evalExpr rest expression))
        fun value vetted => ?_
      exact tracking.bind (holds_evalSingles rest others) fun _ othersVetted =>
        tracking.pure (isVetted_cons vetted othersVetted)
termination_by structural expressions

end

theorem holds_evalOne {scope : Scope} (rest : IsVetted allowed scope.rest) (expression : Expr) :
    holds (one (evalExpr call scope expression)) :=
  tracking.holds_one (tracking.holds_evalExpr calls rest expression)

mutual

theorem holds_evalStmt {scope : Scope} (rest : IsVetted allowed scope.rest) (statement : Stmt) :
    holds (evalStmt call scope statement) := by
  cases statement with
  | declare names values =>
      unfold evalStmt
      exact tracking.bind (tracking.holds_evalArguments calls rest values) fun _ _ =>
        tracking.pure isVetted_nil
  | setVariable name value =>
      unfold evalStmt
      refine tracking.bind (tracking.holds_evalOne calls rest value) fun value vetted => ?_
      split
      · refine tracking.bind (tracking.holds_changeStore fun _ storeVetted =>
          Store.isVetted_setCell storeVetted _ vetted) fun _ _ => ?_
        exact tracking.pure isVetted_nil
      · exact tracking.pure isVetted_nil
  | setGlobal name value =>
      unfold evalStmt
      refine tracking.bind (tracking.holds_evalOne calls rest value) fun value vetted => ?_
      exact tracking.bind (tracking.holds_setGlobal name vetted) fun _ _ =>
        tracking.pure isVetted_nil
  | setIndex object key value =>
      unfold evalStmt
      refine tracking.bind (tracking.holds_evalOne calls rest object) fun _ objectVetted => ?_
      refine tracking.bind (tracking.holds_evalOne calls rest key) fun _ keyVetted => ?_
      refine tracking.bind (tracking.holds_evalOne calls rest value) fun _ vetted => ?_
      exact tracking.bind (tracking.holds_writeIndex calls _ objectVetted keyVetted vetted)
        fun _ _ => tracking.pure isVetted_nil
  | evaluate expression =>
      unfold evalStmt
      exact tracking.bind (tracking.holds_evalExpr calls rest expression) fun _ _ =>
        tracking.pure isVetted_nil
  | branch condition positive negative =>
      unfold evalStmt
      refine tracking.bind (tracking.holds_evalOne calls rest condition) fun value _ => ?_
      split
      · exact holds_evalBlock rest positive
      · exact holds_evalBlock rest negative
  | block body =>
      unfold evalStmt
      exact holds_evalBlock rest body
  | repeated count body =>
      unfold evalStmt
      exact tracking.holds_repeatFlow (holds_evalBlock rest body) count
  | forEntries key value table body =>
      unfold evalStmt
      refine tracking.bind (tracking.holds_evalOne calls rest table) fun _ _ => ?_
      refine tracking.bind (tracking.holds_entriesOf _) fun entries entriesVetted => ?_
      refine tracking.holds_entriesFlow (fun keyValue entryValue keyVetted valueVetted => ?_)
        entriesVetted
      have vetted := isVetted_cons keyVetted (isVetted_singleton valueVetted)
      refine tracking.bind (tracking.holds_declareAll _ vetted) fun names _ => ?_
      have inner : IsVetted allowed { scope with own := names ++ scope.own }.rest := rest
      exact holds_evalBlock inner body
  | returned values =>
      unfold evalStmt
      exact tracking.bind (tracking.holds_evalArguments calls rest values) fun _ vetted =>
        tracking.pure vetted
termination_by structural statement

theorem holds_evalBlock {scope : Scope} (rest : IsVetted allowed scope.rest)
    (statements : List Stmt) : holds (evalBlock call scope statements) := by
  cases statements with
  | nil => exact tracking.pure isVetted_nil
  | cons statement others =>
      have first := holds_evalStmt rest statement
      have later := fun {scope : Scope} (rest : IsVetted allowed scope.rest) =>
        holds_evalBlock rest others
      cases statement with
      | declare names values =>
          unfold evalBlock
          refine tracking.bind (tracking.holds_evalArguments calls rest values)
            fun values vetted => ?_
          exact tracking.bind (tracking.holds_declareAll _ vetted) fun _ _ => later rest
      | _ =>
          unfold evalBlock
          refine tracking.bind first fun flow vetted => ?_
          split
          · exact later rest
          · exact tracking.pure vetted
termination_by structural statements

end

theorem holds_callClosure (id : Nat) {arguments : List Value}
    (vetted : IsVetted allowed arguments) : holds (callClosure call id arguments) := by
  refine tracking.bind (tracking.holds_readStore fun _ _ => trivial) fun closure _ => ?_
  refine tracking.bind (tracking.holds_declareAll _ vetted) fun own _ => ?_
  exact tracking.bind (tracking.holds_evalBlock calls (isVetted_drop vetted _) _)
    fun _ flowVetted => tracking.pure flowVetted

theorem holds_callBuiltin (builtin : Builtin) {arguments : List Value}
    (vetted : IsVetted allowed arguments) : holds (callBuiltin call builtin arguments) := by
  cases builtin with
  | error => exact tracking.throw (isVetted_first vetted)
  | protectedCall =>
      refine tracking.tryCatch ?_ fun raised raisedVetted =>
        tracking.pure (isVetted_cons trivial (isVetted_singleton raisedVetted))
      exact tracking.bind (tracking.holds_callValue calls _ (isVetted_tail vetted))
        fun _ returned => tracking.pure (isVetted_cons trivial returned)
  | type => exact tracking.pure (isVetted_singleton trivial)
  | assert =>
      cases arguments with
      | nil => exact tracking.holds_complaint rfl
      | cons condition others =>
          unfold callBuiltin
          dsimp only
          split
          · exact tracking.pure vetted
          · cases others with
            | nil => exact tracking.holds_complaint rfl
            | cons message _ => exact tracking.throw (isVetted_first (isVetted_tail vetted))
  | report =>
      exact tracking.bind (tracking.report vetted) fun _ _ => tracking.pure isVetted_nil

theorem holds_callWith (callable : Callable) {arguments : List Value}
    (vetted : IsVetted allowed arguments) : holds (callWith call callable arguments) := by
  cases callable with
  | closure id => exact tracking.holds_callClosure calls id vetted
  | builtin builtin => exact tracking.holds_callBuiltin calls builtin vetted
  | capability grant => exact tracking.callGrant calls grant vetted
  | standIn neutral => exact tracking.pure (isVetted_neutral neutral)

end Calls

/-- Calls nested to any depth have the property. -/
theorem holds_callAt (depth : Nat) (callable : Callable) {arguments : List Value}
    (vetted : IsVetted allowed arguments) :
    holds (callAt depth callable arguments : Run σ (List Value)) := by
  induction depth generalizing callable arguments with
  | zero => exact tracking.holds_complaint rfl
  -- The body of a call makes its own calls one level further down.
  | succ depth ih => exact tracking.holds_callWith ih callable vetted

theorem holds_call (callable : Callable) {arguments : List Value}
    (vetted : IsVetted allowed arguments) :
    holds (Run.call callable arguments : Run σ (List Value)) :=
  tracking.holds_callAt callLimit callable vetted

theorem holds_getIndex {table key : Value} (tableVetted : IsVetted allowed table)
    (keyVetted : IsVetted allowed key) : holds (Run.getIndex table key : Run σ Value) :=
  tracking.holds_readIndex (tracking.holds_callAt callLimit) _ tableVetted keyVetted

theorem holds_setIndex {table key value : Value} (tableVetted : IsVetted allowed table)
    (keyVetted : IsVetted allowed key) (vetted : IsVetted allowed value) :
    holds (Run.setIndex table key value : Run σ Unit) :=
  tracking.holds_writeIndex (tracking.holds_callAt callLimit) _ tableVetted keyVetted vetted

theorem holds_chunk (chunk : Chunk) {arguments : List Value}
    (vetted : IsVetted allowed arguments) :
    holds (Run.chunk chunk arguments : Run σ (List Value)) :=
  tracking.bind (tracking.holds_evalBlock (tracking.holds_callAt callLimit) vetted _)
    fun _ flowVetted => tracking.pure flowVetted

end Tracking

end ScriptedRobot.Script
