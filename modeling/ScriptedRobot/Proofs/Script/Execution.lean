import ScriptedRobot.Proofs.Script.Attribution

/-! # Execution step by step

How single expressions and statements run, given how their parts do. With these a known script is
followed on a machine that is not known. -/

namespace ScriptedRobot.Script.Run

variable {σ : Type} {call : Call σ} {scope : Scope} {machine middle after : Machine σ}

/-! ## Expressions -/

/-- Where there is one value, it is the single one. -/
theorem start_one {step : Run σ (List Value)} {value : Value}
    (ran : step.start machine = (.ok [value], after)) :
    (one step).start machine = (.ok value, after) := by
  rw [one, start_map, ran]
  rfl

theorem start_text (text : String) :
    (evalExpr call scope (.text text)).start machine = (.ok [.text text], machine) := by
  rw [Expr.text, evalExpr]
  rfl

theorem start_integer (value : Int64) :
    (evalExpr call scope (.integer value)).start machine = (.ok [.integer value], machine) := by
  rw [Expr.integer, evalExpr]
  rfl

theorem start_number (value : Float) :
    (evalExpr call scope (.number value)).start machine = (.ok [.number value], machine) := by
  rw [Expr.number, evalExpr]
  rfl

theorem start_boolean (value : Bool) :
    (evalExpr call scope (.boolean value)).start machine = (.ok [.boolean value], machine) := by
  rw [Expr.boolean, evalExpr]
  rfl

theorem start_global (name : String) : (evalExpr call scope (.global name)).start machine =
    (.ok [(machine.store.table Store.globalsId).get (.text name)], machine) := by
  rw [evalExpr]
  rfl

theorem start_variable {name : String} {cell : Nat} {value : Value}
    (named : scope.cell? name = some cell) (holds : machine.store.cells[cell]? = some value) :
    (evalExpr call scope (.variable name)).start machine = (.ok [value], machine) := by
  rw [evalExpr, named]
  dsimp only
  rw [start_bind, start_readStore]
  dsimp only
  rw [Store.cell, Array.getD_eq_getD_getElem?, holds]
  rfl

theorem start_index {object key : Expr} {objectValue keyValue : Value}
    (first : (evalExpr call scope object).start machine = (.ok [objectValue], middle))
    (second : (evalExpr call scope key).start middle = (.ok [keyValue], after)) :
    (evalExpr call scope (.index object key)).start machine =
      ((fun value => [value]) <$> readIndex call handlerLimit
        ⟨objectValue, object.description scope⟩ keyValue).start after := by
  rw [evalExpr, start_bind, start_one first]
  dsimp only
  rw [start_bind, start_one second, map_eq_pure_bind]

/-- A field that is present is read without asking a handler. -/
theorem start_field_of_present {object : Expr} {name : String} {id : Nat} {value : Value}
    (objectIs : (evalExpr call scope object).start machine = (.ok [.table id], after))
    (entry : (after.store.table id).get (.text name) = value) (present : value ≠ .nil) :
    (evalExpr call scope (object.field name)).start machine = (.ok [value], after) := by
  rw [Expr.field, start_index objectIs (start_text name), start_map, handlerLimit,
    start_readIndex_of_present entry present]
  rfl

/-- Without a handler the entry of a field is read as it is. -/
theorem start_field {object : Expr} {id : Nat}
    (objectIs : (evalExpr call scope object).start machine = (.ok [.table id], after))
    (unguarded : (after.store.table id).readHandler = .nil) (name : String) :
    (evalExpr call scope (object.field name)).start machine =
      (.ok [(after.store.table id).get (.text name)], after) := by
  rw [Expr.field, start_index objectIs (start_text name), start_map, handlerLimit,
    start_readIndex unguarded]
  rfl

theorem start_binary {operator : BinaryOperator} {left right : Expr} {leftValue rightValue : Value}
    (first : (evalExpr call scope left).start machine = (.ok [leftValue], middle))
    (second : (evalExpr call scope right).start middle = (.ok [rightValue], after)) :
    (evalExpr call scope (.binary operator left right)).start machine =
      ((operator.apply ⟨leftValue, left.description scope⟩
        ⟨rightValue, right.description scope⟩).map fun value => [value], after) := by
  rw [evalExpr, start_bind, start_one first]
  dsimp only
  rw [start_bind, start_one second]
  dsimp only
  rw [start_bind, start_liftExcept]
  generalize operator.apply _ _ = outcome
  cases outcome <;> rfl

theorem start_unary {operator : UnaryOperator} {operand : Expr} {value : Value}
    (evaluated : (evalExpr call scope operand).start machine = (.ok [value], after)) :
    (evalExpr call scope (.unary operator operand)).start machine =
      ((operator.apply ⟨value, operand.description scope⟩).map fun value => [value], after) := by
  rw [evalExpr, start_bind, start_one evaluated]
  dsimp only
  rw [start_bind, start_liftExcept]
  generalize operator.apply _ = outcome
  cases outcome <;> rfl

/-- The second operand matters only if the first one holds. -/
theorem start_conjunction {left right : Expr} {value : Value}
    (first : (evalExpr call scope left).start machine = (.ok [value], after)) :
    (evalExpr call scope (.conjunction left right)).start machine =
      if value.isTruthy then
        ((fun value => [value]) <$> one (evalExpr call scope right)).start after
      else (.ok [value], after) := by
  rw [evalExpr, start_bind, start_one first, map_eq_pure_bind]
  dsimp only
  split <;> rfl

/-- The second operand matters only if the first one does not hold. -/
theorem start_disjunction {left right : Expr} {value : Value}
    (first : (evalExpr call scope left).start machine = (.ok [value], after)) :
    (evalExpr call scope (.disjunction left right)).start machine =
      if value.isTruthy then (.ok [value], after)
      else ((fun value => [value]) <$> one (evalExpr call scope right)).start after := by
  rw [evalExpr, start_bind, start_one first, map_eq_pure_bind]
  dsimp only
  split <;> rfl

theorem start_function (parameters : List String) (body : List Stmt) :
    (evalExpr call scope (.function parameters body)).start machine =
      (.ok [.function (.closure machine.store.closures.size)],
        { machine with
          store := (machine.store.newClosure ⟨parameters, body, scope.visible⟩).2 }) := by
  rw [evalExpr]
  rfl

theorem start_evalArguments_error {expression : Expr} {rest : List Expr} {raised : Value}
    (raises : (evalExpr call scope expression).start machine = (.error raised, after)) :
    (evalArguments call scope (expression :: rest)).start machine = (.error raised, after) := by
  rw [evalArguments, start_bind, raises]

/-! ## Statements -/

theorem start_declare {names : List String} {expressions : List Expr} {values : List Value}
    {own : List (String × Nat)} (rest : List Stmt)
    (evaluated : (evalArguments call scope expressions).start machine = (.ok values, middle))
    (declared : (declareAll names values).start middle = (.ok own, after)) :
    (evalBlock call scope (.declare names expressions :: rest)).start machine =
      (evalBlock call { scope with own := own ++ scope.own } rest).start after := by
  rw [evalBlock, start_bind, evaluated]
  dsimp only
  rw [start_bind, declared]

theorem start_declare_error {names : List String} {expressions : List Expr} {raised : Value}
    (rest : List Stmt)
    (raises : (evalArguments call scope expressions).start machine = (.error raised, after)) :
    (evalBlock call scope (.declare names expressions :: rest)).start machine =
      (.error raised, after) := by
  rw [evalBlock, start_bind, raises]

/-- A block goes on where a statement that declares nothing ends. -/
theorem start_block {statement : Stmt} (rest : List Stmt)
    (other : ∀ names values, statement ≠ .declare names values) :
    (evalBlock call scope (statement :: rest)).start machine =
      match (evalStmt call scope statement).start machine with
      | (.ok .next, between) => (evalBlock call scope rest).start between
      | (.ok (.returned values), between) => (.ok (.returned values), between)
      | (.error raised, between) => (.error raised, between) := by
  rw [evalBlock, start_bind]
  · rcases (evalStmt call scope statement).start machine with ⟨_ | _ | _, _⟩ <;> rfl
  · exact other

theorem start_block_next {statement : Stmt} (rest : List Stmt)
    (other : ∀ names values, statement ≠ .declare names values)
    (ran : (evalStmt call scope statement).start machine = (.ok .next, after)) :
    (evalBlock call scope (statement :: rest)).start machine =
      (evalBlock call scope rest).start after := by
  rw [start_block rest other, ran]

theorem start_branch {condition : Expr} {value : Value} (positive negative : List Stmt)
    (evaluated : (evalExpr call scope condition).start machine = (.ok [value], after)) :
    (evalStmt call scope (.branch condition positive negative)).start machine =
      (evalBlock call scope (if value.isTruthy then positive else negative)).start after := by
  rw [evalStmt, start_bind, start_one evaluated]
  dsimp only
  split <;> rfl

theorem start_returned {expressions : List Expr} {values : List Value}
    (evaluated : (evalArguments call scope expressions).start machine = (.ok values, after)) :
    (evalStmt call scope (.returned expressions)).start machine =
      (.ok (.returned values), after) := by
  rw [evalStmt, start_bind, evaluated]
  rfl

/-- A block ends where it returns. -/
theorem start_block_returned {expressions : List Expr} {values : List Value} (rest : List Stmt)
    (evaluated : (evalArguments call scope expressions).start machine = (.ok values, after)) :
    (evalBlock call scope (.returned expressions :: rest)).start machine =
      (.ok (.returned values), after) := by
  rw [start_block, start_returned evaluated]
  nofun

theorem start_setVariable {name : String} {cell : Nat} {expression : Expr} {value : Value}
    (named : scope.cell? name = some cell)
    (evaluated : (evalExpr call scope expression).start machine = (.ok [value], after)) :
    (evalStmt call scope (.setVariable name expression)).start machine =
      (.ok .next, { after with store := after.store.setCell cell value }) := by
  rw [evalStmt, start_bind, start_one evaluated]
  dsimp only
  rw [named]
  rfl

theorem start_setEntry {object expression : Expr} {name : String} {id : Nat} {value : Value}
    (objectIs : (evalExpr call scope object).start machine = (.ok [.table id], machine))
    (evaluated : (evalExpr call scope expression).start machine = (.ok [value], after))
    (unguarded : (after.store.table id).writeHandler = .nil) :
    (evalStmt call scope (.setIndex object (.text name) expression)).start machine =
      (.ok .next, { after with
        store := after.store.modifyTable id fun table => table.set (.text name) value }) := by
  have written := start_writeIndex unguarded call 1999 (object.description scope) name value
  rw [evalStmt, start_bind, start_one objectIs]
  dsimp only
  rw [start_bind, start_one (start_text name)]
  dsimp only
  rw [start_bind, start_one evaluated]
  dsimp only
  rw [start_bind, handlerLimit, written]
  rfl

theorem start_forEntries {key value : String} {table : Expr} {body : List Stmt} {tableValue : Value}
    (evaluated : (evalExpr call scope table).start machine = (.ok [tableValue], after)) :
    (evalStmt call scope (.forEntries key value table body)).start machine =
      (entriesOf tableValue >>= entriesFlow fun keyValue entryValue => do
        let names ← declareAll [key, value] [keyValue, entryValue]
        evalBlock call { scope with own := names ++ scope.own } body).start after := by
  rw [evalStmt, start_bind, start_one evaluated]

/-! ## Statements that are passed -/

/-- The statements run to their end: what follows them in a block is run in the scope and on the
machine that they lead to. -/
def Passes (call : Call σ) (body : List Stmt) (scope : Scope) (machine : Machine σ)
    (inner : Scope) (after : Machine σ) : Prop :=
  ∀ rest, (evalBlock call scope (body ++ rest)).start machine =
    (evalBlock call inner rest).start after

namespace Passes

variable {body later : List Stmt} {inner last : Scope}

theorem nil : Passes call [] scope machine scope machine :=
  fun _ => rfl

theorem append (first : Passes call body scope machine inner middle)
    (second : Passes call later inner middle last after) :
    Passes call (body ++ later) scope machine last after := by
  intro rest
  rw [List.append_assoc, first, second]

theorem cons {statement : Stmt} (first : Passes call [statement] scope machine inner middle)
    (second : Passes call later inner middle last after) :
    Passes call (statement :: later) scope machine last after :=
  first.append second

theorem statement {statement : Stmt}
    (other : ∀ names values, statement ≠ .declare names values)
    (ran : (evalStmt call scope statement).start machine = (.ok .next, after)) :
    Passes call [statement] scope machine scope after :=
  fun rest => start_block_next rest other ran

theorem declare {names : List String} {expressions : List Expr} {values : List Value}
    {own : List (String × Nat)}
    (evaluated : (evalArguments call scope expressions).start machine = (.ok values, middle))
    (declared : (declareAll names values).start middle = (.ok own, after)) :
    Passes call [.declare names expressions] scope machine { scope with own := own ++ scope.own }
      after :=
  fun rest => start_declare rest evaluated declared

/-- A block that is passed ends where it does. -/
theorem start_evalBlock (passes : Passes call body scope machine inner after) :
    (evalBlock call scope body).start machine = (.ok .next, after) := by
  have ended := passes []
  rw [List.append_nil] at ended
  rw [ended, evalBlock]
  rfl

theorem setVariable {name : String} {cell : Nat} {expression : Expr} {value : Value}
    (named : scope.cell? name = some cell)
    (evaluated : (evalExpr call scope expression).start machine = (.ok [value], after)) :
    Passes call [.setVariable name expression] scope machine scope
      { after with store := after.store.setCell cell value } :=
  .statement nofun (start_setVariable named evaluated)

/-- A branch is passed if the block is passed that is chosen. -/
theorem branch {condition : Expr} {value : Value} {positive negative : List Stmt}
    (evaluated : (evalExpr call scope condition).start machine = (.ok [value], middle))
    (passes : Passes call (if value.isTruthy then positive else negative) scope middle inner
      after) : Passes call [.branch condition positive negative] scope machine scope after := by
  refine .statement nofun ?_
  rw [start_branch positive negative evaluated, passes.start_evalBlock]

end Passes

end ScriptedRobot.Script.Run
