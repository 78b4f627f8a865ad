import ScriptedRobot.Script.Arithmetic
import ScriptedRobot.Script.Machine

/-! # Evaluation

Running scripts. Evaluation recurs on the syntax; only calls can recur without bound, and they
are nested at most `callLimit` deep, after which an error is raised as any other. So evaluation
always ends: `callAt` is the recursion on the depth that is left, and everything below it takes
the way to call a function as a parameter. -/

namespace ScriptedRobot.Script

/-- A way to call what can be called. -/
abbrev Call (σ : Type) : Type :=
  Callable → List Value → Run σ (List Value)

/-- How the statements of a block ended. -/
inductive Flow where
  | next
  | returned (values : List Value)

/-- How many handlers may follow each other in one access to a table. -/
def handlerLimit : Nat := 2000

/-- Where the value of an expression comes from, for errors. -/
def Expr.description (scope : Scope) : Expr → String
  | .global name => " (global '" ++ name ++ "')"
  | .index _ (.literal (.text name)) => " (field '" ++ name ++ "')"
  | .variable name =>
    if scope.isOwn name then " (local '" ++ name ++ "')" else " (upvalue '" ++ name ++ "')"
  | _ => ""

section Steps

variable {σ : Type}

/-- A single value of several. -/
def one (step : Run σ (List Value)) : Run σ Value :=
  Value.first <$> step

/-- Call a value. -/
def callValue (call : Call σ) (callee : Operand) (arguments : List Value) : Run σ (List Value) :=
  match callee.value with
  | .function callable => call callable arguments
  | _ => throw (Arithmetic.typeComplaint "call" callee)

/-- Read an entry. A handler answers for an absent one: a function by its result, anything else
by its own entry. -/
def readIndex (call : Call σ) : Nat → Operand → Value → Run σ Value
  | 0, _, _ => Run.fail "'__index' chain too long; possibly a loop"
  | limit + 1, object, key =>
    match object.value with
    | .table id => do
      let table ← Run.readStore fun store => store.table id
      match ((Key.ofValue? key).map table.get).getD .nil, table.readHandler with
      | .nil, .nil => return .nil
      | .nil, .function handler => one (call handler [.table id, key])
      | .nil, handler => readIndex call limit ⟨handler, ""⟩ key
      | value, _ => return value
    | .text _ | .bytes _ => return .nil
    | _ => throw (Arithmetic.typeComplaint "index" object)

/-- The key a value stands for; nil and the value that is not a number are refused. -/
def keyOf (value : Value) : Run σ Key :=
  match Key.ofValue? value with
  | some key => return key
  | none => Run.fail (if value.isNil then "table index is nil" else "table index is NaN")

/-- Write an entry of the table itself. -/
def rawWrite (id : Nat) (key value : Value) : Run σ Unit := do
  let key ← keyOf key
  Run.changeStore fun store => store.modifyTable id fun table => table.set key value

/-- Write an entry. A handler takes over what would add an entry. -/
def writeIndex (call : Call σ) : Nat → Operand → Value → Value → Run σ Unit
  | 0, _, _, _ => Run.fail "'__newindex' chain too long; possibly a loop"
  | limit + 1, object, key, value =>
    match object.value with
    | .table id => do
      let table ← Run.readStore fun store => store.table id
      match ((Key.ofValue? key).map table.get).getD .nil, table.writeHandler with
      | .nil, .function handler => discard (call handler [.table id, key, value])
      | .nil, .nil => rawWrite id key value
      | .nil, handler => writeIndex call limit ⟨handler, ""⟩ key value
      | _, _ => rawWrite id key value
    | _ => throw (Arithmetic.typeComplaint "index" object)

/-- A fresh table with alternating keys and values. Nil keys raise an error; nil values add no
entry. -/
def tableOf (table : Table) : List Value → Run σ Table
  | key :: value :: rest => do
    let key ← keyOf key
    tableOf (table.set key value) rest
  | _ => return table

/-- New variables for names; values that are missing are nil. -/
def declareAll : List String → List Value → Run σ (List (String × Nat))
  | [], _ => return []
  | name :: names, values => do
    let cell ← Run.newCell (Value.first values)
    return (← declareAll names values.tail) ++ [(name, cell)]

/-- Run a body a number of times, until it returns. -/
def repeatFlow (body : Run σ Flow) : Nat → Run σ Flow
  | 0 => return .next
  | count + 1 => do
    match ← body with
    | .next => repeatFlow body count
    | .returned values => return .returned values

/-- Run a body for every entry, until it returns. -/
def entriesFlow (body : Value → Value → Run σ Flow) : List (Key × Value) → Run σ Flow
  | [] => return .next
  | (key, value) :: rest => do
    match ← body key.value value with
    | .next => entriesFlow body rest
    | .returned values => return .returned values

/-- Give a table handlers for absent keys. -/
def setHandlers (table readHandler writeHandler : Value) : Run σ Unit :=
  match table with
  | .table id => Run.changeStore fun store =>
    store.modifyTable id fun table => { table with readHandler, writeHandler }
  | _ => return ()

/-- The entries of a table that is iterated over, without its handlers. -/
def entriesOf (value : Value) : Run σ (List (Key × Value)) :=
  match value with
  | .table id => Run.readStore fun store => (store.table id).entries
  | _ => Run.fail ("bad argument #1 to 'for iterator' (table expected, got " ++
      value.typeName ++ ")")

mutual

/-- The values of an expression. -/
def evalExpr (call : Call σ) (scope : Scope) : Expr → Run σ (List Value)
  | .literal literal => return [literal.value]
  | .builtin builtin => return [.function (.builtin builtin)]
  | .shared => return [.table Store.sharedId]
  | .global name => do
    return [← Run.readStore fun store => (store.table Store.globalsId).get (.text name)]
  | .variable name =>
    match scope.cell? name with
    | some cell => do return [← Run.readStore fun store => store.cell cell]
    | none => return [.nil]
  | .rest => return scope.rest
  | .index object key => do
    let objectValue ← one (evalExpr call scope object)
    let keyValue ← one (evalExpr call scope key)
    return [← readIndex call handlerLimit ⟨objectValue, object.description scope⟩ keyValue]
  | .call callee arguments => do
    let calleeValue ← one (evalExpr call scope callee)
    let values ← evalArguments call scope arguments
    callValue call ⟨calleeValue, callee.description scope⟩ values
  | .first expression => do
    return [← one (evalExpr call scope expression)]
  | .unary operator operand => do
    let value ← one (evalExpr call scope operand)
    return [← liftExcept (operator.apply ⟨value, operand.description scope⟩)]
  | .binary operator left right => do
    let leftValue ← one (evalExpr call scope left)
    let rightValue ← one (evalExpr call scope right)
    return [← liftExcept (operator.apply ⟨leftValue, left.description scope⟩
      ⟨rightValue, right.description scope⟩)]
  | .conjunction left right => do
    let value ← one (evalExpr call scope left)
    if value.isTruthy then return [← one (evalExpr call scope right)] else return [value]
  | .disjunction left right => do
    let value ← one (evalExpr call scope left)
    if value.isTruthy then return [value] else return [← one (evalExpr call scope right)]
  | .table items => do
    let table ← tableOf {} (← evalSingles call scope items)
    return [← Run.newTable table]
  | .withHandlers table readHandler writeHandler => do
    let tableValue ← one (evalExpr call scope table)
    let readValue ← one (evalExpr call scope readHandler)
    let writeValue ← one (evalExpr call scope writeHandler)
    setHandlers tableValue readValue writeValue
    return [tableValue]
  | .function parameters body => do
    return [← Run.newClosure ⟨parameters, body, scope.visible⟩]

/-- The values of arguments; the last one may yield several. -/
def evalArguments (call : Call σ) (scope : Scope) : List Expr → Run σ (List Value)
  | [] => return []
  | expression :: rest => do
    let values ← evalExpr call scope expression
    match rest with
    | [] => return values
    | _ => return Value.first values :: (← evalArguments call scope rest)

/-- One value for each expression. -/
def evalSingles (call : Call σ) (scope : Scope) : List Expr → Run σ (List Value)
  | [] => return []
  | expression :: rest => do
    let value ← one (evalExpr call scope expression)
    return value :: (← evalSingles call scope rest)

/-- Run a statement. -/
def evalStmt (call : Call σ) (scope : Scope) : Stmt → Run σ Flow
  | .declare _ values => do
    let _ ← evalArguments call scope values
    return .next
  | .setVariable name value => do
    let value ← one (evalExpr call scope value)
    match scope.cell? name with
    | some cell => Run.changeStore fun store => store.setCell cell value
    | none => pure ()
    return .next
  | .setGlobal name value => do
    let value ← one (evalExpr call scope value)
    Run.changeStore fun store =>
      store.modifyTable Store.globalsId fun table => table.set (.text name) value
    return .next
  | .setIndex object key value => do
    let objectValue ← one (evalExpr call scope object)
    let keyValue ← one (evalExpr call scope key)
    let newValue ← one (evalExpr call scope value)
    writeIndex call handlerLimit ⟨objectValue, object.description scope⟩ keyValue newValue
    return .next
  | .evaluate expression => do
    let _ ← evalExpr call scope expression
    return .next
  | .branch condition positive negative => do
    let value ← one (evalExpr call scope condition)
    if value.isTruthy then evalBlock call scope positive else evalBlock call scope negative
  | .block body => evalBlock call scope body
  | .repeated count body => repeatFlow (evalBlock call scope body) count
  | .forEntries key value table body => do
    let tableValue ← one (evalExpr call scope table)
    let entries ← entriesOf tableValue
    entriesFlow (fun keyValue entryValue => do
      let names ← declareAll [key, value] [keyValue, entryValue]
      evalBlock call { scope with own := names ++ scope.own } body) entries
  | .returned values => do
    return .returned (← evalArguments call scope values)

/-- Run the statements of a block, up to the first one that returns. -/
def evalBlock (call : Call σ) (scope : Scope) : List Stmt → Run σ Flow
  | [] => return .next
  | .declare names values :: rest => do
    let values ← evalArguments call scope values
    let declared ← declareAll names values
    evalBlock call { scope with own := declared ++ scope.own } rest
  | statement :: rest => do
    match ← evalStmt call scope statement with
    | .next => evalBlock call scope rest
    | .returned values => return .returned values

end

/-- What a function returns when its statements end. -/
def Flow.values : Flow → List Value
  | .next => []
  | .returned values => values

/-- Call a function written in a script. -/
def callClosure (call : Call σ) (id : Nat) (arguments : List Value) : Run σ (List Value) := do
  let closure ← Run.readStore fun store => store.closures.getD id default
  let own ← declareAll closure.parameters arguments
  let scope : Scope :=
    { own, captured := closure.captured, rest := arguments.drop closure.parameters.length }
  return (← evalBlock call scope closure.body).values

/-- Call a function of the language. -/
def callBuiltin (call : Call σ) (builtin : Builtin) (arguments : List Value) :
    Run σ (List Value) :=
  match builtin with
  | .error => throw (Value.first arguments)
  | .protectedCall =>
    tryCatch
      (do return .boolean true :: (← callValue call ⟨Value.first arguments, ""⟩ arguments.tail))
      (fun raised => return [.boolean false, raised])
  | .type => return [.text (Value.first arguments).typeName]
  | .assert =>
    match arguments with
    | [] => Run.fail "bad argument #1 to 'assert' (value expected)"
    | condition :: rest =>
      if condition.isTruthy then return arguments
      else throw (match rest with
        | [] => .text "assertion failed!"
        | message :: _ => message)
  | .report => do
    Run.report arguments
    return []

/-- Call a function of the host. A grant that is no longer live answers its neutral value. -/
def callGrant (call : Call σ) (id : Nat) (arguments : List Value) : Run σ (List Value) := do
  match (← get).registry.grants[id]? with
  | none => return []
  | some grant =>
    if grant.live then
      match ← Run.perform grant.capability.perform arguments with
      | .returns values => return values
      | .fails message => throw (.failure (.cause message))
      | .delegates callee =>
        tryCatch (call callee []) fun raised => throw (.failure (Failure.wrap raised))
    else return grant.capability.neutral.values

/-- Call anything, given a way to make the calls that follow from it. -/
def callWith (call : Call σ) (callable : Callable) (arguments : List Value) :
    Run σ (List Value) :=
  match callable with
  | .closure id => callClosure call id arguments
  | .builtin builtin => callBuiltin call builtin arguments
  | .capability grant => callGrant call grant arguments
  | .standIn neutral => return neutral.values

/-- Call anything with a bound on the depth of nested calls. -/
def callAt : Nat → Call σ
  | 0 => fun _ _ => Run.fail "stack overflow"
  | depth + 1 => callWith (callAt depth)

end Steps

/-- How deep calls may be nested, whatever is called. -/
def callLimit : Nat := 200

namespace Run

variable {σ : Type}

/-- Call a function. -/
def call (callable : Callable) (arguments : List Value) : Run σ (List Value) :=
  callAt callLimit callable arguments

/-- Read an entry of a table, handlers included. -/
def getIndex (table key : Value) : Run σ Value :=
  readIndex (callAt callLimit) handlerLimit ⟨table, ""⟩ key

/-- Write an entry of a table, handlers included. -/
def setIndex (table key value : Value) : Run σ Unit :=
  writeIndex (callAt callLimit) handlerLimit ⟨table, ""⟩ key value

/-- The value of a global name, without handlers of the table of globals. -/
def getGlobal (name : String) : Run σ Value :=
  readStore fun store => (store.table Store.globalsId).get (.text name)

/-- Set a global name, without handlers of the table of globals. -/
def setGlobal (name : String) (value : Value) : Run σ Unit :=
  changeStore fun store =>
    store.modifyTable Store.globalsId fun table => table.set (.text name) value

/-- Run a chunk with arguments: the values it returns. -/
def chunk (chunk : Chunk) (arguments : List Value) : Run σ (List Value) := do
  return (← evalBlock (callAt callLimit) { rest := arguments } chunk).values

end Run

end ScriptedRobot.Script
