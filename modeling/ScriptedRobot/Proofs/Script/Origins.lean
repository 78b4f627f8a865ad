import ScriptedRobot.Lifecycle.ScriptError
import ScriptedRobot.Proofs.Script.Vetting
import ScriptedRobot.Script.Steps

/-! # Where errors come from

A *body* calls functions of the host, raises values, repeats bodies, and runs bodies protected;
what it does about an error that it caught may be to raise that again. `Ends` follows an error from
where it was raised first, through all that becomes of it, to the end of a body. -/

namespace ScriptedRobot.Script

/-! ## Origins -/

/-- The failure with a cause, wrapped a number of times. -/
def Failure.wrapped (cause : String) : Nat → Failure
  | 0 => .cause cause
  | layers + 1 => .within (wrapped cause layers)

@[simp] theorem Failure.rootMessage_wrapped (cause : String) (layers : Nat) :
    (Failure.wrapped cause layers).rootMessage = cause := by
  induction layers with
  | zero => rfl
  | succ layers ih => exact ih

/-- Where an error was raised first. -/
inductive Origin where
  /-- The script raised a value of its own. -/
  | script (raised : Value) (plain : raised.isNative = false)
  /-- The language complained. -/
  | language (complaint : String)
  /-- A function of the host failed, and other functions of the host failed because of that. -/
  | host (cause : String) (layers : Nat)

namespace Origin

/-- What is raised. -/
def value : Origin → Value
  | .script raised _ => raised
  | .language complaint => .text complaint
  | .host cause layers => .failure (.wrapped cause layers)

/-- Whether the error was raised by a function of the host. -/
def IsHost : Origin → Prop
  | .host _ _ => True
  | _ => False

/-- What is to be reported. -/
def error : Origin → ScriptError
  | .host cause _ => ⟨.native, cause⟩
  | origin => ⟨.runtime, "runtime error: " ++ origin.value.display⟩

/-- A function of the host fails because the function fails that it calls. -/
def throughHost : Origin → Origin
  | .host cause layers => .host cause (layers + 1)
  | origin => .host ("runtime error: " ++ origin.value.display) 1

/-- Raising is a call, too: nested too deep, it is the language that complains. -/
def atDepth (origin : Origin) : Nat → Origin
  | 0 => .language "stack overflow"
  | _ + 1 => origin

theorem wrap_of_plain {value : Value} (plain : value.isNative = false) :
    Failure.wrap value = .within (.cause ("runtime error: " ++ value.display)) := by
  cases value with
  | failure _ => cases plain
  | nil | boolean _ | integer _ | number _ | text _ | bytes _ | table _ | function _ => rfl

theorem value_throughHost (origin : Origin) :
    origin.throughHost.value = .failure (.wrap origin.value) := by
  cases origin with
  | host _ _ => rfl
  | language _ => rfl
  | script _ plain => exact congrArg Value.failure (wrap_of_plain plain).symm

theorem kind_error (origin : Origin) : origin.error.kind = .native ↔ origin.IsHost := by
  cases origin with
  | host _ _ => exact iff_of_true rfl trivial
  | script _ _ | language _ => exact iff_of_false nofun id

end Origin

/-! ## Bodies -/

/-- Where a function of the host is found. -/
inductive Callee where
  /-- In a module. -/
  | symbol (module name : String)
  /-- Where it was kept for later. -/
  | held (name : String)

/-- The place of a function. -/
def Callee.expression : Callee → Expr
  | .symbol module name => Steps.symbol module name
  | .held name => Steps.held name

mutual

/-- A step of a body. -/
inductive Step where
  /-- Call a function of the host. -/
  | call (callee : Callee) (arguments : List Argument)
  | raise (value : Argument)
  /-- Run a body protected, and another one if it raised. -/
  | protect (body handler : List Step)
  /-- Raise the error that was caught last again. -/
  | raiseAgain
  | repeated (count : Nat) (body : List Step)

/-- What a function of the host is called with, and what is raised. -/
inductive Argument where
  | constant (value : Literal)
  /-- A table of its own. -/
  | table
  | function (body : List Step)

end

mutual

/-- A step as a statement. -/
def Step.statement : Step → Stmt
  | .call callee arguments =>
    .evaluate (.call callee.expression (Argument.expressions arguments))
  | .raise value => .evaluate (Expr.raise value.expression)
  | .protect body handler => .block [
    .declare ["success", "raised"] [Steps.protectedRun (Step.statements body)],
    .branch (.variable "success") [] (Step.statements handler)]
  | .raiseAgain => .evaluate (Expr.raise (.variable "raised"))
  | .repeated count body => .repeated count (Step.statements body)

/-- A body as statements. -/
def Step.statements : List Step → List Stmt
  | [] => []
  | step :: rest => step.statement :: Step.statements rest

/-- An argument as an expression. -/
def Argument.expression : Argument → Expr
  | .constant value => .literal value
  | .table => .table []
  | .function body => .function [] (Step.statements body)

/-- Arguments as expressions. -/
def Argument.expressions : List Argument → List Expr
  | [] => []
  | argument :: rest => argument.expression :: Argument.expressions rest

end

/-! ## Ends of bodies -/

/-- A machine, and the variables that hold caught errors, each with the origin of its error. -/
structure Tracked (σ : Type) where
  machine : Machine σ
  caught : List (Nat × Origin) := []

namespace Tracked

variable {σ : Type} (state : Tracked σ)

/-- Where the next variable goes. -/
def nextCell : Nat := state.machine.store.cells.size

/-- The next function. -/
def nextFunction : Callable := .closure state.machine.store.closures.size

/-- A body becomes a function. -/
def withFunction (scope : Scope) (body : List Step) : Tracked σ :=
  { state with machine := { state.machine with
      store := (state.machine.store.newClosure ⟨[], Step.statements body, scope.visible⟩).2 } }

/-- An argument may be something new. -/
def withArgument (scope : Scope) : Argument → Tracked σ
  | .constant _ => state
  | .table => { state with machine := { state.machine with
      store := (state.machine.store.newTable {}).2 } }
  | .function body => state.withFunction scope body

/-- The value of an argument. -/
def argument : Argument → Value
  | .constant value => value.value
  | .table => .table state.machine.store.tables.size
  | .function _ => .function state.nextFunction

theorem plain_argument (argument : Argument) : (state.argument argument).isNative = false := by
  cases argument with
  | constant value => exact plain_literal value
  | table | function _ => rfl

/-- The values of arguments, and the state when they have been made. -/
def arguments (scope : Scope) : Tracked σ → List Argument → List Value × Tracked σ
  | state, [] => ([], state)
  | state, argument :: rest =>
    let (values, after) := arguments scope (state.withArgument scope argument) rest
    (state.argument argument :: values, after)

/-- The outcome of a protected run is kept in two variables. -/
def withOutcome (outcome : Option Origin) : Tracked σ where
  machine := { state.machine with store := { state.machine.store with
    cells := (state.machine.store.cells.push (.boolean outcome.isNone)).push
      ((outcome.map Origin.value).getD .nil) } }
  caught := (outcome.map fun origin => (state.nextCell + 1, origin)).toList ++ state.caught

/-- The two variables are visible to what follows in the block. -/
def handling (scope : Scope) : Scope :=
  { scope with
    own := ("raised", state.nextCell + 1) :: ("success", state.nextCell) :: scope.own }

/-- A function of the host did something. -/
def performed (capability : Capability σ) (arguments : List Value) : Tracked σ :=
  { state with machine :=
      ((Run.perform capability.perform arguments).start state.machine).2 }

end Tracked

/-- What is run. -/
inductive Task where
  | body (scope : Scope) (steps : List Step)
  | step (scope : Scope) (step : Step)
  | call (callable : Callable) (arguments : List Value)
  /-- Read an entry of a value, with a limit on the handlers that may follow each other. -/
  | read (limit : Nat) (object : Operand) (name : String)

/-- A task ends without an error, or in one that has an origin. Looking up a function of the host
runs nothing, and nothing is called but functions of the host, what they leave behind, and bodies;
calls may be nested up to a depth. -/
inductive Ends {σ : Type} : Nat → Task → Tracked σ → Option Origin → Tracked σ → Prop where
  | done {depth : Nat} {scope : Scope} {state : Tracked σ} :
      Ends depth (.body scope []) state none state
  | next {depth : Nat} {scope : Scope} {step : Step} {rest : List Step}
      {state between after : Tracked σ} {outcome : Option Origin}
      (first : Ends depth (.step scope step) state none between)
      (others : Ends depth (.body scope rest) between outcome after) :
      Ends depth (.body scope (step :: rest)) state outcome after
  | stop {depth : Nat} {scope : Scope} {step : Step} {rest : List Step} {state after : Tracked σ}
      {origin : Origin} (first : Ends depth (.step scope step) state (some origin) after) :
      Ends depth (.body scope (step :: rest)) state (some origin) after
  | raise {depth : Nat} {scope : Scope} {value : Argument} {state : Tracked σ} :
      Ends depth (.step scope (.raise value)) state
        (some ((Origin.script (state.argument value) (state.plain_argument value)).atDepth depth))
        (state.withArgument scope value)
  | raiseAgain {depth : Nat} {scope : Scope} {state : Tracked σ} {cell : Nat} {origin : Origin}
      (visible : scope.cell? "raised" = some cell)
      (caught : state.caught.lookup cell = some origin) :
      Ends depth (.step scope .raiseAgain) state (some (origin.atDepth depth)) state
  | nothingCaught {depth : Nat} {scope : Scope} {state : Tracked σ}
      (absent : scope.cell? "raised" = none) :
      Ends depth (.step scope .raiseAgain) state (some ((Origin.script .nil rfl).atDepth depth))
        state
  | repeatedNever {depth : Nat} {scope : Scope} {body : List Step} {state : Tracked σ} :
      Ends depth (.step scope (.repeated 0 body)) state none state
  | repeatedAgain {depth count : Nat} {scope : Scope} {body : List Step}
      {state between after : Tracked σ} {outcome : Option Origin}
      (once : Ends depth (.body scope body) state none between)
      (again : Ends depth (.step scope (.repeated count body)) between outcome after) :
      Ends depth (.step scope (.repeated (count + 1) body)) state outcome after
  | repeatedUntil {depth count : Nat} {scope : Scope} {body : List Step} {state after : Tracked σ}
      {origin : Origin} (once : Ends depth (.body scope body) state (some origin) after) :
      Ends depth (.step scope (.repeated (count + 1) body)) state (some origin) after
  | unprotected {scope : Scope} {body handler : List Step} {state : Tracked σ} :
      Ends 0 (.step scope (.protect body handler)) state (some (.language "stack overflow"))
        (state.withFunction scope body)
  | unharmed {depth : Nat} {scope : Scope} {body handler : List Step} {state between : Tracked σ}
      (inside : Ends depth (.call state.nextFunction []) (state.withFunction scope body) none
        between) :
      Ends (depth + 1) (.step scope (.protect body handler)) state none (between.withOutcome none)
  | handled {depth : Nat} {scope : Scope} {body handler : List Step}
      {state between after : Tracked σ} {origin : Origin} {outcome : Option Origin}
      (inside : Ends depth (.call state.nextFunction []) (state.withFunction scope body)
        (some origin) between)
      (handles : Ends (depth + 1) (.body (between.handling scope) handler)
        (between.withOutcome (some origin)) outcome after) :
      Ends (depth + 1) (.step scope (.protect body handler)) state outcome after
  | notThere {depth : Nat} {scope : Scope} {callee : Callee} {complaint : String}
      {arguments : List Argument} {state : Tracked σ}
      (lookup : ∀ call, (evalExpr call scope callee.expression).start state.machine =
        (.error (.text complaint), state.machine)) :
      Ends depth (.step scope (.call callee arguments)) state (some (.language complaint))
        state
  | noFunction {depth : Nat} {scope : Scope} {callee : Callee} {complaint : String}
      {arguments : List Argument} {state : Tracked σ} {value : Value}
      (lookup : ∀ call, (evalExpr call scope callee.expression).start state.machine =
        (.ok [value], state.machine)) (other : ∀ callable, value ≠ .function callable)
      (told : Arithmetic.typeComplaint "call" ⟨value,
        callee.expression.description scope⟩ = .text complaint) :
      Ends depth (.step scope (.call callee arguments)) state (some (.language complaint))
        (state.arguments scope arguments).2
  | called {depth : Nat} {scope : Scope} {callee : Callee} {arguments : List Argument}
      {state after : Tracked σ} {callable : Callable} {outcome : Option Origin}
      (lookup : ∀ call, (evalExpr call scope callee.expression).start state.machine =
        (.ok [.function callable], state.machine))
      (ends : Ends depth (.call callable (state.arguments scope arguments).1)
        (state.arguments scope arguments).2 outcome after) :
      Ends depth (.step scope (.call callee arguments)) state outcome after
  | tooDeep {callable : Callable} {arguments : List Value} {state : Tracked σ} :
      Ends 0 (.call callable arguments) state (some (.language "stack overflow")) state
  | entered {depth id : Nat} {arguments : List Value} {parameters : List String} {body : List Step}
      {captured own : List (String × Nat)} {state after : Tracked σ} {started : Machine σ}
      {outcome : Option Origin}
      (isBody : state.machine.store.closures[id]? =
        some ⟨parameters, Step.statements body, captured⟩)
      (declared : (declareAll parameters arguments).start state.machine = (.ok own, started))
      (ends : Ends depth (.body ⟨own, captured, arguments.drop parameters.length⟩ body)
        ⟨started, state.caught⟩ outcome after) :
      Ends (depth + 1) (.call (.closure id) arguments) state outcome after
  | standIn {depth : Nat} {neutral : Neutral} {arguments : List Value} {state : Tracked σ} :
      Ends (depth + 1) (.call (.standIn neutral) arguments) state none state
  | inert {depth grant : Nat} {arguments : List Value} {state : Tracked σ}
      (off : state.machine.registry.isLiveGrant grant = false) :
      Ends (depth + 1) (.call (.capability grant) arguments) state none state
  | returned {depth grant : Nat} {entry : Capability.Grant σ} {arguments values : List Value}
      {state : Tracked σ} (there : state.machine.registry.grants[grant]? = some entry)
      (live : entry.live = true)
      (reply : (entry.capability.perform arguments state.machine.native).1 = .returns values) :
      Ends (depth + 1) (.call (.capability grant) arguments) state none
        (state.performed entry.capability arguments)
  | failed {depth grant : Nat} {entry : Capability.Grant σ} {arguments : List Value}
      {message : String} {state : Tracked σ}
      (there : state.machine.registry.grants[grant]? = some entry) (live : entry.live = true)
      (reply : (entry.capability.perform arguments state.machine.native).1 = .fails message) :
      Ends (depth + 1) (.call (.capability grant) arguments) state (some (.host message 0))
        (state.performed entry.capability arguments)
  | delegated {depth grant : Nat} {entry : Capability.Grant σ} {arguments : List Value}
      {callee : Callable} {state after : Tracked σ} {outcome : Option Origin}
      (there : state.machine.registry.grants[grant]? = some entry) (live : entry.live = true)
      (reply : (entry.capability.perform arguments state.machine.native).1 = .delegates callee)
      (ends : Ends depth (.call callee []) (state.performed entry.capability arguments) outcome
        after) :
      Ends (depth + 1) (.call (.capability grant) arguments) state
        (outcome.map Origin.throughHost) after
  | chainTooLong {depth : Nat} {object : Operand} {name : String} {state : Tracked σ} :
      Ends depth (.read 0 object name) state
        (some (.language "'__index' chain too long; possibly a loop")) state
  | refused {depth limit : Nat} {object : Operand} {name complaint : String} {state : Tracked σ}
      (other : ∀ call, (readIndex call (limit + 1) object (.text name)).start state.machine =
        (.error (.text complaint), state.machine)) :
      Ends depth (.read (limit + 1) object name) state (some (.language complaint)) state
  | silent {depth limit : Nat} {object : Operand} {name : String} {state : Tracked σ}
      {value : Value}
      (plain : ∀ call, (readIndex call (limit + 1) object (.text name)).start state.machine =
        (.ok value, state.machine)) :
      Ends depth (.read (limit + 1) object name) state none state
  | answered {depth limit id : Nat} {description name : String} {handler : Callable}
      {state after : Tracked σ} {outcome : Option Origin}
      (absent : (state.machine.store.table id).get (.text name) = .nil)
      (handles : (state.machine.store.table id).readHandler = .function handler)
      (ends : Ends depth (.call handler [.table id, .text name]) state outcome after) :
      Ends depth (.read (limit + 1) ⟨.table id, description⟩ name) state outcome after
  | passedOn {depth limit id : Nat} {description name : String} {handler : Value}
      {state after : Tracked σ} {outcome : Option Origin}
      (absent : (state.machine.store.table id).get (.text name) = .nil)
      (handles : (state.machine.store.table id).readHandler = handler)
      (there : handler ≠ .nil) (other : ∀ callable, handler ≠ .function callable)
      (ends : Ends depth (.read limit ⟨handler, ""⟩ name) state outcome after) :
      Ends depth (.read (limit + 1) ⟨.table id, description⟩ name) state outcome after

end ScriptedRobot.Script
