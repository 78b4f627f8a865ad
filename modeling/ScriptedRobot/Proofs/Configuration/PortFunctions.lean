import ScriptedRobot.Proofs.Configuration.Deployment
import ScriptedRobot.Proofs.Configuration.Integers

/-! # The functions for ports

The deployed configuration looks its ports up and counts them with functions of its own, written in
the scripting language. Where the handlers of the ports are tables, or raise, the one answers the
port that is read under a symbol (`IsDeployed.exists_call_port`); the other goes through the entries
and answers their number (`IsDeployed.exists_call_portCount`). -/

namespace ScriptedRobot.Deployed

open Configuration.Global (noPort portOf)
open Script
open Script.Run

variable {σ : Type} {module : Nat} {machine : Machine σ} {tables : Nat → Table} {name : String}

/-! ## Reading through handlers -/

/-- From a value, handlers of tables lead to another one. -/
inductive Leads (tables : Nat → Table) (value : Value) : Value → Prop where
  | refl : Leads tables value value
  | handler {id : Nat} (reaches : Leads tables value (.table id)) :
      Leads tables value (tables id).readHandler

theorem Leads.of_handler {id : Nat} {value : Value}
    (leads : Leads tables (tables id).readHandler value) : Leads tables (.table id) value := by
  induction leads with
  | refl => exact .handler .refl
  | handler _ ih => exact .handler ih

theorem Leads.of_unguarded {id : Nat} {reached : Value}
    (leads : Leads tables (.table id) reached) (unguarded : (tables id).readHandler = .nil) :
    reached = .table id ∨ reached = .nil := by
  induction leads with
  | refl => exact .inl rfl
  | handler _ ih =>
      rcases ih with same | other
      · cases same
        exact .inr unguarded
      · cases other

/-- What is read under a name where functions that are handlers raise. -/
def readThrough (tables : Nat → Table) (name : String) : Nat → Value → Option Value
  | 0, _ => none
  | limit + 1, .table id =>
    match (tables id).get (.text name), (tables id).readHandler with
    | .nil, .nil => some .nil
    | .nil, .function _ => none
    | .nil, handler => readThrough tables name limit handler
    | value, _ => some value
  | _ + 1, .text _ | _ + 1, .bytes _ => some .nil
  | _ + 1, _ => none

/-- A call that raises, whatever table it is asked for. -/
def RaisesFor (call : Call σ) (name : String) (machine : Machine σ) (handler : Callable) : Prop :=
  ∀ id, ∃ raised after,
    (call handler [.table id, .text name]).start machine = (.error raised, after)

theorem start_readIndex_through (call : Call σ) (limit : Nat) (value : Value)
    (description : String)
    (raises : ∀ handler, Leads machine.store.table value (.function handler) →
      RaisesFor call name machine handler) :
    match readThrough machine.store.table name limit value with
    | some found => (readIndex call limit ⟨value, description⟩ (.text name)).start machine =
        (.ok found, machine)
    | none => ∃ raised after,
        (readIndex call limit ⟨value, description⟩ (.text name)).start machine =
          (.error raised, after) := by
  induction limit generalizing value description with
  | zero => exact ⟨_, _, rfl⟩
  | succ limit ih =>
      cases value with
      | table id =>
          unfold readIndex readThrough
          dsimp only
          rw [start_bind, start_readStore]
          dsimp only [Key.ofValue?, Option.map_some, Option.getD_some]
          cases (machine.store.table id).get (.text name) with
          | nil =>
              cases handles : (machine.store.table id).readHandler with
              | nil => rfl
              | function handler =>
                  have leads : Leads machine.store.table (.table id) (.function handler) :=
                    handles ▸ .handler .refl
                  obtain ⟨raised, after, called⟩ := raises handler leads id
                  refine ⟨raised, after, ?_⟩
                  dsimp only
                  rw [one, start_map, called]
                  rfl
              | boolean _ | integer _ | number _ | text _ | bytes _ | table _ | failure _ =>
                  exact ih _ "" fun handler leads => raises handler (handles ▸ leads).of_handler
          | boolean _ | integer _ | number _ | text _ | bytes _ | table _ | function _
          | failure _ => rfl
      | text _ | bytes _ => rfl
      | nil | boolean _ | integer _ | number _ | function _ | failure _ => exact ⟨_, _, rfl⟩

theorem readThrough_of_unguarded {id : Nat} (unguarded : (tables id).readHandler = .nil)
    (limit : Nat) : readThrough tables name (limit + 1) (.table id) =
      some ((tables id).get (.text name)) := by
  unfold readThrough
  rw [unguarded]
  cases (tables id).get (.text name) <;> rfl

/-- The port that is read under a name. -/
def portThrough (tables : Nat → Table) (name : String) (limit : Nat) (value : Value) : Int32 :=
  ((readThrough tables name limit value).map portOf).getD noPort

/-- The value that is stored as the ports. -/
def portsOf (module : Nat) (machine : Machine σ) : Value :=
  (machine.store.table module).get (.text "ports")

/-! ## The functions -/

/-- The machine with one more variable. -/
def addCell (value : Value) (machine : Machine σ) : Machine σ :=
  { machine with store := (machine.store.newCell value).2 }

theorem cell_addCell (value : Value) (machine : Machine σ) :
    (addCell value machine).store.cells[machine.store.cells.size]? = some value :=
  Array.getElem?_push_size

theorem cell_addCell_of_some {cell : Nat} {value : Value}
    (there : machine.store.cells[cell]? = some value) (added : Value) :
    (addCell added machine).store.cells[cell]? = some value :=
  getElem?_push_of_some there added

section Functions

variable (call : Call σ) {scope : Scope} {cell : Nat}

/-- A function of the module sees the ports of the module. -/
theorem start_ports (named : scope.cell? descriptorName = some cell)
    (refers : machine.store.cells[cell]? = some (.table module))
    (unguarded : (machine.store.table module).readHandler = .nil) :
    (evalExpr call scope (descriptor.field "ports")).start machine =
      (.ok [portsOf module machine], machine) := by
  rw [Expr.field, descriptor, start_index (start_variable named refers) (start_text "ports"),
    start_map, handlerLimit, start_readIndex unguarded]
  rfl

/-- A value that is no number is replaced. -/
def numberOr (value : Value) : Value :=
  if value.typeName = "number" then value else .integer (-1)

theorem portOf_numberOr (value : Value) : portOf (numberOr value) = portOf value := by
  unfold numberOr
  split
  case isTrue => rfl
  case isFalse other =>
    cases value with
    | integer _ | number _ => exact absurd rfl other
    | nil | boolean _ | text _ | bytes _ | table _ | function _ | failure _ => rfl

/-- The body of the function for ports once it has read a value. -/
theorem start_portBody (depth : Nat) {value : Value}
    (named : scope.cell? "value" = some cell)
    (holds : machine.store.cells[cell]? = some value)
    (type : (machine.store.table Store.globalsId).get (.text "type") = .function (.builtin .type)) :
    (evalBlock (callAt (depth + 1)) scope [
      .branch (.binary .equal (.call (.global "type") [.variable "value"]) (.text "number"))
        []
        [.returned [.integer (-1)]],
      .returned [.variable "value"]]).start machine =
        (.ok (.returned [numberOr value]), machine) := by
  have read : (evalArguments (callAt (depth + 1)) scope [.variable "value"]).start machine =
      (.ok [value], machine) := start_evalArguments_singleton (start_variable named holds)
  have global : (evalExpr (callAt (depth + 1)) scope (.global "type")).start machine =
      (.ok [.function (.builtin .type)], machine) := by
    rw [evalExpr, start_bind, start_readStore]
    dsimp only
    rw [type]
    rfl
  have typed : (evalExpr (callAt (depth + 1)) scope
      (.call (.global "type") [.variable "value"])).start machine =
        (.ok [.text value.typeName], machine) := by
    rw [start_evalCall global read]
    rfl
  have compared : (evalExpr (callAt (depth + 1)) scope (.binary .equal
      (.call (.global "type") [.variable "value"]) (.text "number"))).start machine =
        (.ok [.boolean (value.typeName == "number")], machine) := by
    rw [start_binary typed (start_text "number")]
    rfl
  have refused : (evalArguments (callAt (depth + 1)) scope [.integer (-1)]).start machine =
      (.ok [.integer (-1)], machine) :=
    start_evalArguments_singleton (start_integer (-1))
  rw [start_block, start_branch _ _ compared]
  · unfold numberOr
    by_cases isNumber : value.typeName = "number"
    · rw [if_pos (by simpa [Value.isTruthy] using isNumber), if_pos isNumber, evalBlock]
      exact start_block_returned [] read
    · rw [if_neg (by simpa [Value.isTruthy] using isNumber), if_neg isNumber,
        start_block_returned [] refused]
  · rintro _ _ ⟨⟩

end Functions

/-- How the body of the function for ports ends. -/
theorem start_portFunction {parameters : List String} {body : List Stmt}
    (isFunction : portFunction = .function parameters body) (depth : Nat) {scope : Scope}
    {cell place : Nat} (named : scope.cell? descriptorName = some cell)
    (refers : machine.store.cells[cell]? = some (.table module))
    (namedSymbol : scope.cell? "sym" = some place)
    (holdsSymbol : machine.store.cells[place]? = some (.text name))
    (unguarded : (machine.store.table module).readHandler = .nil)
    (type : (machine.store.table Store.globalsId).get (.text "type") = .function (.builtin .type))
    (raises : ∀ handler, Leads machine.store.table (portsOf module machine) (.function handler) →
      RaisesFor (callAt (depth + 1)) name machine handler) :
    match readThrough machine.store.table name handlerLimit (portsOf module machine) with
    | some value => ∃ after, (evalBlock (callAt (depth + 1)) scope body).start machine =
        (.ok (.returned [numberOr value]), after)
    | none => ∃ raised after, (evalBlock (callAt (depth + 1)) scope body).start machine =
        (.error raised, after) := by
  unfold portFunction at isFunction
  cases isFunction
  have ports : (evalExpr (callAt (depth + 1)) scope (descriptor.field "ports")).start machine =
      (.ok [portsOf module machine], machine) := start_ports _ named refers unguarded
  have read := start_index ports (start_variable namedSymbol holdsSymbol)
  have through := start_readIndex_through (callAt (depth + 1)) handlerLimit
    (portsOf module machine) ((descriptor.field "ports").description scope) raises
  rw [start_map] at read
  cases found : readThrough machine.store.table name handlerLimit (portsOf module machine) with
  | none =>
      rw [found] at through
      obtain ⟨raised, after, failed⟩ := through
      rw [failed] at read
      exact ⟨raised, after, start_declare_error _ (start_evalArguments_error read)⟩
  | some value =>
      rw [found] at through
      rw [through] at read
      refine ⟨addCell value machine, ?_⟩
      rw [start_declare _ (start_evalArguments_singleton read) rfl]
      exact start_portBody depth rfl (cell_addCell value machine) type

/-- A call of a function of the module runs the body that the module defines. -/
theorem HasFunction.exists_call {defined : Expr} {parameters : List String} {body : List Stmt}
    (has : HasFunction module name defined machine)
    (isFunction : defined = .function parameters body) {arguments : List Value}
    {own : List (String × Nat)} {inner : Machine σ}
    (declared : (declareAll parameters arguments).start machine = (.ok own, inner)) :
    ∃ callable captured cell,
      (machine.store.table module).get (.text name) = .function callable ∧
      captured.lookup descriptorName = some cell ∧
      machine.store.cells[cell]? = some (.table module) ∧
      (Run.call callable arguments).start machine =
        let scope : Scope := ⟨own, captured, arguments.drop parameters.length⟩
        (((evalBlock (callAt 199) scope body).start inner).1.map Flow.values,
          ((evalBlock (callAt 199) scope body).start inner).2) := by
  obtain @⟨id, cell, closure, entry, there, isClosure, captures, refers⟩ := has
  obtain ⟨rfl, rfl⟩ := Expr.function.inj (isFunction.symm.trans isClosure)
  exact ⟨.closure id, closure.captured, cell, entry, captures, refers,
    start_callClosure there declared⟩

/-- The function for ports answers the port that is read under the symbol. -/
theorem IsDeployed.exists_call_port (isDeployed : IsDeployed module machine) (symbol : String)
    (raises : ∀ handler, Leads machine.store.table (portsOf module machine) (.function handler) →
      RaisesFor (callAt 199) symbol (addCell (.text symbol) machine) handler) :
    ∃ callable outcome after,
      (machine.store.table module).get (.text "port") = .function callable ∧
      (Run.call callable [.text symbol]).start machine = (outcome, after) ∧
      ((outcome.toOption.map Value.first).map portOf).getD noPort =
        portThrough machine.store.table symbol handlerLimit (portsOf module machine) := by
  let inner := addCell (.text symbol) machine
  have declared : (declareAll ["sym"] [.text symbol]).start machine =
      (.ok [("sym", machine.store.cells.size)], inner) := rfl
  obtain ⟨callable, captured, cell, entry, captures, refers, called⟩ :=
    isDeployed.port.exists_call rfl declared
  let scope : Scope := ⟨[("sym", machine.store.cells.size)], captured, []⟩
  have ended := @start_portFunction σ module inner symbol _ _ rfl 198 scope cell _ captures
    (cell_addCell_of_some refers _) rfl (cell_addCell _ _) isDeployed.unguarded isDeployed.type
    raises
  dsimp only [List.length, List.drop] at called
  refine ⟨callable, _, _, entry, called, ?_⟩
  unfold portThrough
  change _ = ((readThrough inner.store.table symbol handlerLimit _).map portOf).getD noPort
  cases found : readThrough inner.store.table symbol handlerLimit (portsOf module machine) with
  | none =>
      obtain ⟨raised, after, failed⟩ := found ▸ ended
      rw [failed]
      rfl
  | some value =>
      obtain ⟨after, returned⟩ := found ▸ ended
      rw [returned]
      exact portOf_numberOr value

/-! ## Counting -/

section Counting

variable (call : Call σ) {scope : Scope} {cell : Nat}

/-- Count up by one. -/
abbrev countUp : Stmt :=
  .setVariable "count" (.binary .add (.variable "count") (.integer 1))

theorem exists_start_countUp {count : Int64} (named : scope.cell? "count" = some cell)
    (holds : machine.store.cells[cell]? = some (.integer count)) :
    ∃ after, (evalBlock call scope [countUp]).start machine = (.ok .next, after) ∧
      after.store.cells[cell]? = some (.integer (count + 1)) := by
  have sum : (evalExpr call scope (.binary .add (.variable "count") (.integer 1))).start machine =
      (.ok [.integer (count + 1)], machine) :=
    start_binary (start_variable named holds) (start_integer 1)
  refine ⟨{ machine with store := machine.store.setCell cell (.integer (count + 1)) }, ?_, ?_⟩
  · rw [countUp, start_block, start_setVariable named sum]
    · rw [evalBlock]
      rfl
    · rintro _ _ ⟨⟩
  · obtain ⟨within, _⟩ := Array.getElem?_eq_some_iff.mp holds
    exact Array.getElem?_setIfInBounds_self_of_lt within

/-- The loop counts the entries, whatever variables it makes on the way. -/
theorem exists_start_entriesFlow (entries : List (Key × Value)) {count : Int64}
    (named : scope.cell? "count" = some cell)
    (holds : machine.store.cells[cell]? = some (.integer count)) :
    ∃ after, (entriesFlow (fun keyValue entryValue => do
        let names ← declareAll ["_", ""] [keyValue, entryValue]
        evalBlock call { scope with own := names ++ scope.own } [countUp]) entries).start machine =
          (.ok .next, after) ∧
      after.store.cells[cell]? = some (.integer (count + Int64.ofNat entries.length)) := by
  induction entries generalizing machine count with
  | nil => exact ⟨machine, rfl, by rw [holds]; simp⟩
  | cons entry rest ih =>
      obtain ⟨key, value⟩ := entry
      let inner := addCell value (addCell key.value machine)
      have holdsInner : inner.store.cells[cell]? = some (.integer count) :=
        cell_addCell_of_some (cell_addCell_of_some holds _) _
      let names : List (String × Nat) :=
        [("", (addCell key.value machine).store.cells.size), ("_", machine.store.cells.size)]
      obtain ⟨middle, counted, holdsMiddle⟩ :=
        @exists_start_countUp σ inner call { scope with own := names ++ scope.own } cell count named
          holdsInner
      obtain ⟨after, others, holdsAfter⟩ := ih holdsMiddle
      have declared : (declareAll ["_", ""] [key.value, value]).start machine =
          (.ok names, inner) := rfl
      refine ⟨after, ?_, ?_⟩
      · rw [entriesFlow, start_bind, start_bind, declared]
        dsimp only
        rw [counted]
        exact others
      · rw [holdsAfter, List.length_cons, Int64.ofNat_add, Int64.add_comm (Int64.ofNat rest.length),
          Int64.add_assoc]
        rfl

/-- What counting the entries of a value comes to. -/
def counted (tables : Nat → Table) : Value → Option Value
  | .table id => some (.integer (Int64.ofNat (tables id).entries.length))
  | _ => none

/-- How the body of the function that counts the ports ends. -/
theorem start_portCountFunction {parameters : List String} {body : List Stmt}
    (isFunction : portCountFunction = .function parameters body)
    (named : scope.cell? descriptorName = some cell)
    (refers : machine.store.cells[cell]? = some (.table module))
    (unguarded : (machine.store.table module).readHandler = .nil) :
    match counted machine.store.table (portsOf module machine) with
    | some value => ∃ after, (evalBlock call scope body).start machine =
        (.ok (.returned [value]), after)
    | none => ∃ raised after, (evalBlock call scope body).start machine =
        (.error raised, after) := by
  unfold portCountFunction at isFunction
  cases isFunction
  let inner := addCell (.integer 0) machine
  let counting : Scope := { scope with own := [("count", machine.store.cells.size)] ++ scope.own }
  have isZero : (evalArguments call scope [.integer 0]).start machine =
      (.ok [.integer 0], machine) :=
    start_evalArguments_singleton (start_integer 0)
  have ports : (evalExpr call counting (descriptor.field "ports")).start inner =
      (.ok [portsOf module machine], inner) :=
    start_ports call named (cell_addCell_of_some refers _) unguarded
  rw [start_declare _ isZero rfl]
  change match counted machine.store.table (portsOf module machine) with
    | some value => ∃ after, (evalBlock call counting _).start inner = _
    | none => ∃ raised after, (evalBlock call counting _).start inner = _
  rw [start_block, start_forEntries ports]
  · cases portsOf module machine with
    | table id =>
        obtain ⟨after, looped, holds⟩ := @exists_start_entriesFlow σ inner call counting
          machine.store.cells.size (machine.store.table id).entries 0 rfl (cell_addCell _ _)
        have entered : (entriesOf (.table id)).start inner =
            (.ok (machine.store.table id).entries, inner) := rfl
        refine ⟨after, ?_⟩
        rw [start_bind, entered]
        dsimp only
        rw [looped]
        dsimp only
        rw [start_block_returned [] (start_evalArguments_singleton (start_variable rfl holds)),
          Int64.zero_add]
    | nil | boolean _ | integer _ | number _ | text _ | bytes _ | function _ | failure _ =>
        exact ⟨_, _, rfl⟩
  · rintro _ _ ⟨⟩

end Counting

/-- The function that counts the ports answers the number of their entries. -/
theorem IsDeployed.exists_call_portCount (isDeployed : IsDeployed module machine) :
    ∃ callable outcome after,
      (machine.store.table module).get (.text "num_ports") = .function callable ∧
      (Run.call callable []).start machine = (outcome, after) ∧
      outcome.toOption.map Value.first =
        counted machine.store.table (portsOf module machine) := by
  obtain ⟨callable, captured, cell, entry, captures, refers, called⟩ :=
    isDeployed.portCount.exists_call rfl rfl
  let scope : Scope := ⟨[], captured, []⟩
  have named : scope.cell? descriptorName = some cell := captures
  have ended := start_portCountFunction (callAt 199) rfl named refers isDeployed.unguarded
  dsimp only [List.length, List.drop] at called
  refine ⟨callable, _, _, entry, called, ?_⟩
  cases found : counted machine.store.table (portsOf module machine) with
  | none =>
      obtain ⟨raised, after, failed⟩ := found ▸ ended
      rw [failed]
      rfl
  | some value =>
      obtain ⟨after, returned⟩ := found ▸ ended
      rw [returned]
      rfl

end ScriptedRobot.Deployed
