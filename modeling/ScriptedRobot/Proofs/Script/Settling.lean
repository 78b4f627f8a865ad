import ScriptedRobot.Proofs.Script.Attribution

/-! # Bodies end

Where functions of the host can be looked up and called without other code getting in the way, every
body has an end that `Ends` tells of: calls are nested to a bounded depth, and repetitions are
counted. -/

namespace ScriptedRobot.Script

variable {σ : Type}

/-- A function that was handed out by the host, or that took the place of one. -/
def Callable.IsOfHost : Callable → Prop
  | .capability _ | .standIn _ => True
  | .closure _ | .builtin _ => False

/-- Functions of the host can be looked up and called without anything else being run: no table on
the way has a handler for absent entries, modules have no other functions, and a function of the
host calls none but those it is given. -/
structure Machine.IsPlain (machine : Machine σ) : Prop where
  root : ∀ id, (machine.store.table Store.globalsId).get (.text "bot") = .table id →
    (machine.store.table id).readHandler = .nil
  modules : ∀ id name module,
    (machine.store.table Store.globalsId).get (.text "bot") = .table id →
    (machine.store.table id).get (.text name) = .table module →
    (machine.store.table module).readHandler = .nil
  symbols : ∀ id name module symbol callable,
    (machine.store.table Store.globalsId).get (.text "bot") = .table id →
    (machine.store.table id).get (.text name) = .table module →
    (machine.store.table module).get (.text symbol) = .function callable → callable.IsOfHost
  shared : (machine.store.table Store.sharedId).readHandler = .nil
  held : ∀ name callable, (machine.store.table Store.sharedId).get (.text name) =
    .function callable → callable.IsOfHost
  delegates : ∀ (grant : Nat) entry, machine.registry.grants[grant]? = some entry →
    ∀ arguments native callee, (entry.capability.perform arguments native).1 = .delegates callee →
      .function callee ∈ arguments

theorem Tracked.Extends.isPlain {before after : Tracked σ} (extended : before.Extends after)
    (plain : before.machine.IsPlain) : after.machine.IsPlain := by
  have same := extended.tables
  obtain ⟨root, modules, symbols, shared, held, delegates⟩ := plain
  constructor
  · simpa only [same] using root
  · simpa only [same] using modules
  · simpa only [same] using symbols
  · simpa only [same] using shared
  · simpa only [same] using held
  · simpa only [extended.registry] using delegates

section Lookup

variable {machine : Machine σ} {object : Expr} {scope : Scope} {value : Value}

/-- Without handlers, an entry is found or there is nothing to look into. -/
theorem start_evalIndex
    (evaluates : ∀ call, (evalExpr call scope object).start machine = (.ok [value], machine))
    (unguarded : ∀ id, value = .table id → (machine.store.table id).readHandler = .nil)
    (name : String) :
    (∃ complaint, ∀ call, (evalExpr call scope (object.field name)).start machine =
      (.error (.text complaint), machine)) ∨
    ∃ entry, (∀ call, (evalExpr call scope (object.field name)).start machine =
      (.ok [entry], machine)) ∧
        (entry = .nil ∨
          ∃ id, value = .table id ∧ entry = (machine.store.table id).get (.text name)) := by
  have reads (call : Call σ) : (evalExpr call scope (object.field name)).start machine =
      match (readIndex call handlerLimit ⟨value, object.description scope⟩ (.text name)).start
        machine with
      | (.ok entry, after) => (.ok [entry], after)
      | (.error raised, after) => (.error raised, after) := by
    rw [Expr.field, evalExpr, Run.start_bind, one, Run.start_map, evaluates]
    dsimp only [Except.map, Value.first]
    rw [Run.start_bind, one, Run.start_map, Expr.text, evalExpr]
    dsimp only [Except.map, Value.first]
    change (readIndex call handlerLimit ⟨value, object.description scope⟩ (.text name) >>= _ :
      Run σ _).start machine = _
    rw [Run.start_bind]
    rcases (readIndex call handlerLimit _ (.text name)).start machine with ⟨_ | _, _⟩ <;> rfl
  cases value with
  | table id =>
      refine .inr ⟨_, fun call => ?_, .inr ⟨id, rfl, rfl⟩⟩
      rw [reads, show handlerLimit = 1999 + 1 from rfl, Run.start_readIndex (unguarded id rfl)]
  | text _ | bytes _ => exact .inr ⟨.nil, fun call => (reads call).trans rfl, .inl rfl⟩
  | nil | boolean _ | integer _ | number _ | function _ | failure _ =>
      exact .inl ⟨_, fun call => (reads call).trans rfl⟩

end Lookup

/-- On a plain machine a symbol is found, unless there is nothing to look into. -/
theorem Machine.IsPlain.lookupSymbol {machine : Machine σ} (plain : machine.IsPlain) (scope : Scope)
    (module symbol : String) :
    (∃ complaint, ∀ call, (evalExpr call scope (Steps.symbol module symbol)).start machine =
      (.error (.text complaint), machine)) ∨
    ∃ value, (∀ call, (evalExpr call scope (Steps.symbol module symbol)).start machine =
      (.ok [value], machine)) ∧ ∀ callable, value = .function callable → callable.IsOfHost := by
  have root : ∀ call, (evalExpr call scope Steps.root).start machine =
      (.ok [(machine.store.table Store.globalsId).get (.text "bot")], machine) := fun call => by
    rw [Steps.root, evalExpr]
    rfl
  obtain ⟨complaint, refused⟩ | ⟨table, found, isEntry⟩ := start_evalIndex root plain.root module
  · refine .inl ⟨complaint, fun call => ?_⟩
    rw [Steps.symbol, Expr.field, evalExpr, Run.start_bind, one, Run.start_map, refused]
    rfl
  · have unguarded : ∀ id, table = .table id → (machine.store.table id).readHandler = .nil := by
      rintro id rfl
      rcases isEntry with absent | ⟨rootId, isRoot, isModule⟩
      · cases absent
      · exact plain.modules rootId module id isRoot isModule.symm
    obtain refused | ⟨value, found, isSymbol⟩ := start_evalIndex found unguarded symbol
    · exact .inl refused
    refine .inr ⟨value, found, ?_⟩
    rintro callable rfl
    rcases isSymbol with absent | ⟨id, rfl, isSymbol⟩
    · cases absent
    rcases isEntry with absent | ⟨rootId, isRoot, isModule⟩
    · cases absent
    · exact plain.symbols rootId module id symbol callable isRoot isModule.symm isSymbol.symm

/-- On a plain machine looking for a function finds one of the host, or none, or nothing to look
into. -/
theorem Machine.IsPlain.lookup {machine : Machine σ} (plain : machine.IsPlain) (scope : Scope)
    (callee : Callee) :
    (∃ complaint, ∀ call, (evalExpr call scope callee.expression).start machine =
      (.error (.text complaint), machine)) ∨
    ∃ value, (∀ call, (evalExpr call scope callee.expression).start machine =
      (.ok [value], machine)) ∧ ∀ callable, value = .function callable → callable.IsOfHost := by
  cases callee with
  | symbol module name => exact plain.lookupSymbol scope module name
  | held name =>
      have shared : ∀ call, (evalExpr call scope .shared).start machine =
          (.ok [.table Store.sharedId], machine) := fun call => by
        rw [evalExpr]
        rfl
      have unguarded : ∀ id, Value.table Store.sharedId = .table id →
          (machine.store.table id).readHandler = .nil := by
        rintro _ ⟨⟩
        exact plain.shared
      obtain refused | ⟨value, found, isHeld⟩ :=
        start_evalIndex shared unguarded ("held:" ++ name)
      · exact .inl refused
      refine .inr ⟨value, found, ?_⟩
      rintro callable rfl
      rcases isHeld with absent | ⟨_, ⟨⟩, isHeld⟩
      · cases absent
      · exact plain.held ("held:" ++ name) callable isHeld.symm

/-- If a scope has the variable for caught errors, that holds one. -/
def Scope.IsTracked (scope : Scope) (state : Tracked σ) : Prop :=
  ∀ cell, scope.cell? "raised" = some cell → ∃ origin, state.caught.lookup cell = some origin

theorem Scope.cell?_visible (scope : Scope) (rest : List Value) (name : String) :
    Scope.cell? ⟨[], scope.visible, rest⟩ name = scope.cell? name := by
  unfold cell? visible
  rw [List.lookup_append]
  cases scope.own.lookup name <;> rfl

theorem Scope.IsTracked.of_extends {scope : Scope} {before after : Tracked σ}
    (tracked : scope.IsTracked before) (extended : before.Extends after) :
    scope.IsTracked after := by
  intro cell visible
  obtain ⟨origin, found⟩ := tracked cell visible
  exact extended.caught cell origin found

/-- A body ends, however deep in whatever state it is run. -/
def BodySettles (σ : Type) (body : List Step) : Prop :=
  ∀ depth scope (state : Tracked σ), state.machine.IsPlain → scope.IsTracked state →
    ∃ outcome after, Ends depth (.body scope body) state outcome after

section Calls

variable {state : Tracked σ} {scope : Scope}

/-- The function is a body that ends. -/
def IsSettled (state : Tracked σ) (scope : Scope) (callable : Callable) : Prop :=
  ∃ id body, callable = .closure id ∧ BodySettles σ body ∧
    state.machine.store.closures[id]? = some ⟨[], Step.statements body, scope.visible⟩

theorem IsSettled.exists_ends {callable : Callable} (settled : IsSettled state scope callable)
    (plain : state.machine.IsPlain) (tracked : scope.IsTracked state) (depth : Nat) :
    ∃ outcome after, Ends depth (.call callable []) state outcome after := by
  obtain ⟨id, body, rfl, settles, isBody⟩ := settled
  cases depth with
  | zero => exact ⟨_, _, .tooDeep⟩
  | succ depth =>
      have inner : Scope.IsTracked ⟨[], scope.visible, []⟩ state := by
        intro cell visible
        rw [scope.cell?_visible] at visible
        exact tracked cell visible
      obtain ⟨outcome, after, ends⟩ := settles depth _ state plain inner
      exact ⟨outcome, after, .entered isBody rfl ends⟩

theorem exists_ends_of_isOfHost {callable : Callable} (ofHost : callable.IsOfHost)
    {arguments : List Value}
    (functions : ∀ function, .function function ∈ arguments → IsSettled state scope function)
    (plain : state.machine.IsPlain) (tracked : scope.IsTracked state) (depth : Nat) :
    ∃ outcome after, Ends depth (.call callable arguments) state outcome after := by
  cases depth with
  | zero => exact ⟨_, _, .tooDeep⟩
  | succ depth =>
      cases callable with
      | closure _ | builtin _ => exact ofHost.elim
      | standIn _ => exact ⟨_, _, .standIn⟩
      | capability grant =>
          cases live : state.machine.registry.isLiveGrant grant with
          | false => exact ⟨_, _, .inert live⟩
          | true =>
              unfold Capability.Registry.isLiveGrant at live
              cases there : state.machine.registry.grants[grant]? with
              | none =>
                  rw [there] at live
                  cases live
              | some entry =>
                  rw [there] at live
                  cases reply : (entry.capability.perform arguments state.machine.native).1 with
                  | returns values => exact ⟨_, _, .returned there live reply⟩
                  | fails message => exact ⟨_, _, .failed there live reply⟩
                  | delegates callee =>
                      have given := plain.delegates grant entry there _ _ callee reply
                      have performed := state.extends_performed entry.capability arguments
                      have settled : IsSettled (state.performed entry.capability arguments) scope
                        callee := functions callee given
                      obtain ⟨outcome, after, ends⟩ := settled.exists_ends
                        (performed.isPlain plain) (tracked.of_extends performed) depth
                      exact ⟨_, _, .delegated there live reply ends⟩

theorem getElem?_withFunction (state : Tracked σ) (scope : Scope) (body : List Step) :
    (state.withFunction scope body).machine.store.closures[state.machine.store.closures.size]? =
      some ⟨[], Step.statements body, scope.visible⟩ :=
  Array.getElem?_push_size

theorem IsSettled.withArgument {callable : Callable} (settled : IsSettled state scope callable)
    (argument : Argument) : IsSettled (state.withArgument scope argument) scope callable := by
  cases argument with
  | constant _ => exact settled
  | table => exact settled
  | function body =>
      obtain ⟨id, other, same, settles, there⟩ := settled
      exact ⟨id, other, same, settles, getElem?_push_of_some there _⟩

theorem IsSettled.arguments {callable : Callable} (settled : IsSettled state scope callable)
    (arguments : List Argument) :
    IsSettled (state.arguments scope arguments).2 scope callable := by
  induction arguments generalizing state with
  | nil => exact settled
  | cons argument rest ih => exact ih (settled.withArgument argument)

theorem value_ne_function (literal : Literal) (callable : Callable) :
    literal.value ≠ .function callable := by
  cases literal with
  | bytes value =>
      unfold Literal.value Value.ofBytes
      dsimp only
      split <;> nofun
  | nil | boolean _ | integer _ | number _ | text _ => nofun

theorem isSettled_arguments {arguments : List Argument}
    (settle : ∀ body, .function body ∈ arguments → BodySettles σ body) {function : Callable}
    (member : .function function ∈ (state.arguments scope arguments).1) :
    IsSettled (state.arguments scope arguments).2 scope function := by
  induction arguments generalizing state with
  | nil => cases member
  | cons argument rest ih =>
      rcases List.mem_cons.mp member with same | later
      · cases argument with
        | constant value => exact (value_ne_function value function same.symm).elim
        | table => cases same
        | function body =>
            obtain rfl := Value.function.inj same
            have settled : IsSettled (state.withFunction scope body) scope state.nextFunction :=
              ⟨_, body, rfl, settle body List.mem_cons_self, getElem?_withFunction _ _ _⟩
            exact settled.arguments rest
      · exact ih (fun body later => settle body (List.mem_cons_of_mem _ later)) later

end Calls

mutual

theorem exists_ends_step (step : Step) (depth : Nat) (scope : Scope) (state : Tracked σ)
    (plain : state.machine.IsPlain) (tracked : scope.IsTracked state) :
    ∃ outcome after, Ends depth (.step scope step) state outcome after := by
  match step with
  | .raise value => exact ⟨_, _, .raise⟩
  | .raiseAgain =>
      cases visible : scope.cell? "raised" with
      | none => exact ⟨_, _, .nothingCaught visible⟩
      | some cell =>
          obtain ⟨origin, caught⟩ := tracked cell visible
          exact ⟨_, _, .raiseAgain visible caught⟩
  | .repeated count body =>
      have once : BodySettles σ body := exists_ends_body body
      induction count generalizing state with
      | zero => exact ⟨_, _, .repeatedNever⟩
      | succ count ih =>
          obtain ⟨_ | origin, between, ends⟩ := once depth scope state plain tracked
          · obtain ⟨outcome, after, again⟩ := ih between (ends.extended.isPlain plain)
              (tracked.of_extends ends.extended)
            exact ⟨_, _, .repeatedAgain ends again⟩
          · exact ⟨_, _, .repeatedUntil ends⟩
  | .protect body handler =>
      cases depth with
      | zero => exact ⟨_, _, .unprotected⟩
      | succ depth =>
          have added := state.extends_withFunction scope body
          have settled : IsSettled (state.withFunction scope body) scope state.nextFunction :=
            ⟨_, body, rfl, exists_ends_body body, getElem?_withFunction _ _ _⟩
          obtain ⟨_ | origin, between, inside⟩ := settled.exists_ends (added.isPlain plain)
            (tracked.of_extends added) depth
          · exact ⟨_, _, .unharmed inside⟩
          · have extended := (added.trans inside.extended).trans
              (between.extends_withOutcome (some origin))
            have inner :
                (between.handling scope).IsTracked (between.withOutcome (some origin)) := by
              intro cell visible
              obtain rfl := Option.some.inj ((cell?_raised between scope).symm.trans visible)
              exact ⟨origin, List.lookup_cons_self⟩
            obtain ⟨outcome, after, handles⟩ := exists_ends_body handler (depth + 1) _ _
              (extended.isPlain plain) inner
            exact ⟨_, _, .handled inside handles⟩
  | .call callee arguments =>
      obtain ⟨complaint, refused⟩ | ⟨value, found, ofHost⟩ := plain.lookup scope callee
      · exact ⟨_, _, .notThere refused⟩
      · by_cases function : ∃ callable, value = .function callable
        · obtain ⟨callable, rfl⟩ := function
          have added := state.extends_arguments scope arguments
          obtain ⟨outcome, after, ends⟩ := exists_ends_of_isOfHost (ofHost callable rfl)
            (fun function member => isSettled_arguments (settle_arguments arguments) member)
            (added.isPlain plain) (tracked.of_extends added) depth
          exact ⟨_, _, .called found ends⟩
        · exact ⟨_, _, .noFunction found (not_exists.mp function) rfl⟩
termination_by structural step

theorem exists_ends_body (body : List Step) (depth : Nat) (scope : Scope) (state : Tracked σ)
    (plain : state.machine.IsPlain) (tracked : scope.IsTracked state) :
    ∃ outcome after, Ends depth (.body scope body) state outcome after := by
  match body with
  | [] => exact ⟨_, _, .done⟩
  | step :: rest =>
      obtain ⟨_ | origin, between, first⟩ := exists_ends_step step depth scope state plain tracked
      · obtain ⟨outcome, after, others⟩ := exists_ends_body rest depth scope between
          (first.extended.isPlain plain) (tracked.of_extends first.extended)
        exact ⟨_, _, .next first others⟩
      · exact ⟨_, _, .stop first⟩
termination_by structural body

theorem settle_arguments (arguments : List Argument) (body : List Step)
    (member : .function body ∈ arguments) : BodySettles σ body := by
  match arguments with
  | .constant _ :: rest | .table :: rest => exact settle_arguments rest body (by simpa using member)
  | .function other :: rest =>
      rcases List.mem_cons.mp member with same | later
      · rw [Argument.function.inj same]
        exact exists_ends_body other
      · exact settle_arguments rest body later
termination_by structural arguments

end

/-- A call of a body ends, if no variable from elsewhere looks like one for caught errors. -/
theorem exists_ends_closure {state : Tracked σ} (plain : state.machine.IsPlain) {id : Nat}
    {parameters : List String} {body : List Step} {captured : List (String × Nat)}
    (isBody : state.machine.store.closures[id]? =
      some ⟨parameters, Step.statements body, captured⟩)
    (fresh : "raised" ∉ parameters) (absent : captured.lookup "raised" = none)
    (arguments : List Value) (depth : Nat) :
    ∃ outcome after, Ends depth (.call (.closure id) arguments) state outcome after := by
  cases depth with
  | zero => exact ⟨_, _, .tooDeep⟩
  | succ depth =>
      obtain ⟨own, cells, declared, _, names⟩ :=
        start_declareAll parameters arguments state.machine
      have invisible (started : Machine σ) :
          Scope.IsTracked ⟨own, captured, arguments.drop parameters.length⟩
            (⟨started, state.caught⟩ : Tracked σ) := by
        intro cell visible
        rw [Scope.cell?, names "raised" fresh, absent] at visible
        cases visible
      obtain ⟨outcome, after, ends⟩ := exists_ends_body body depth _ _
        ((Tracked.extends_declared declared).isPlain plain) (invisible _)
      exact ⟨_, _, .entered isBody declared ends⟩

end ScriptedRobot.Script
