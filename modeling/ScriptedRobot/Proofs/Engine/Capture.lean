import ScriptedRobot.Proofs.Engine.ErrorState

/-! # What a load captures

A descriptor is searched for the names of all hooks, one after the other. Handlers of the descriptor
may run scripts meanwhile, and raise. If one does, the load fails as a whole, whatever functions had
been found by then; otherwise the callbacks are exactly the functions that were found
(`load_captures_functions`). They stay with the program: no request gives it a callback or takes one
away, whatever has become of the descriptor. -/

namespace ScriptedRobot.Engine

open Control (Program Request)
open Script (Callable Run Value)

/-! ## Functions that are found -/

theorem mem_functionsOf {found : List (Hook × Value)} {hook : Hook} {callable : Callable} :
    (hook, callable) ∈ functionsOf found ↔ (hook, .function callable) ∈ found := by
  induction found with
  | nil => exact iff_of_false (List.not_mem_nil) (List.not_mem_nil)
  | cons entry rest ih =>
      obtain ⟨name, value⟩ := entry
      cases value with
      | function other => simp only [functionsOf, List.mem_cons, ih, Prod.mk.injEq,
          Value.function.injEq]
      | nil | boolean _ | integer _ | number _ | text _ | bytes _ | table _ | failure _ =>
          simp only [functionsOf, ih, List.mem_cons, Prod.mk.injEq, reduceCtorEq, and_false,
            false_or]

theorem map_fst_functionsOf (found : List (Hook × Value)) :
    ((functionsOf found).map Prod.fst).Sublist (found.map Prod.fst) := by
  induction found with
  | nil => exact .slnil
  | cons entry rest ih =>
      obtain ⟨name, value⟩ := entry
      cases value with
      | function _ => exact ih.cons_cons name
      | nil | boolean _ | integer _ | number _ | text _ | bytes _ | table _ | failure _ =>
          exact ih.cons name

namespace LookupsFind

variable {descriptor : Value} {hooks : List Hook} {host after : Host} {found : List (Hook × Value)}
  (finds : LookupsFind descriptor hooks host found after)
include finds

/-- Every hook is looked up once. -/
theorem map_fst : found.map Prod.fst = hooks := by
  induction finds with
  | none => rfl
  | next _ _ ih => exact congrArg (_ :: ·) ih

/-- The callbacks are found under their hooks. -/
theorem lookup_functionsOf (distinct : hooks.Nodup) (hook : Hook) (callable : Callable) :
    (functionsOf found).lookup hook = some callable ↔ (hook, .function callable) ∈ found := by
  have keys : ((functionsOf found).map Prod.fst).Nodup :=
    (finds.map_fst ▸ distinct).sublist (map_fst_functionsOf found)
  rw [← mem_functionsOf]
  exact ⟨Text.mem_of_lookup_eq_some, Text.lookup_eq_some_of_mem keys⟩

end LookupsFind

/-! ## Callbacks that stay -/

/-- The program of a load that passes all stages has what was found, and no error. -/
theorem LoadFinds.program_loadAs {path : String} {host after : Host} {found : List (Hook × Value)}
    (finds : LoadFinds path host found after) (name : String) :
    (loadAs name path host).1 = { name, callbacks := functionsOf found } := by
  unfold loadAs
  rw [finds.capture_eq]

/-- A request leaves the program its callbacks. -/
theorem callbacks_make (request : Request) (program : Program Callable) (host : Host) :
    (request.make scripting program host).2.1.callbacks = program.callbacks := by
  rw [request.program_make]
  cases unusable : program.isUnusable with
  | false => exact (invoked_of_usable unusable request.hook host).callbacks
  | true =>
      unfold Program.invoke
      rw [if_pos unusable]

theorem callbacks_makeAll (requests : List (Request × Host)) (program : Program Callable) :
    (Request.makeAll scripting requests program).2.callbacks = program.callbacks := by
  induction requests generalizing program with
  | nil => rfl
  | cons first rest ih =>
      obtain ⟨request, host⟩ := first
      exact (ih _).trans (callbacks_make request program host)

/-- A load fails at its first stage that does, or passes them all. A program that fails has the
error of the stage, and no hook then or later. The others have no error, and their callbacks are
the functions that were found in the descriptor under the names of the hooks, each of which was
looked up once: then, and after any requests in any hosts. -/
theorem load_captures_functions (name path : String) (host : Host) :
    let program := (loadAs name path host).1
    let later := fun requests : List (Request × Host) =>
      (Request.makeAll scripting requests program).2
    ((∃ found after, LoadFinds path host found after) ∨
      ∃ fault after, LoadFails path host fault after) ∧
    (∀ fault after, LoadFails path host fault after →
      program.kind = some (fault.error path).kind ∧ program.error = (fault.error path).message ∧
      ∀ requests hook, (later requests).hasHook hook = false) ∧
    ∀ found after, LoadFinds path host found after →
      program.kind = none ∧ program.error = "" ∧ found.map Prod.fst = Hook.all ∧
      ∀ requests hook,
        ((later requests).hasHook hook = true ↔
          ∃ callable, (hook, .function callable) ∈ found) ∧
        ∀ callable, (later requests).callbacks.lookup hook = some callable ↔
          (hook, .function callable) ∈ found := by
  intro program later
  have kept : ∀ requests, (later requests).callbacks = program.callbacks :=
    fun requests => callbacks_makeAll requests program
  refine ⟨isSettled path host, ?_, ?_⟩
  · intro fault after fails
    have failed : program = _ := congrArg Prod.fst (fails.loadAs_eq name)
    refine ⟨congrArg Program.kind failed, congrArg Program.error failed, fun requests hook => ?_⟩
    unfold Program.hasHook
    rw [kept, failed]
    rfl
  · intro found after finds
    have loaded : program = _ := finds.program_loadAs name
    obtain ⟨_, _, _, _, _, lookups⟩ := finds
    have captured (requests : List (Request × Host)) (hook : Hook) (callable : Callable) :
        (later requests).callbacks.lookup hook = some callable ↔
          (hook, .function callable) ∈ found := by
      rw [kept, loaded]
      exact lookups.lookup_functionsOf (by decide) hook callable
    refine ⟨congrArg Program.kind loaded, congrArg Program.error loaded, lookups.map_fst,
      fun requests hook => ⟨?_, captured requests hook⟩⟩
    unfold Program.hasHook
    rw [Option.isSome_iff_exists]
    exact exists_congr (captured requests hook)

namespace Descriptors

/-! The factory of a program returns a descriptor that holds a callback, a number under the name of
a hook, and a function under another name. A handler answers for what is absent. -/

def program (handler : Script.Expr) : Script.Chunk := [.returned [.function [] [.returned [
  .withHandlers (.table [.text "init", .function [] [], .text "prepare", .integer 5,
    .text "other", .function [] []]) handler .nil]]]]

def host (handler : Script.Expr) : Host :=
  { scripts := { files := onlyFile (.script (program handler)) } }

/-- A handler that has callbacks for two hooks, one of which is not absent. -/
def answering : Script.Expr :=
  .table [.text "teleop", .function [] [], .text "prepare", .function [] []]

/-- A handler that raises. -/
def interrupting : Script.Expr := .function [] [.evaluate (Script.Expr.raise (.text "late"))]

theorem finds : ∃ found after, LoadFinds "p" (host answering) found after ∧
    functionsOf found = [(.init, .closure 1), (.teleop, .closure 3)] := by
  have captured : (run (captureProgram (program answering)) (host answering)).1.toOption.bind
      (·.toOption) = some [(.init, .closure 1), (.teleop, .closure 3)] := by decide +kernel
  have settles : capture "p" (host answering) =
      settled (run (captureProgram (program answering)) (host answering)) :=
    capture_of_script (content_onlyFile _) rfl
  rcases ran : run (captureProgram (program answering)) (host answering) with
    ⟨raised | failed | callbacks, after⟩ <;> rw [ran] at captured settles
  · cases captured
  · cases captured
  obtain ⟨found, last, finds⟩ | ⟨fault, last, fails⟩ := isSettled "p" (host answering)
  · have same := finds.capture_eq.symm.trans settles
    cases same
    exact ⟨found, _, finds, Option.some.inj captured⟩
  · cases fails.capture_eq.symm.trans settles

/-- The function or the table that a value is. -/
def object? : Value → Option (Callable ⊕ Nat)
  | .function callable => some (.inl callable)
  | .table id => some (.inr id)
  | _ => none

theorem object?_eq_some {value : Value} {object : Callable ⊕ Nat}
    (is : object? value = some object) : value = object.elim .function .table := by
  cases value with
  | function _ | table _ =>
      obtain rfl := Option.some.inj is
      rfl
  | nil | boolean _ | integer _ | number _ | text _ | bytes _ | failure _ => cases is

theorem exists_of_isSome {α : Type} (ran : Except Value α × Host)
    (yields : ran.1.toOption.isSome = true) :
    ∃ value, ran = (.ok value, ran.2) := by
  obtain ⟨_ | value, after⟩ := ran
  · cases yields
  · exact ⟨value, rfl⟩

theorem exists_of_object (ran : Except Value (List Value) × Host) (object : Callable ⊕ Nat)
    (yields : ran.1.toOption.bind (fun values => object? (Value.first values)) = some object) :
    ∃ values, ran = (.ok values, ran.2) ∧
      Value.first values = object.elim .function .table := by
  obtain ⟨_ | values, after⟩ := ran
  · cases yields
  · exact ⟨values, rfl, object?_eq_some yields⟩

theorem raises_of_raisedText? {α : Type} {ran : Except Value α × Host} {message : String}
    (raised : raisedText? ran.1 = some message) : ran = (.error (.text message), ran.2) :=
  Prod.ext (eq_of_raisedText? raised) rfl

/-- The host when the factory has returned the descriptor. -/
def described : Host :=
  (run (Run.call (.closure 0) [])
    (run (Run.chunk (program interrupting) []) (host interrupting)).2).2

/-- The host when the callback of the first hook was found. -/
def advanced : Host :=
  (run (Run.getIndex (.table 3) (.text "init")) described).2

/-- The handler raises at the third hook. -/
theorem fails :
    ∃ after, LoadFails "p" (host interrupting) (.lookupRaised (.text "late")) after := by
  obtain ⟨_, ran, isFactory⟩ := exists_of_object
    (run (Run.chunk (program interrupting) []) (host interrupting)) (.inl (.closure 0))
    (by decide +kernel)
  obtain ⟨_, called, isTable⟩ := exists_of_object
    (run (Run.call (.closure 0) [])
      (run (Run.chunk (program interrupting) []) (host interrupting)).2) (.inr 3)
    (by decide +kernel)
  obtain ⟨_, found⟩ := exists_of_isSome
    (run (Run.getIndex (.table 3) (.text "init")) described) (by decide +kernel)
  obtain ⟨_, skipped⟩ := exists_of_isSome
    (run (Run.getIndex (.table 3) (.text "prepare")) advanced) (by decide +kernel)
  exact ⟨_, .lookupRaised ⟨_, _, _, ⟨_, _, content_onlyFile _, rfl, ran⟩, isFactory, called⟩
    isTable (.later found (.later skipped (.here (raises_of_raisedText? (by decide +kernel)))))⟩

end Descriptors

open Descriptors in
/-- A handler gives callbacks only for hooks that are absent from the descriptor, and takes away
those that had been found if it raises. -/
theorem handlers_give_and_take :
    let answered := (loadAs "p" "p" (host answering)).1
    let failed := (loadAs "p" "p" (host interrupting)).1
    (answered.kind = none ∧
      ∀ hook, answered.hasHook hook = true ↔ hook = .init ∨ hook = .teleop) ∧
    (failed.kind = some .runtime ∧ failed.error = "runtime error: late" ∧
      ∀ hook, failed.hasHook hook = false) := by
  obtain ⟨found, _, finds, callbacks⟩ := finds
  obtain ⟨_, fails⟩ := fails
  obtain ⟨noError, _, _, captured⟩ :=
    (load_captures_functions "p" "p" (host answering)).2.2 _ _ finds
  obtain ⟨kind, message, bare⟩ :=
    (load_captures_functions "p" "p" (host interrupting)).2.1 _ _ fails
  refine ⟨⟨noError, fun hook => (captured [] hook).1.trans ?_⟩, kind, message, bare []⟩
  simp only [← mem_functionsOf, callbacks, List.mem_cons, List.not_mem_nil, or_false, Prod.mk.injEq,
    exists_or, exists_eq_right]

end ScriptedRobot.Engine
