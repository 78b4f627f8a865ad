import ScriptedRobot.Control.Program

/-! # Requests to a program

Hooks are called in three ways, which differ only in how a failure is reported. A program without
callbacks answers all of them alike: it skips the hook, and nothing is run. -/

namespace ScriptedRobot.Control

variable {ε π : Type}

/-- A request to a program to call a hook. -/
inductive Request where
  | invoke (hook : Hook)
  | fire (hook : Hook)
  | call (hook : Hook) (style : CallStyle)

namespace Request

/-- What a program does about a request. -/
def make (scripting : Scripting ε π) : Request → Program π → World ε →
    Except ScriptError CallOutcome × Program π × World ε
  | .invoke hook, program, world => program.invoke scripting hook world
  | .fire hook, program, world =>
    let (outcome, program, world) := program.fire scripting hook world
    (.ok outcome, program, world)
  | .call hook style, program, world => program.call scripting hook style world

/-- The hook that is to be called. -/
def hook : Request → Hook
  | .invoke hook => hook
  | .fire hook => hook
  | .call hook _ => hook

/-- The style in which it is to be called. -/
def style : Request → CallStyle
  | .invoke _ => .mustSucceed
  | .fire _ => .fireAndForget
  | .call _ style => style

/-- What requests are answered, each with the world it leaves behind, and the program in the end.
Every request is made in a world of its own: anything may happen in between. -/
def makeAll (scripting : Scripting ε π) : List (Request × World ε) → Program π →
    List (Except ScriptError CallOutcome × World ε) × Program π
  | [], program => ([], program)
  | (request, world) :: rest, program =>
    let (answer, program, world) := request.make scripting program world
    let (answers, program) := makeAll scripting rest program
    ((answer, world) :: answers, program)

end Request

/-- A result as an outcome. -/
def CallOutcome.told : Except ScriptError CallOutcome → CallOutcome
  | .ok outcome => outcome
  | .error _ => .failed

section Styles

variable (scripting : Scripting ε π) (request : Request) (program : Program π) (world : World ε)

theorem Request.make_eq_call : request.make scripting program world =
    program.call scripting request.hook request.style world := by
  cases request <;> rfl

/-- Every request leaves the program as a plain call does. -/
theorem Request.program_make : (request.make scripting program world).2.1 =
    (program.invoke scripting request.hook world).2.1 := by
  rw [make_eq_call]
  cases request.style with
  | mustSucceed => rfl
  | fireAndForget =>
      unfold Program.call Program.fire
      dsimp only
      rcases program.invoke scripting request.hook world with ⟨_ | _, _, _⟩ <;> rfl

/-- Every request is answered as a plain call is, except that a failure may be an outcome. -/
theorem Request.answer_make : (request.make scripting program world).1 =
    match request.style with
    | .mustSucceed => (program.invoke scripting request.hook world).1
    | .fireAndForget => .ok (.told (program.invoke scripting request.hook world).1) := by
  rw [make_eq_call]
  cases request.style with
  | mustSucceed => rfl
  | fireAndForget =>
      unfold Program.call Program.fire
      dsimp only
      rcases program.invoke scripting request.hook world with ⟨_ | _, _, _⟩ <;> rfl

end Styles

namespace Program

variable {program : Program π} (bare : program.callbacks = [])
include bare

/-- The program after a request that is skipped. -/
theorem invoke_of_bare (scripting : Scripting ε π) (hook : Hook) (world : World ε) :
    program.invoke scripting hook world =
      (.ok .skipped, if program.isUnusable then program else program.cleared, world) := by
  unfold invoke
  rw [bare]
  by_cases unusable : program.isUnusable = true
  · rw [if_pos unusable, if_pos unusable]
  · rw [if_neg unusable, if_neg unusable]
    rfl

theorem make_of_bare (scripting : Scripting ε π) (request : Request) (world : World ε) :
    request.make scripting program world =
      (.ok .skipped, if program.isUnusable then program else program.cleared, world) := by
  have invoked := fun hook => invoke_of_bare bare scripting hook world
  cases request with
  | invoke hook => exact invoked hook
  | fire hook => simp only [Request.make, fire, invoked]
  | call hook style =>
      cases style with
      | mustSucceed => exact invoked hook
      | fireAndForget => simp only [Request.make, call, fire, invoked]

/-- A program without callbacks skips every request and touches nothing. It keeps its error if that
makes it unusable, and loses it to the first request otherwise. -/
theorem makeAll_of_bare (scripting : Scripting ε π) (requests : List (Request × World ε)) :
    Request.makeAll scripting requests program =
      (requests.map fun request => (.ok .skipped, request.2),
        if program.isUnusable = true ∨ requests = [] then program else program.cleared) := by
  induction requests generalizing program with
  | nil => simp [Request.makeAll]
  | cons first rest ih =>
      obtain ⟨request, world⟩ := first
      have made := make_of_bare bare scripting request world
      by_cases unusable : program.isUnusable = true
      · rw [if_pos unusable] at made
        simp only [Request.makeAll, made, ih bare, unusable, true_or, ↓reduceIte, List.map_cons]
      · have bareCleared : program.cleared.callbacks = [] := bare
        have again : program.cleared.cleared = program.cleared := rfl
        rw [if_neg unusable] at made
        simp only [Request.makeAll, made, ih bareCleared, again, ite_self, unusable,
          Bool.false_eq_true, reduceCtorEq, or_self, ↓reduceIte, List.map_cons]

end Program

end ScriptedRobot.Control
