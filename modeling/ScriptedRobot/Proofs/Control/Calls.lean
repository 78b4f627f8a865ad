import ScriptedRobot.Proofs.Control.Tracing

/-! # Calls of a program

What calling hooks of a program adds to the trace. Hooks without a callback are passed over, and
the first callback that fails is the last one of the calls. -/

namespace ScriptedRobot.Control

/-- The failure of the first callback that failed. -/
def firstFailure? (calls : List Call) : Option CallFailure :=
  calls.findSome? Call.failure

/-- A failure as an error. A failure of unknown cause gets one. -/
def CallFailure.toError (unknown : ErrorKind) (failure : CallFailure) : ScriptError :=
  ⟨failure.kind.getD unknown, failure.message⟩

/-- The error of a result. -/
def error? {α : Type} : Except ScriptError α → Option ScriptError
  | .ok _ => none
  | .error error => some error

theorem firstFailure?_eq_none {calls : List Call} :
    firstFailure? calls = none ↔ ∀ call ∈ calls, call.failure = none :=
  List.findSome?_eq_none_iff

theorem firstFailure?_append (calls more : List Call) :
    firstFailure? (calls ++ more) = (firstFailure? calls).or (firstFailure? more) :=
  List.findSome?_append

/-- Calls follow a plan: they are all of it, or they end with the first callback that fails. -/
structure Follows (plan : List Hook) (calls : List Call) : Prop where
  hooks : calls.map Call.hook <+: plan
  complete : firstFailure? calls = none → calls.map Call.hook = plan
  last : firstFailure? calls.dropLast = none

namespace Follows

variable {plan rest : List Hook} {calls more : List Call}

theorem nil : Follows [] [] where
  hooks := List.prefix_refl _
  complete _ := rfl
  last := rfl

theorem singleton (call : Call) : Follows [call.hook] [call] where
  hooks := List.prefix_refl _
  complete _ := rfl
  last := rfl

theorem append (first : Follows plan calls) (clean : firstFailure? calls = none)
    (second : Follows rest more) : Follows (plan ++ rest) (calls ++ more) where
  hooks := by
    rw [List.map_append, first.complete clean]
    exact List.prefix_append_right_inj _ |>.mpr second.hooks
  complete cleanAll := by
    rw [firstFailure?_append, clean, Option.none_or] at cleanAll
    rw [List.map_append, first.complete clean, second.complete cleanAll]
  last := by
    by_cases empty : more = []
    · rw [empty, List.append_nil]
      exact first.last
    · rw [List.dropLast_append_of_ne_nil empty, firstFailure?_append, clean, second.last]
      rfl

/-- After a failure nothing more of a plan follows. -/
theorem cut (first : Follows plan calls) {failure : CallFailure}
    (failed : firstFailure? calls = some failure) : Follows (plan ++ rest) calls where
  hooks := first.hooks.trans (List.prefix_append _ _)
  complete clean := by
    rw [clean] at failed
    cases failed
  last := first.last

/-- Calls follow all of a plan of at most one hook: nothing of it comes after a failure. -/
theorem hooks_eq (first : Follows plan calls) (atMostOne : plan.length ≤ 1) :
    calls.map Call.hook = plan := by
  cases calls with
  | nil => exact first.complete rfl
  | cons call rest =>
      refine first.hooks.eq_of_length_le (Nat.le_trans atMostOne ?_)
      rw [List.map_cons, List.length_cons]
      exact Nat.le_add_left 1 _

/-- A plan of one hook is followed by at most one call. -/
theorem of_singleton {hook : Hook} {defined : Hook → Bool}
    (first : Follows ([hook].filter defined) calls) :
    Follows ((List.replicate calls.length hook).filter defined) calls := by
  have same : calls.length = ([hook].filter defined).length := by
    rw [← first.hooks_eq (List.length_filter_le defined [hook]), List.length_map]
  by_cases member : defined hook = true
  · rw [List.filter_cons_of_pos member] at first same
    rw [same]
    exact (List.filter_cons_of_pos member).symm ▸ first
  · rw [List.filter_cons_of_neg member] at first same
    rw [same]
    exact first

/-- Steps after steps are steps. -/
theorem append_steps {hook : Hook} {defined : Hook → Bool}
    (first : Follows ((List.replicate calls.length hook).filter defined) calls)
    (clean : firstFailure? calls = none)
    (second : Follows ((List.replicate more.length hook).filter defined) more) :
    Follows ((List.replicate (calls ++ more).length hook).filter defined) (calls ++ more) := by
  rw [List.length_append, ← List.replicate_append_replicate, List.filter_append]
  exact first.append clean second

end Follows

variable {ε π : Type}

/-- What some calls do to the world: they follow a plan, they are callbacks of one load, and the
last of them leaves the drivetrain as it is afterwards. -/
structure Played (load : Nat) (plan : List Hook) (before after : World (Traced ε))
    (made : List Call) : Prop where
  calls : after.calls = before.calls ++ made
  loads : after.loads = before.loads
  follows : Follows plan made
  origin : ∀ call ∈ made, call.load = load
  drivetrain : after.rig.drivetrain =
    (made.getLast?.map Call.drivetrain).getD before.rig.drivetrain

namespace Played

variable {load : Nat} {plan rest : List Hook} {before middle after : World (Traced ε)}
  {made more : List Call}

theorem none (world : World (Traced ε)) : Played load [] world world [] where
  calls := (List.append_nil _).symm
  loads := rfl
  follows := .nil
  origin _ member := by cases member
  drivetrain := rfl

theorem callback (scripting : Scripting ε π) (callback : Labelled π) (world : World (Traced ε)) :
    Played callback.load [callback.hook] world (scripting.traced.run callback world).2
      [callback.record (scripting.run callback.callback world.erased)] where
  calls := rfl
  loads := rfl
  follows := .singleton (callback.record (scripting.run callback.callback world.erased))
  origin call member := by rw [List.mem_singleton.mp member]; rfl
  drivetrain := rfl

theorem append (first : Played load plan before middle made)
    (clean : firstFailure? made = .none) (second : Played load rest middle after more) :
    Played load (plan ++ rest) before after (made ++ more) where
  calls := by rw [second.calls, first.calls, List.append_assoc]
  loads := second.loads.trans first.loads
  follows := first.follows.append clean second.follows
  origin call member := (List.mem_append.mp member).elim (first.origin call) (second.origin call)
  drivetrain := by
    rw [second.drivetrain, first.drivetrain, List.getLast?_append]
    cases more.getLast? <;> rfl

theorem cut (first : Played load plan before middle made) {failure : CallFailure}
    (failed : firstFailure? made = some failure) :
    Played load (plan ++ rest) before middle made where
  calls := first.calls
  loads := first.loads
  follows := first.follows.cut failed
  origin := first.origin
  drivetrain := first.drivetrain

/-- Reports to the journal do not count. -/
theorem note (played : Played load plan before after made) (severity : Severity) (source : Source)
    (message : String) : Played load plan before (after.note severity source message) made :=
  ⟨played.calls, played.loads, played.follows, played.origin, played.drivetrain⟩

end Played

namespace Program

/-- The program came from a load: it has callbacks for these hooks, and they are labelled. -/
structure IsLoad (load : Nat) (hooks : List Hook) (program : Program (Labelled π)) : Prop where
  hooks_eq : program.hooks = hooks
  label : ∀ hook callback, program.callbacks.lookup hook = some callback →
    callback.load = load ∧ callback.hook = hook

theorem isLoad_labelled (load : Nat) (program : Program π) :
    (program.labelled load).IsLoad load program.hooks where
  hooks_eq := List.map_map
  label hook callback found := by
    have labelled := (lookup_map_callbacks (Labelled.mk load) hook program.callbacks).symm.trans found
    obtain ⟨plain, _, rfl⟩ := Option.map_eq_some_iff.mp labelled
    exact ⟨rfl, rfl⟩

/-- Loading a program is remembered, and the program carries the number of the load. -/
theorem load_traced (scripting : Scripting ε π) (name : String) (world : World (Traced ε)) :
    ∃ program after loaded, scripting.traced.load name world = (program, after) ∧
      program.IsLoad world.loads.length loaded.hooks ∧ program.failure? = loaded.failure ∧
      after.calls = world.calls ∧ after.loads = world.loads ++ [loaded] := by
  refine ⟨_, _, ⟨_, _⟩, rfl, isLoad_labelled _ _, ?_, rfl, rfl⟩
  rfl

theorem hasHook_eq_contains (program : Program π) (hook : Hook) :
    program.hasHook hook = program.hooks.contains hook := by
  unfold hasHook hooks
  induction program.callbacks with
  | nil => rfl
  | cons entry rest ih =>
      obtain ⟨key, callback⟩ := entry
      rw [List.lookup_cons, List.map_cons, List.contains_cons]
      by_cases same : hook = key
      · simp only [same, beq_self_eq_true, Option.isSome_some, Bool.true_or]
      · simp only [beq_eq_false_iff_ne.mpr same, ih, Bool.false_or]

namespace IsLoad

variable {load : Nat} {hooks : List Hook} {program : Program (Labelled π)}

/-- How a call ended in a program: well, or with the failure that was traced. -/
def Ended (load : Nat) (hooks : List Hook) (program : Program (Labelled π)) :
    Option CallFailure → Prop
  | none => program.IsLoad load hooks ∧ program.kind = none
  | some failure => program.kind = failure.kind ∧ program.error = failure.message

/-- Calling a hook runs its callback if there is one. -/
theorem invoke (isLoad : program.IsLoad load hooks) (usable : program.kind = none)
    (scripting : Scripting ε π) (hook : Hook) (world : World (Traced ε)) :
    ∃ result after reached made,
      program.invoke scripting.traced hook world = (result, after, reached) ∧
      Played load ([hook].filter hooks.contains) world reached made ∧
      Ended load hooks after (firstFailure? made) ∧
      error? result = (firstFailure? made).map (CallFailure.toError .native) ∧
      result ≠ .ok .failed := by
  have ready : ¬ program.isUnusable = true := by
    rw [isUnusable, usable]
    exact Bool.false_ne_true
  have cleared : program.cleared.IsLoad load hooks := ⟨isLoad.hooks_eq, isLoad.label⟩
  have defined := program.hasHook_eq_contains hook
  rw [isLoad.hooks_eq, hasHook] at defined
  unfold Program.invoke
  rw [if_neg ready]
  cases found : program.callbacks.lookup hook with
  | none =>
      rw [found, Option.isSome_none] at defined
      refine ⟨_, _, _, [], rfl, ?_, ⟨cleared, rfl⟩, rfl, nofun⟩
      rw [List.filter_cons_of_neg (by rw [← defined]; exact Bool.false_ne_true)]
      exact .none world
  | some callback =>
      rw [found, Option.isSome_some] at defined
      obtain ⟨rfl, rfl⟩ := isLoad.label hook callback found
      rw [List.filter_cons_of_pos defined.symm]
      have played := Played.callback scripting callback world
      simp only [Scripting.traced] at played ⊢
      generalize scripting.run callback.callback world.erased = ran at played ⊢
      refine ⟨_, _, _, [callback.record ran], rfl, ?_⟩
      rcases ran with ⟨failure | _, reached⟩
      · exact ⟨played, ⟨rfl, rfl⟩, rfl, nofun⟩
      · exact ⟨played, ⟨cleared, rfl⟩, rfl, nofun⟩

/-- Calling a hook in a style does the same. A failure is reported, or kept with the program. -/
theorem call (isLoad : program.IsLoad load hooks) (usable : program.kind = none)
    (scripting : Scripting ε π) (hook : Hook) (style : CallStyle) (world : World (Traced ε)) :
    ∃ result after reached made,
      program.call scripting.traced hook style world = (result, after, reached) ∧
      Played load ([hook].filter hooks.contains) world reached made ∧
      Ended load hooks after (firstFailure? made) ∧
      (firstFailure? made = none → ∃ outcome, result = .ok outcome ∧ outcome ≠ .failed) ∧
      (∀ failure, firstFailure? made = some failure → result = match style with
        | .mustSucceed => .error (failure.toError .native)
        | .fireAndForget => .ok .failed) := by
  obtain ⟨result, after, reached, made, invoked, played, ended, told, unfailed⟩ :=
    isLoad.invoke usable scripting hook world
  unfold Program.call Program.fire
  rw [invoked]
  cases result with
  | ok outcome =>
      have clean : firstFailure? made = none := Option.map_eq_none_iff.mp told.symm
      have completed : outcome ≠ .failed := fun failed => unfailed (congrArg Except.ok failed)
      have never : ∀ failure, firstFailure? made ≠ some failure := fun failure failed =>
        Option.some_ne_none failure (failed.symm.trans clean)
      cases style with
      | mustSucceed | fireAndForget =>
          exact ⟨_, _, _, made, rfl, played, ended, fun _ => ⟨_, rfl, completed⟩,
            fun failure failed => (never failure failed).elim⟩
  | error error =>
      obtain ⟨failure, failed, same⟩ := Option.map_eq_some_iff.mp told.symm
      have unclean : firstFailure? made ≠ none := failed ▸ Option.some_ne_none failure
      cases style with
      | mustSucceed =>
          refine ⟨_, _, _, made, rfl, played, ended, fun clean => (unclean clean).elim, ?_⟩
          intro other failed'
          rw [← same, Option.some.inj (failed.symm.trans failed')]
      | fireAndForget =>
          exact ⟨_, _, _, made, rfl, played.note _ _ _, ended, fun clean => (unclean clean).elim,
            fun _ _ => rfl⟩

/-- Calling hooks in order runs the callbacks there are, up to the first that fails. -/
theorem invokeAll (isLoad : program.IsLoad load hooks) (usable : program.kind = none)
    (scripting : Scripting ε π) (plan : List Hook) (world : World (Traced ε)) :
    ∃ result after reached made,
      program.invokeAll scripting.traced plan world = (result, after, reached) ∧
      Played load (plan.filter hooks.contains) world reached made ∧
      Ended load hooks after (firstFailure? made) ∧
      error? result = (firstFailure? made).map (CallFailure.toError .native) := by
  induction plan generalizing program world with
  | nil => exact ⟨_, _, _, [], rfl, .none world, ⟨isLoad, usable⟩, rfl⟩
  | cons hook rest ih =>
      obtain ⟨result, after, reached, made, invoked, played, ended, told, _⟩ :=
        isLoad.invoke usable scripting hook world
      have split : (hook :: rest).filter hooks.contains =
          [hook].filter hooks.contains ++ rest.filter hooks.contains :=
        List.filter_append [hook] rest
      unfold Program.invokeAll
      rw [invoked, split]
      cases failed : firstFailure? made with
      | none =>
          rw [failed] at ended told
          obtain ⟨result', after', reached', more, invokedAll, playedAll, endedAll, toldAll⟩ :=
            ih ended.1 ended.2 reached
          refine ⟨result', after', reached', made ++ more, ?_, played.append failed playedAll, ?_⟩
          · cases result with
            | ok _ => exact invokedAll
            | error _ => cases told
          · rw [firstFailure?_append, failed, Option.none_or]
            exact ⟨endedAll, toldAll⟩
      | some failure =>
          rw [failed] at ended told
          cases result with
          | ok _ => cases told
          | error error =>
              refine ⟨_, _, _, made, rfl, (played.cut failed).note _ _ _, ?_⟩
              rw [failed]
              exact ⟨ended, told⟩

end IsLoad

end Program

end ScriptedRobot.Control
