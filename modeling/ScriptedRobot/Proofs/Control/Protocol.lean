import ScriptedRobot.Control.Rehearsal
import ScriptedRobot.Proofs.Control.Activity

/-! # The call protocol of an activation

Which callbacks run between entering a mode and leaving it, over whole sessions: those of the
program that was just loaded, in the order of the schedule of the mode, up to the first failure. -/

namespace ScriptedRobot

namespace OwnHooks

/-- Everything that is called while a number of steps are made. -/
def schedule (own : OwnHooks) (defined : List Hook) (steps : Nat) : List Hook :=
  own.beginning defined ++ (List.replicate steps (own.stepHook defined)).filter defined.contains ++
    own.ending defined

end OwnHooks

namespace Control

variable {ε π : Type}

namespace Session

/-- A run from the start, with a trace. -/
def tracedRun (scripting : Scripting ε π) (period : Int32) (world : World ε)
    (moves : List (Move ε)) : Session (Traced ε) (Labelled π) :=
  run scripting.traced (moves.map Move.traced) (.start period (world.traced [] []))

/-- The callbacks that a run from the start runs. -/
def callsOf (scripting : Scripting ε π) (period : Int32) (world : World ε)
    (moves : List (Move ε)) : List Call :=
  (tracedRun scripting period world moves).world.calls

/-- The programs that a run from the start loads. -/
def loadsOf (scripting : Scripting ε π) (period : Int32) (world : World ε)
    (moves : List (Move ε)) : List Loaded :=
  (tracedRun scripting period world moves).world.loads

section Runs

variable (scripting : Scripting ε π) (period : Int32) (world : World ε)

/-- A run is its traced run without the trace. -/
theorem erased_tracedRun (moves : List (Move ε)) :
    (tracedRun scripting period world moves).erased = run scripting moves (.start period world) :=
  (run_erased scripting _ moves).symm

theorem tracedRun_append (earlier later : List (Move ε)) :
    tracedRun scripting period world (earlier ++ later) =
      run scripting.traced (later.map Move.traced) (tracedRun scripting period world earlier) := by
  unfold tracedRun
  rw [List.map_append, run_append]

end Runs

/-- A session either runs a program of its latest load or is silent, and whatever was called came
from a load. -/
structure Sound (session : Session (Traced ε) (Labelled π)) : Prop where
  origin : ∀ call ∈ session.world.calls, call.load < session.world.loads.length
  status : session.Silent ∨ ∃ own load hooks,
    load < session.world.loads.length ∧ session.Running own load hooks

theorem sound_start (period : Int32) (world : World ε) :
    (start period (world.traced [] []) : Session (Traced ε) (Labelled π)).Sound where
  origin _ member := by cases member
  status := .inl (.inl rfl)

/-- Calls of a load that is known keep a session sound. -/
theorem Sound.of_calls {session after : Session (Traced ε) (Labelled π)} (sound : session.Sound)
    (made : List Call) (loads : List Loaded)
    (callsIs : after.world.calls = session.world.calls ++ made)
    (loadsIs : after.world.loads = session.world.loads ++ loads)
    (origin : ∀ call ∈ made, call.load < after.world.loads.length)
    (status : after.Silent ∨ ∃ own load hooks,
      load < after.world.loads.length ∧ after.Running own load hooks) : after.Sound where
  origin call member := by
    rw [callsIs] at member
    rcases List.mem_append.mp member with old | new
    · rw [loadsIs, List.length_append]
      exact Nat.lt_add_right _ (sound.origin call old)
    · exact origin call new
  status := status

theorem sound_enter {session : Session (Traced ε) (Labelled π)} (sound : session.Sound)
    (scripting : Scripting ε π) (mode : Mode) (programName : Option String) :
    (session.enter scripting.traced mode programName).2.Sound := by
  have entered := enter_traced session mode programName scripting
  generalize session.enter scripting.traced mode programName = move at entered ⊢
  obtain ⟨result, after⟩ := move
  cases entered with
  | idle _ calls loads program _ =>
      exact sound.of_calls [] [] (calls.trans (List.append_nil _).symm)
        (loads.trans (List.append_nil _).symm) nofun (.inl (.inl program))
  | unloaded _ _ calls loads latched =>
      exact sound.of_calls [] _ (calls.trans (List.append_nil _).symm) loads nofun
        (.inl (.inr (latched ▸ Option.some_ne_none _)))
  | @started _ _ _ made _ _ _ _ calls loads _ origin latched _ running =>
      have newest : session.world.loads.length < after.world.loads.length := by
        rw [loads, List.length_append]
        exact Nat.lt_succ_self _
      refine sound.of_calls made _ calls loads (fun call member => origin call member ▸ newest) ?_
      by_cases clean : firstFailure? made = none
      · exact .inr ⟨_, _, _, newest, running clean⟩
      · exact .inl (.inr fun healthy => clean (Option.map_eq_none_iff.mp (latched ▸ healthy)))

theorem sound_step {session : Session (Traced ε) (Labelled π)} (sound : session.Sound)
    (scripting : Scripting ε π) (move : Move ε) :
    (session.step scripting.traced move.traced).Sound := by
  by_cases entering : move.isEnter = true
  · cases move with
    | enter mode programName => exact sound_enter sound scripting mode programName
    | tick | exit | outside _ => cases entering
  rw [Bool.not_eq_true] at entering
  rcases sound.status with silent | ⟨own, load, hooks, known, running⟩
  · obtain ⟨still, calls, loads, _⟩ := step_silent silent scripting entering
    exact sound.of_calls [] [] (calls.trans (List.append_nil _).symm)
      (loads.trans (List.append_nil _).symm) nofun (.inl still)
  by_cases leaving : move.isExit = true
  · cases move with
    | exit =>
        obtain ⟨made, calls, loads, _, origin, _⟩ := exit_running running scripting
        refine sound.of_calls made [] calls (loads.trans (List.append_nil _).symm) ?_
          (.inl (.inl (program_exit session scripting.traced)))
        intro call member
        rw [origin call member]
        exact loads ▸ known
    | enter _ _ | tick | outside _ => cases leaving
  rw [Bool.not_eq_true] at leaving
  obtain ⟨made, calls, loads, _, origin, still, failed⟩ :=
    step_running running scripting ⟨entering, leaving⟩
  refine sound.of_calls made [] calls (loads.trans (List.append_nil _).symm)
    (fun call member => ?_) ?_
  · rw [loads, origin call member]
    exact known
  · by_cases clean : firstFailure? made = none
    · exact .inr ⟨own, load, hooks, loads ▸ known, still clean⟩
    · exact .inl (failed clean)

/-- Every session that is reached is sound. -/
theorem sound_tracedRun (scripting : Scripting ε π) (period : Int32) (world : World ε)
    (moves : List (Move ε)) : (tracedRun scripting period world moves).Sound := by
  refine run_induction Sound (fun move => ∃ plain, Move.traced plain = move)
    ?_ (fun move member => ?_) (sound_start period world)
  · rintro session _ ⟨move, rfl⟩ sound
    exact sound_step sound scripting move
  · obtain ⟨plain, _, same⟩ := List.mem_map.mp member
    exact ⟨plain, same⟩

/-- The calls of one activation: on entering, while it lasts, and on leaving, by the programs that
were loaded before it and with it. -/
inductive Lifecycle (mode : Mode) (programName : Option String) (before : List Loaded) :
    List Loaded → List Call → List Call → List Call → Prop
  /-- Without a program that was loaded nothing is called. -/
  | silent {after : List Loaded}
      (reason : mode.isScripted = false ∨ programName = none ∨
        ∃ loaded error, after = before ++ [loaded] ∧ loaded.failure = some error) :
      Lifecycle mode programName before after [] [] []
  /-- The callbacks of the program that was loaded follow the schedule up to the first failure. -/
  | scripted {own : OwnHooks} {loaded : Loaded} {started steps ended : List Call}
      (driven : mode.ownHooks? = some own) (loadable : loaded.failure = none)
      (whole : Follows (own.schedule loaded.hooks steps.length) (started ++ steps ++ ended))
      (unfinished : Follows (own.beginning loaded.hooks ++
        (List.replicate steps.length (own.stepHook loaded.hooks)).filter loaded.hooks.contains)
        (started ++ steps))
      (started_follows : Follows (own.beginning loaded.hooks) started)
      (steps_hook : ∀ call ∈ steps, call.hook = own.stepHook loaded.hooks)
      (ended_hooks : ended.map Call.hook <+: own.ending loaded.hooks)
      (origin : ∀ call ∈ started ++ steps ++ ended, call.load = before.length) :
      Lifecycle mode programName before (before ++ [loaded]) started steps ended

/-- What a silent session goes on to call. -/
theorem calls_of_silent {session : Session (Traced ε) (Labelled π)} (silent : session.Silent)
    (scripting : Scripting ε π) {middle : List (Move ε)}
    (inside : ∀ move ∈ middle, move.isEnter = false ∧ move.isExit = false) :
    (run scripting.traced (middle.map Move.traced) session).world.calls = session.world.calls ∧
      ∀ later : List (Move ε), (∀ move ∈ later, move.isEnter = false) →
        (run scripting.traced ((middle ++ .exit :: later).map Move.traced) session).world.calls =
          session.world.calls := by
  refine ⟨(run_silent silent scripting fun move member => (inside move member).1).2.1,
    fun later idle => (run_silent silent scripting fun move member => ?_).2.1⟩
  rcases List.mem_append.mp member with during | after
  · exact (inside move during).1
  · rcases List.mem_cons.mp after with rfl | afterwards
    · rfl
    · exact idle move afterwards

/-- What a running session goes on to call. -/
theorem calls_of_running {session : Session (Traced ε) (Labelled π)} {own : OwnHooks} {load : Nat}
    {hooks : List Hook} (running : session.Running own load hooks) (scripting : Scripting ε π)
    {middle : List (Move ε)}
    (inside : ∀ move ∈ middle, move.isEnter = false ∧ move.isExit = false) :
    ∃ steps ended,
      (run scripting.traced (middle.map Move.traced) session).world.calls =
        session.world.calls ++ steps ∧
      (∀ later : List (Move ε), (∀ move ∈ later, move.isEnter = false) →
        (run scripting.traced ((middle ++ .exit :: later).map Move.traced) session).world.calls =
          session.world.calls ++ (steps ++ ended)) ∧
      Follows ((List.replicate steps.length (own.stepHook hooks)).filter hooks.contains) steps ∧
      Follows ((List.replicate steps.length (own.stepHook hooks)).filter hooks.contains ++
        own.ending hooks) (steps ++ ended) ∧
      ended.map Call.hook <+: own.ending hooks ∧
      ∀ call ∈ steps ++ ended, call.load = load := by
  obtain ⟨steps, calls, loads, follows, origin, still, failed⟩ :=
    run_running running scripting inside
  generalize reached : run scripting.traced (middle.map Move.traced) session = driven
    at calls still failed
  have afterwards : ∀ later : List (Move ε), (∀ move ∈ later, move.isEnter = false) →
      (run scripting.traced ((middle ++ .exit :: later).map Move.traced) session).world.calls =
        (driven.exit scripting.traced).2.world.calls := by
    intro later idle
    rw [List.map_append, run_append, reached, List.map_cons, run_cons]
    exact (run_silent (.inl (program_exit driven scripting.traced)) scripting idle).2.1
  by_cases clean : firstFailure? steps = none
  · obtain ⟨ended, left, _, followsEnd, originEnd, _⟩ := exit_running (still clean) scripting
    refine ⟨steps, ended, calls, fun later idle => ?_, follows, follows.append clean followsEnd,
      followsEnd.hooks, fun call member => (List.mem_append.mp member).elim (origin call)
        (originEnd call)⟩
    rw [afterwards later idle, left, calls, List.append_assoc]
  · obtain ⟨failure, failedWith⟩ := Option.ne_none_iff_exists'.mp clean
    refine ⟨steps, [], calls, fun later idle => ?_, follows, ?_, List.nil_prefix, ?_⟩
    · rw [afterwards later idle, (exit_silent (failed clean) scripting).1, calls, List.append_nil]
    · rw [List.append_nil]
      exact follows.cut failedWith
    · rw [List.append_nil]
      exact origin

/-- Entering a mode begins an activation. -/
theorem lifecycle_of_enter (session : Session (Traced ε) (Labelled π)) (scripting : Scripting ε π)
    (mode : Mode) (programName : Option String) {middle : List (Move ε)}
    (inside : ∀ move ∈ middle, move.isEnter = false ∧ move.isExit = false) :
    ∃ started steps ended,
      let entered := (session.enter scripting.traced mode programName).2
      entered.world.calls = session.world.calls ++ started ∧
      (run scripting.traced (middle.map Move.traced) entered).world.calls =
        session.world.calls ++ (started ++ steps) ∧
      (∀ later : List (Move ε), (∀ move ∈ later, move.isEnter = false) →
        (run scripting.traced ((middle ++ .exit :: later).map Move.traced) entered).world.calls =
          session.world.calls ++ (started ++ steps ++ ended)) ∧
      Lifecycle mode programName session.world.loads entered.world.loads started steps ended := by
  have entering := enter_traced session mode programName scripting
  generalize session.enter scripting.traced mode programName = move at entering ⊢
  obtain ⟨result, entered⟩ := move
  have of_silent : ∀ started, entered.Silent →
      entered.world.calls = session.world.calls ++ started →
      (run scripting.traced (middle.map Move.traced) entered).world.calls =
        session.world.calls ++ (started ++ []) ∧
      ∀ later : List (Move ε), (∀ move ∈ later, move.isEnter = false) →
        (run scripting.traced ((middle ++ .exit :: later).map Move.traced) entered).world.calls =
          session.world.calls ++ (started ++ [] ++ []) := by
    intro started silent calls
    obtain ⟨during, afterwards⟩ := calls_of_silent silent scripting inside
    simp only [List.append_nil, ← calls]
    exact ⟨during, afterwards⟩
  cases entering with
  | idle undriven calls _ program _ =>
      have calls' := calls.trans (List.append_nil _).symm
      refine ⟨[], [], [], calls', (of_silent [] (.inl program) calls').1,
        (of_silent [] (.inl program) calls').2, .silent ?_⟩
      rcases undriven with unscripted | unnamed
      · refine .inl ?_
        rw [Mode.isScripted_eq, unscripted]
        rfl
      · exact .inr (.inl unnamed)
  | unloaded _ failure calls loads latched =>
      have calls' := calls.trans (List.append_nil _).symm
      have silent : entered.Silent := .inr (latched ▸ Option.some_ne_none _)
      exact ⟨[], [], [], calls', (of_silent [] silent calls').1, (of_silent [] silent calls').2,
        .silent (.inr (.inr ⟨_, _, loads, failure⟩))⟩
  | @started _ own loaded made _ _ driven loadable calls loads follows origin latched _ running =>
      dsimp only at calls loads running latched ⊢
      rw [loads]
      by_cases clean : firstFailure? made = none
      · obtain ⟨steps, ended, during, afterwards, followsSteps, followsRest, ending, originRest⟩ :=
          calls_of_running (running clean) scripting inside
        refine ⟨made, steps, ended, calls, ?_, fun later idle => ?_,
          .scripted driven loadable ?_ (follows.append clean followsSteps) follows ?_ ending ?_⟩
        · rw [during, calls, List.append_assoc]
        · rw [afterwards later idle, calls, List.append_assoc, List.append_assoc]
        · rw [OwnHooks.schedule, List.append_assoc, List.append_assoc]
          exact follows.append clean followsRest
        · intro call member
          have planned := followsSteps.hooks.subset (List.mem_map_of_mem member)
          exact List.eq_of_mem_replicate (List.mem_filter.mp planned).1
        · intro call member
          rw [List.append_assoc] at member
          exact (List.mem_append.mp member).elim (origin call) (originRest call)
      · obtain ⟨failure, failed⟩ := Option.ne_none_iff_exists'.mp clean
        have silent : entered.Silent :=
          .inr fun healthy => clean (Option.map_eq_none_iff.mp (latched ▸ healthy))
        refine ⟨made, [], [], calls, (of_silent made silent calls).1, (of_silent made silent calls).2,
          .scripted driven loadable ?_ ?_ follows nofun List.nil_prefix ?_⟩
        · rw [List.append_nil, List.append_nil, OwnHooks.schedule, List.append_assoc]
          exact follows.cut failed
        · rw [List.append_nil]
          exact follows.cut failed
        · rw [List.append_nil, List.append_nil]
          exact origin

section Activations

variable (scripting : Scripting ε π) (period : Int32) (world : World ε)

/-- Whatever happened before, the callbacks of an activation are those of the program it loaded and
follow the schedule of its mode up to the first failure: the hooks of its start on entering, steps
while it lasts, and the hooks of its end on leaving. Nothing is called after it until a mode is
entered again. -/
theorem activation_follows_lifecycle (earlier middle : List (Move ε)) (mode : Mode)
    (programName : Option String)
    (inside : ∀ move ∈ middle, move.isEnter = false ∧ move.isExit = false) :
    ∃ started steps ended,
      callsOf scripting period world (earlier ++ [.enter mode programName]) =
        callsOf scripting period world earlier ++ started ∧
      callsOf scripting period world (earlier ++ .enter mode programName :: middle) =
        callsOf scripting period world earlier ++ (started ++ steps) ∧
      (∀ later : List (Move ε), (∀ move ∈ later, move.isEnter = false) →
        callsOf scripting period world
            (earlier ++ .enter mode programName :: (middle ++ .exit :: later)) =
          callsOf scripting period world earlier ++ (started ++ steps ++ ended)) ∧
      Lifecycle mode programName (loadsOf scripting period world earlier)
        (loadsOf scripting period world (earlier ++ [.enter mode programName]))
        started steps ended ∧
      (∀ call ∈ callsOf scripting period world earlier,
        call.load < (loadsOf scripting period world earlier).length) ∧
      ((∀ move ∈ earlier, move.isEnter = false) → callsOf scripting period world earlier = []) ∧
      ∀ moves, (tracedRun scripting period world moves).erased =
        run scripting moves (.start period world) := by
  obtain ⟨started, steps, ended, entered, during, afterwards, lifecycle⟩ :=
    lifecycle_of_enter (tracedRun scripting period world earlier) scripting mode programName inside
  unfold callsOf loadsOf
  refine ⟨started, steps, ended, ?_, ?_, fun later idle => ?_, ?_, ?_, fun idle => ?_,
    erased_tracedRun scripting period world⟩
  · rw [tracedRun_append]
    exact entered
  · rw [tracedRun_append]
    exact during
  · rw [tracedRun_append]
    exact afterwards later idle
  · rw [tracedRun_append]
    exact lifecycle
  · exact (sound_tracedRun scripting period world earlier).origin
  · exact (run_silent (.inl rfl) scripting idle).2.1

end Activations

namespace Practice

/-! A program without hooks of the mode's own practises two ticks of teleop. -/

def world : World Rehearsal := { scripts := { hooks := [.init, .run, .cleanup] } }

def ticks : List (Move Rehearsal) := [.tick, .tick]

end Practice

theorem practice_follows_lifecycle :
    ((callsOf Rehearsal.scripting 20 Practice.world
        ([] ++ .enter .teleop (some "practice") :: (Practice.ticks ++ [.exit]))).map Call.hook =
      [.init, .run, .run, .cleanup]) ∧
      ∃ started steps ended,
        callsOf Rehearsal.scripting 20 Practice.world
            ([] ++ .enter .teleop (some "practice") :: (Practice.ticks ++ [.exit])) =
          callsOf Rehearsal.scripting 20 Practice.world [] ++ (started ++ steps ++ ended) ∧
        Lifecycle .teleop (some "practice") []
          (loadsOf Rehearsal.scripting 20 Practice.world [.enter .teleop (some "practice")])
          started steps ended := by
  have inside : ∀ move ∈ Practice.ticks, move.isEnter = false ∧ move.isExit = false := by
    intro move member
    rcases List.mem_cons.mp member with rfl | member
    · exact ⟨rfl, rfl⟩
    · rw [List.mem_singleton.mp member]
      exact ⟨rfl, rfl⟩
  obtain ⟨started, steps, ended, _, _, left, lifecycle, _⟩ :=
    activation_follows_lifecycle Rehearsal.scripting 20 Practice.world [] Practice.ticks .teleop
      (some "practice") inside
  exact ⟨by decide +kernel, started, steps, ended, left [] nofun, lifecycle⟩

end Session

end Control

end ScriptedRobot
