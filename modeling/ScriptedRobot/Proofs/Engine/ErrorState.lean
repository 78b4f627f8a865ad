import ScriptedRobot.Proofs.Control.Requests
import ScriptedRobot.Proofs.Engine.Candor
import ScriptedRobot.Proofs.Engine.LoadFailure
import ScriptedRobot.Script.Steps

/-! # The error of a loaded program

A program that was loaded is asked to call hooks, in any order and in any of the three ways, while
its host goes on with whatever it does. Message and cause always tell of the latest call: there is a
cause exactly if that call ran a callback that raised, and then both are those of what was raised.
A function of the host may fail without a word, though. Then the cause stands beside an empty
message, and the program counts as one without an error. -/

namespace ScriptedRobot.Engine

open Control (CallOutcome Program Request Session)
open Script (Callable Run Value)

/-! ## Calls -/

/-- What the callback of a hook raises when it is called. -/
def Raises (callbacks : List (Hook × Callable)) (hook : Hook) (host : Host) (raised : Value) :
    Prop :=
  ∃ callback, callbacks.lookup hook = some callback ∧
    (run (Run.call callback []) host).1 = .error raised

/-- What calling a hook of a usable program comes to. -/
inductive Invoked (program : Program Callable) (hook : Hook) (host : Host) :
    Except ScriptError CallOutcome × Program Callable × Host → Prop where
  | skipped (absent : program.callbacks.lookup hook = none) :
      Invoked program hook host (.ok .skipped, program.cleared, host)
  | completed {callback : Callable} {returned : List Value} {after : Host}
      (present : program.callbacks.lookup hook = some callback)
      (ran : run (Run.call callback []) host = (.ok returned, after)) :
      Invoked program hook host (.ok .completed, program.cleared, after)
  | failed {callback : Callable} {raised : Value} {after : Host}
      (present : program.callbacks.lookup hook = some callback)
      (ran : run (Run.call callback []) host = (.error raised, after)) :
      Invoked program hook host (.error (failureOf raised), { program with
        error := raised.errorMessage
        kind := some (failureOf raised).kind }, after)

theorem invoked_of_usable {program : Program Callable} (usable : program.isUnusable = false)
    (hook : Hook) (host : Host) :
    Invoked program hook host (program.invoke scripting hook host) := by
  unfold Program.invoke
  rw [usable, if_neg Bool.false_ne_true]
  cases present : program.callbacks.lookup hook with
  | none => exact .skipped present
  | some callback =>
      dsimp only [scripting]
      unfold runCallback
      cases ran : run (Run.call callback []) host with
      | mk outcome after =>
          cases outcome with
          | ok returned => exact .completed present ran
          | error raised => exact .failed present ran

namespace Invoked

variable {program : Program Callable} {hook : Hook} {host : Host}
  {result : Except ScriptError CallOutcome × Program Callable × Host}
  (invoked : Invoked program hook host result)
include invoked

theorem callbacks : result.2.1.callbacks = program.callbacks := by
  cases invoked <;> rfl

theorem skips (absent : program.callbacks.lookup hook = none) :
    result.1 = .ok .skipped ∧ result.2.1 = program.cleared := by
  cases invoked with
  | skipped _ => exact ⟨rfl, rfl⟩
  | completed present _ | failed present _ =>
      rw [absent] at present
      cases present

/-- Exactly what raises is reported. -/
theorem error_iff (error : ScriptError) :
    result.1 = .error error ↔ ∃ raised, Raises program.callbacks hook host raised ∧
      failureOf raised = error := by
  cases invoked with
  | skipped absent =>
      refine ⟨nofun, ?_⟩
      rintro ⟨_, ⟨_, present, _⟩, _⟩
      rw [absent] at present
      cases present
  | completed present ran =>
      refine ⟨nofun, ?_⟩
      rintro ⟨_, ⟨_, again, raises⟩, _⟩
      obtain rfl := Option.some.inj (present.symm.trans again)
      rw [ran] at raises
      cases raises
  | @failed callback raised after present ran =>
      constructor
      · rintro ⟨⟩
        exact ⟨raised, ⟨callback, present, congrArg Prod.fst ran⟩, rfl⟩
      · rintro ⟨_, ⟨_, again, raises⟩, rfl⟩
        obtain rfl := Option.some.inj (present.symm.trans again)
        rw [ran] at raises
        cases raises
        rfl

/-- What raises becomes the error of the program. -/
theorem error_of_raises {raised : Value} (raises : Raises program.callbacks hook host raised) :
    result.2.1.error = raised.errorMessage ∧
      result.2.1.kind = some (if raised.isNative then .native else .runtime) := by
  have reported := (invoked.error_iff (failureOf raised)).mpr ⟨raised, raises, rfl⟩
  obtain ⟨callback, present, outcome⟩ := raises
  cases invoked with
  | skipped _ | completed _ _ => cases reported
  | failed again ran =>
      obtain rfl := Option.some.inj (present.symm.trans again)
      rw [ran] at outcome
      cases outcome
      exact ⟨rfl, rfl⟩

/-- Without anything that raises the program has no error. -/
theorem cleared_of_silent (silent : ∀ raised, ¬ Raises program.callbacks hook host raised) :
    result.2.1 = program.cleared := by
  cases invoked with
  | skipped _ | completed _ _ => rfl
  | @failed callback raised _ present ran =>
      exact (silent raised ⟨callback, present, congrArg Prod.fst ran⟩).elim

theorem told_eq_failed :
    CallOutcome.told result.1 = .failed ↔ ∃ error, result.1 = .error error := by
  cases invoked with
  | skipped _ | completed _ _ => exact iff_of_false nofun nofun
  | failed _ _ => exact iff_of_true rfl ⟨_, rfl⟩

end Invoked

/-! ## The life of a program -/

/-- A program that was loaded, and the session of its host. -/
structure Hosted where
  program : Program Callable
  session : Session Engine Callable

/-- What happens once a program was loaded: it is asked to call a hook, its host makes a move, or
anything else becomes of the host, such as functions of any kind being handed out. -/
inductive Deed where
  | request (request : Request)
  | move (move : HostMove)
  | outside (effect : Host → Host)

/-- A deed that brings no failure without a message to a host that has none. -/
def Deed.IsCandid : Deed → Prop
  | .request _ => True
  | .move made => made.IsCandid
  | .outside effect => ∀ host, Engine.IsCandid host → Engine.IsCandid (effect host)

namespace Hosted

/-- Load a program. -/
def load (name path : String) (session : Session Engine Callable) : Hosted :=
  let (program, world) := loadAs name path session.world
  ⟨program, { session with world }⟩

/-- Ask the program to call a hook. -/
def answer (request : Request) (hosted : Hosted) : Except ScriptError CallOutcome × Hosted :=
  let (answer, program, world) := request.make scripting hosted.program hosted.session.world
  (answer, ⟨program, { hosted.session with world }⟩)

/-- Something happens. -/
def step (hosted : Hosted) : Deed → Hosted
  | .request request => (hosted.answer request).2
  | .move move => { hosted with session := hosted.session.step scripting move.move }
  | .outside effect =>
    { hosted with session := { hosted.session with world := effect hosted.session.world } }

/-- Things happen one after the other. -/
def run (deeds : List Deed) (hosted : Hosted) : Hosted :=
  deeds.foldl step hosted

theorem program_answer (hosted : Hosted) (request : Request) :
    (hosted.answer request).2.program =
      (hosted.program.invoke scripting request.hook hosted.session.world).2.1 :=
  request.program_make scripting hosted.program hosted.session.world

theorem result_answer (hosted : Hosted) (request : Request) : (hosted.answer request).1 =
    match request.style with
    | .mustSucceed => (hosted.program.invoke scripting request.hook hosted.session.world).1
    | .fireAndForget =>
      .ok (.told (hosted.program.invoke scripting request.hook hosted.session.world).1) :=
  request.answer_make scripting hosted.program hosted.session.world

/-- The program has the callbacks it was loaded with, and the cause of its error is not one of a
load. -/
structure Sound (callbacks : List (Hook × Callable)) (hosted : Hosted) : Prop where
  callbacks : hosted.program.callbacks = callbacks
  kinds : ∀ kind, hosted.program.kind = some kind → kind = .runtime ∨ kind = .native

variable {callbacks : List (Hook × Callable)} {hosted : Hosted}

theorem sound_load {name path : String} {session : Session Engine Callable}
    (loaded : (load name path session).program.kind = none) :
    (load name path session).program.error = "" ∧
      Sound (load name path session).program.callbacks (load name path session) := by
  have clean : (load name path session).program.error = "" := by
    unfold load loadAs at loaded ⊢
    generalize capture path session.world = captured at loaded ⊢
    rcases captured with ⟨_ | _, after⟩
    · cases loaded
    · rfl
  refine ⟨clean, rfl, fun kind known => ?_⟩
  rw [loaded] at known
  cases known

/-! ### What a call leaves -/

/-- What the error of a program tells of the call that it was just asked for. -/
structure TellsOf (callbacks : List (Hook × Callable)) (hook : Hook) (host : Host)
    (answer : Except ScriptError CallOutcome) (program : Program Callable) : Prop where
  kept : program.callbacks = callbacks
  kind_iff : program.kind.isSome = true ↔ ∃ raised, Raises callbacks hook host raised
  told : ∀ raised, Raises callbacks hook host raised → program.error = raised.errorMessage ∧
    program.kind = some (if raised.isNative then .native else .runtime)
  clear : program.kind = none → program.error = ""
  /-- What says nothing when it is raised makes no error. -/
  hasError_iff : program.hasError = true ↔
    ∃ raised, Raises callbacks hook host raised ∧ raised.errorMessage ≠ ""
  skips : callbacks.lookup hook = none →
    answer = .ok .skipped ∧ program.error = "" ∧ program.kind = none

/-- What becomes of a call, whichever way it was made, compared with a plain call. -/
structure LikePlain (plain : Except ScriptError CallOutcome × Program Callable × Host)
    (style : CallStyle) (answer : Except ScriptError CallOutcome) (program : Program Callable) :
    Prop where
  same : program = plain.2.1
  mustSucceed : style = .mustSucceed → answer = plain.1
  fireAndForget : style = .fireAndForget → ∃ outcome, answer = .ok outcome ∧
    (outcome = .failed ↔ ∃ error, plain.1 = .error error) ∧
    ∀ other, plain.1 = .ok other → outcome = other
  reported : ∀ error, plain.1 = .error error → program.error = error.message ∧
    program.kind = some error.kind

namespace Sound

variable (sound : hosted.Sound callbacks)
include sound

theorem usable : hosted.program.isUnusable = false := by
  unfold Program.isUnusable
  cases known : hosted.program.kind with
  | none => rfl
  | some kind =>
      rcases sound.kinds kind known with rfl | rfl
      · rfl
      · rfl

variable (request : Request)

theorem invoked_answer : Invoked hosted.program request.hook hosted.session.world
    (hosted.program.invoke scripting request.hook hosted.session.world) :=
  invoked_of_usable sound.usable request.hook hosted.session.world

theorem error_answer {raised : Value}
    (raises : Raises callbacks request.hook hosted.session.world raised) :
    (hosted.answer request).2.program.error = raised.errorMessage ∧
      (hosted.answer request).2.program.kind =
        some (if raised.isNative then .native else .runtime) := by
  rw [← sound.callbacks] at raises
  rw [program_answer]
  exact (sound.invoked_answer request).error_of_raises raises

theorem cleared_answer
    (silent : ¬ ∃ raised, Raises callbacks request.hook hosted.session.world raised) :
    (hosted.answer request).2.program = hosted.program.cleared := by
  rw [← sound.callbacks] at silent
  rw [program_answer]
  exact (sound.invoked_answer request).cleared_of_silent fun raised raises =>
    silent ⟨raised, raises⟩

theorem kind_answer : (hosted.answer request).2.program.kind.isSome = true ↔
    ∃ raised, Raises callbacks request.hook hosted.session.world raised := by
  by_cases silent : ∃ raised, Raises callbacks request.hook hosted.session.world raised
  · obtain ⟨raised, raises⟩ := silent
    rw [(sound.error_answer request raises).2]
    exact iff_of_true rfl ⟨raised, raises⟩
  · rw [sound.cleared_answer request silent]
    exact iff_of_false nofun silent

theorem clear_answer (clear : (hosted.answer request).2.program.kind = none) :
    (hosted.answer request).2.program.error = "" := by
  have silent : ¬ ∃ raised, Raises callbacks request.hook hosted.session.world raised := by
    rw [← sound.kind_answer request, clear]
    exact Bool.false_ne_true
  rw [sound.cleared_answer request silent]
  rfl

theorem hasError_answer : (hosted.answer request).2.program.hasError = true ↔
    ∃ raised, Raises callbacks request.hook hosted.session.world raised ∧
      raised.errorMessage ≠ "" := by
  by_cases silent : ∃ raised, Raises callbacks request.hook hosted.session.world raised
  · obtain ⟨raised, raises⟩ := silent
    have told := (sound.error_answer request raises).1
    unfold Program.hasError
    simp only [Bool.not_eq_true', String.isEmpty_eq_false_iff]
    constructor
    · intro spoken
      exact ⟨raised, raises, told ▸ spoken⟩
    · rintro ⟨other, raisesToo, spoken⟩
      rw [(sound.error_answer request raisesToo).1]
      exact spoken
  · rw [sound.cleared_answer request silent]
    exact iff_of_false nofun fun ⟨raised, raises, _⟩ => silent ⟨raised, raises⟩

theorem skipped_answer (absent : callbacks.lookup request.hook = none) :
    (hosted.answer request).1 = .ok .skipped ∧
      (hosted.answer request).2.program.error = "" ∧
      (hosted.answer request).2.program.kind = none := by
  rw [← sound.callbacks] at absent
  obtain ⟨skipped, cleared⟩ := (sound.invoked_answer request).skips absent
  rw [program_answer, cleared, result_answer, skipped]
  refine ⟨?_, rfl, rfl⟩
  cases request.style <;> rfl

theorem answer : (hosted.answer request).2.Sound callbacks where
  callbacks := by
    rw [program_answer, (sound.invoked_answer request).callbacks, sound.callbacks]
  kinds kind known := by
    have caused : (hosted.answer request).2.program.kind.isSome = true :=
      Option.isSome_of_mem known
    obtain ⟨raised, raises⟩ := (sound.kind_answer request).mp caused
    obtain rfl := Option.some.inj ((sound.error_answer request raises).2.symm.trans known)
    cases raised.isNative with
    | false => exact .inl rfl
    | true => exact .inr rfl

theorem tellsOf_answer : TellsOf callbacks request.hook hosted.session.world
    (hosted.answer request).1 (hosted.answer request).2.program where
  kept := (sound.answer request).callbacks
  kind_iff := sound.kind_answer request
  told _ := sound.error_answer request
  clear := sound.clear_answer request
  hasError_iff := sound.hasError_answer request
  skips := sound.skipped_answer request

theorem likePlain_answer :
    LikePlain (hosted.program.invoke scripting request.hook hosted.session.world) request.style
      (hosted.answer request).1 (hosted.answer request).2.program := by
  have invoked := sound.invoked_answer request
  have result := hosted.result_answer request
  refine ⟨hosted.program_answer request, ?_, ?_, ?_⟩
  · intro style
    rwa [style] at result
  · intro style
    rw [style] at result
    refine ⟨.told _, result, invoked.told_eq_failed, fun other told => ?_⟩
    rw [told]
    rfl
  · intro error reported
    obtain ⟨raised, raises, rfl⟩ := (invoked.error_iff error).mp reported
    rw [program_answer]
    exact invoked.error_of_raises raises

theorem step (deed : Deed) : (hosted.step deed).Sound callbacks := by
  cases deed with
  | request request => exact sound.answer request
  | move _ | outside _ => exact ⟨sound.callbacks, sound.kinds⟩

theorem run (deeds : List Deed) : (hosted.run deeds).Sound callbacks := by
  induction deeds generalizing hosted with
  | nil => exact sound
  | cons deed rest ih => exact ih (sound.step deed)

end Sound

/-! ### Candid hosts -/

theorem candid_load {name path : String} {session : Session Engine Callable}
    (candid : Engine.IsCandid session.world) :
    Engine.IsCandid (load name path session).session.world :=
  candid_closed.over_loadAs name path session.world candid

theorem candid_answer (request : Request) (candid : Engine.IsCandid hosted.session.world) :
    Engine.IsCandid (hosted.answer request).2.session.world := by
  have kept := candid_controlClosed.call request.hook request.style hosted.program
    hosted.session.world candid
  rw [← Request.make_eq_call] at kept
  exact kept

theorem candid_step {deed : Deed} (vetted : deed.IsCandid)
    (candid : Engine.IsCandid hosted.session.world) :
    Engine.IsCandid (hosted.step deed).session.world := by
  cases deed with
  | request request => exact candid_answer request candid
  | move made => exact Engine.candid_step vetted candid
  | outside effect => exact vetted _ candid

theorem candid_run {deeds : List Deed} (vetted : ∀ deed ∈ deeds, deed.IsCandid)
    (candid : Engine.IsCandid hosted.session.world) :
    Engine.IsCandid (hosted.run deeds).session.world := by
  induction deeds generalizing hosted with
  | nil => exact candid
  | cons deed rest ih =>
      exact ih (fun later member => vetted later (List.mem_cons_of_mem _ member))
        (candid_step (vetted deed List.mem_cons_self) candid)

/-- On a candid host whatever is raised makes an error. -/
theorem TellsOf.hasError_of_candid {hook : Hook} {host : Host}
    {answer : Except ScriptError CallOutcome} {program : Program Callable}
    (tells : TellsOf callbacks hook host answer program) (candid : Engine.IsCandid host) :
    program.hasError = true ↔ ∃ raised, Raises callbacks hook host raised := by
  refine tells.hasError_iff.trans (exists_congr fun raised => and_iff_left_of_imp ?_)
  rintro ⟨callback, _, outcome⟩
  exact errorMessage_of_call candid (Prod.ext outcome rfl)

end Hosted

/-- A program that was loaded keeps its callbacks through all that happens, and its error tells of
the latest call, however that was made: there is a cause exactly if the call ran a callback that
raised, and then message and cause are those of what was raised. A hook without a callback is
skipped. All ways to call a hook do the same to the program; they report what a plain call reports,
or, where failures are not handed on, the outcome of it. Whether the program counts as one with an
error is told from the message, and agrees with the cause as long as no failure is without one, as
on a host that hands out nothing but the functions of the rig (`candid_hostRun`). -/
theorem error_tells_of_latest_call (session : Session Engine Callable) (name path : String)
    (loadable : (Hosted.load name path session).program.kind = none) (deeds : List Deed)
    (request : Request) :
    let loaded := Hosted.load name path session
    let before := loaded.run deeds
    let answered := before.answer request
    loaded.program.error = "" ∧
    Hosted.TellsOf loaded.program.callbacks request.hook before.session.world answered.1
      answered.2.program ∧
    Hosted.LikePlain (before.program.invoke scripting request.hook before.session.world)
      request.style answered.1 answered.2.program ∧
    (IsCandid session.world → (∀ deed ∈ deeds, deed.IsCandid) →
      (answered.2.program.hasError = true ↔
        ∃ raised, Raises loaded.program.callbacks request.hook before.session.world raised) ∧
      (answered.2.program.error ≠ "" ↔ answered.2.program.kind.isSome = true)) := by
  intro loaded before answered
  obtain ⟨clean, initially⟩ := Hosted.sound_load loadable
  have sound : before.Sound loaded.program.callbacks := initially.run deeds
  have tells := sound.tellsOf_answer request
  refine ⟨clean, tells, sound.likePlain_answer request, fun candid vetted => ?_⟩
  have shown := tells.hasError_of_candid (Hosted.candid_run vetted (Hosted.candid_load candid))
  have told : answered.2.program.error ≠ "" ↔ answered.2.program.hasError = true := by
    unfold Program.hasError
    simp only [Bool.not_eq_true', String.isEmpty_eq_false_iff]
  exact ⟨shown, told.trans (shown.trans tells.kind_iff.symm)⟩

namespace SingleCallback

/-! A program has one callback, for the first hook that it is asked for. -/

def program (body : List Script.Stmt) : Script.Chunk :=
  [.returned [.function [] [.returned [.table [.text "init", .function [] body]]]]]

def started (body : List Script.Stmt) : Session Engine Callable :=
  hostRun 20 { scripts := { files := onlyFile (.script (program body)) } } []

/-- The callbacks that were captured, if they were. -/
def callbacks? : Except Value (Except ScriptError (List (Hook × Callable))) →
    Option (List (Hook × Callable))
  | .ok (.ok callbacks) => some callbacks
  | _ => none

theorem load_eq {body : List Script.Stmt} {session : Session Engine Callable}
    (files : session.world.scripts.files = onlyFile (.script (program body)))
    (captured : callbacks? (Engine.run (captureProgram (program body)) session.world).1 =
      some [(.init, .closure 1)]) :
    Hosted.load "p" "p" session = {
      program := { name := "p", callbacks := [(.init, .closure 1)] }
      session := { session with
        world := (Engine.run (captureProgram (program body)) session.world).2.note .debug .scripts
          "p: callbacks [init]" } } := by
  have read : readProgram session.world.scripts.files "p" = .ok (program body) := by
    unfold readProgram
    rw [files, content_onlyFile]
    rfl
  unfold Hosted.load loadAs capture
  rw [read]
  dsimp only
  generalize Engine.run (captureProgram (program body)) session.world = ran at captured ⊢
  rcases ran with ⟨_ | _ | found, after⟩
  · cases captured
  · cases captured
  · rw [Option.some.inj (show some found = _ from captured)]
    rfl

/-- A callback that raises. -/
def complaining : List Script.Stmt := [.evaluate (Script.Expr.raise (.text "bad"))]

theorem load_complaining : Hosted.load "p" "p" (started complaining) = {
    program := { name := "p", callbacks := [(.init, .closure 1)] }
    session := { started complaining with
      world := (Engine.run (captureProgram (program complaining)) (started complaining).world).2.note
        .debug .scripts "p: callbacks [init]" } } :=
  load_eq rfl (by decide +kernel)

/-- A function of the host that fails without a word. -/
def mute : Capability Rig where
  symbol := "fail"
  neutral := .nothing
  perform _ rig := (.fails "", rig, [])

/-- A callback that calls the function. -/
def calling : List Script.Stmt := [.evaluate (Script.Steps.callSymbol "probe" "fail" [])]

/-- The session of a host that handed the function out. -/
def muted : Session Engine Callable :=
  { started calling with
    world := (Engine.run (Capability.publish "probe" [mute]) (started calling).world).2 }

theorem load_muted : Hosted.load "p" "p" muted = {
    program := { name := "p", callbacks := [(.init, .closure 1)] }
    session := { muted with
      world := (Engine.run (captureProgram (program calling)) muted.world).2.note
        .debug .scripts "p: callbacks [init]" } } :=
  load_eq rfl (by decide +kernel)

end SingleCallback

open SingleCallback in
/-- A callback that raises is told of, and the next call takes the error away. -/
theorem error_is_told :
    let loaded := Hosted.load "p" "p" (started complaining)
    let raisedOnce := loaded.run [.request (.fire .init)]
    let skipped := raisedOnce.answer (.invoke .prepare)
    loaded.program.kind = none ∧ IsCandid (started complaining).world ∧
      (raisedOnce.program.error, raisedOnce.program.kind) = ("runtime error: bad", some .runtime) ∧
      raisedOnce.program.hasError = true ∧
      skipped.1 = .ok .skipped ∧
      (skipped.2.program.error, skipped.2.program.kind) = ("", none) := by
  have loadable : (Hosted.load "p" "p" (started complaining)).program.kind = none := by
    rw [load_complaining]
  have candid : IsCandid (started complaining).world := candid_hostRun 20 _ nofun
  have raised : Raises (Hosted.load "p" "p" (started complaining)).program.callbacks .init
      (Hosted.load "p" "p" (started complaining)).session.world (.text "bad") := by
    rw [load_complaining]
    exact ⟨.closure 1, rfl, eq_of_raisedText? (by decide +kernel)⟩
  have absent :
      (Hosted.load "p" "p" (started complaining)).program.callbacks.lookup .prepare = none := by
    rw [load_complaining]
    rfl
  obtain ⟨_, first, _, agrees⟩ :=
    error_tells_of_latest_call (started complaining) "p" "p" loadable [] (.fire .init)
  obtain ⟨_, second, _, _⟩ := error_tells_of_latest_call (started complaining) "p" "p" loadable
    [.request (.fire .init)] (.invoke .prepare)
  obtain ⟨message, cause⟩ := first.told _ raised
  obtain ⟨answer, noMessage, noCause⟩ := second.skips absent
  exact ⟨loadable, candid, Prod.ext message cause, (agrees candid nofun).1.mpr ⟨_, raised⟩, answer,
    Prod.ext noMessage noCause⟩

open SingleCallback in
/-- A failure without a word leaves a cause beside an empty message, and the program counts as one
without an error although its callback failed. -/
theorem mute_failure_is_no_error :
    let loaded := Hosted.load "p" "p" muted
    let failed := loaded.answer (.invoke .init)
    loaded.program.kind = none ∧ loaded.program.hasHook .init = true ∧
      failed.1.toOption = none ∧ failed.2.program.kind = some .native ∧
      failed.2.program.error = "" ∧ failed.2.program.hasError = false := by
  rw [load_muted]
  exact ⟨rfl, by decide, by decide +kernel, by decide +kernel, by decide +kernel,
    by decide +kernel⟩

end ScriptedRobot.Engine
