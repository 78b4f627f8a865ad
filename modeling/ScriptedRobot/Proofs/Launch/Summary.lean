import ScriptedRobot.Launch
import ScriptedRobot.Proofs.Control.Reports

/-! # The summary of a run

A run that activates a mode prints a banner and a summary. The summary tells what happened in the
activation: how many ticks there were, what became of them, and the failure, if there was one. -/

namespace ScriptedRobot.Launch

open Control (Activation World)

/-- What a run has come to when it activates a mode. -/
structure Ready where
  request : CommandLine.Request
  setup : Setup.HostSetup
  files : Files
  period : Int32
  banner : Console.Banner
  host : Host

namespace Ready

variable (ready : Ready)

/-- The activation that is due. -/
def activation : Activation :=
  activationOf ready.request ready.setup ready.period

/-- The summary of it. -/
def summary : Console.Summary :=
  let (report, host) := ready.activation.run Engine.scripting ready.host
  Launch.summary ready.activation report host.rig

/-- What comes of the run. -/
def progress : Progress :=
  retire (ready.banner.text false ++ "\n" ++ ready.summary.text false ++ "\n")
    (ready.activation.run Engine.scripting ready.host).2

/-- The outcomes of its ticks. -/
def outcomes : List Control.TickOutcome :=
  let (controller, host) := ready.activation.start Engine.scripting ready.host
  controller.outcomes Engine.scripting ready.activation.ticks host

/-- The world that the activation leaves behind, with a trace of what was loaded and called. -/
def tracedWorld : World (Control.Traced Engine) :=
  (ready.activation.traced Engine.scripting ready.host).world

end Ready

/-- A command line is carried out as far as the activation of a mode. -/
inductive Reaches (arguments : List String) (surroundings : Setup.Surroundings) : Ready → Prop where
  | intro {request : CommandLine.Request} {files : Files} {setup : Setup.HostSetup}
      {engine timed bound : Host} {period : Int32}
      (parsed : CommandLine.parse arguments = .ok request)
      (acts : request.showConfig = false ∧ request.listPrograms = false)
      (opened : openLog request.logFile surroundings.files = .ok files)
      (loaded : Setup.load { surroundings with files } request.config = .ok setup)
      (started : startEngine (searchPath? request setup)
        (setup.scripts.candidates files.workingDirectory surroundings.launchedFrom)
        setup.scripts.marker files = .ok engine)
      (chosen : choosePeriod request.period setup.control.period engine = .ok (period, timed))
      (published : forAll Engine.bind Subsystem.all (assemble timed) = .ok bound) :
      Reaches arguments surroundings
        ⟨request, setup, files, period, (banner period bound).1, (banner period bound).2⟩

theorem output_retire (output : String) (host : Host) : (retire output host).output = output := by
  unfold retire
  split <;> rfl

section Output

variable {arguments : List String} {surroundings : Setup.Surroundings} {ready : Ready}

theorem run_of_reaches (reaches : Reaches arguments surroundings ready) :
    run arguments surroundings = ready.progress.outcome ready.files := by
  cases reaches with
  | @intro request files setup engine timed bound period parsed acts opened loaded started chosen
      published =>
      have activated : activate request setup engine = .ok (Ready.progress
          ⟨request, setup, files, period, (banner period bound).1, (banner period bound).2⟩) := by
        unfold activate
        rw [chosen]
        dsimp only [bind, Except.bind]
        rw [published]
        rfl
      have carried : carryOut request surroundings files =
          activate request setup engine := by
        unfold carryOut
        rw [loaded]
        dsimp only [bind, Except.bind, Except.mapError]
        rw [started]
        dsimp only
        rw [acts.2]
        rfl
      unfold run
      rw [parsed]
      dsimp only
      unfold answer
      dsimp only
      rw [acts.1, if_neg Bool.false_ne_true, opened]
      dsimp only
      rw [carried, activated]

/-- Such a run prints the banner and then the summary of the activation. -/
theorem output_of_reaches (reaches : Reaches arguments surroundings ready) :
    (run arguments surroundings).output =
      ready.banner.text false ++ "\n" ++ ready.summary.text false ++ "\n" := by
  rw [run_of_reaches reaches]
  exact output_retire _ _

end Output

theorem failures_eq_nil {world : World (Control.Traced Engine)} : world.failures = [] ↔
    (∀ loaded ∈ world.loads, loaded.failure = none) ∧
      ∀ call ∈ world.calls, call.failure = none := by
  unfold World.failures
  simp only [List.append_eq_nil_iff, List.filterMap_eq_nil_iff, Option.map_eq_none_iff]

/-- Every run that activates a mode prints the banner and a summary. The ticks in the summary are
those that were asked for or set up, each of them was scripted or an all-stop, and the counts are
those of the outcomes. There is no error in it exactly if the program, if there is one, was loaded
and no callback failed, those of leaving included; and otherwise the error is the one failure. -/
theorem summary_of_activation (arguments : List String) (surroundings : Setup.Surroundings)
    (ready : Ready) (reaches : Reaches arguments surroundings ready) :
    (run arguments surroundings).output =
      ready.banner.text false ++ "\n" ++ ready.summary.text false ++ "\n" ∧
    ready.summary.ticks = ready.request.ticks.getD ready.setup.control.ticks ∧
    ready.outcomes.length = ready.summary.ticks ∧
    ready.summary.allStopTicks = ready.outcomes.count .allStop ∧
    ready.summary.ticks - ready.summary.allStopTicks = ready.outcomes.count .scripted ∧
    ready.outcomes.count .scripted + ready.outcomes.count .allStop = ready.summary.ticks ∧
    ready.summary.error.toList = ready.tracedWorld.failures ∧
    (ready.summary.error = none ↔
      (∀ loaded ∈ ready.tracedWorld.loads, loaded.failure = none) ∧
        ∀ call ∈ ready.tracedWorld.calls, call.failure = none) ∧
    ready.tracedWorld.erased = (ready.activation.run Engine.scripting ready.host).2 := by
  obtain ⟨ticks, allStopTicks, _, sum⟩ :=
    ready.activation.ticks_run Engine.scripting ready.host
  have error : ready.summary.error.toList = ready.tracedWorld.failures :=
    ready.activation.error_run Engine.scripting ready.host
  have ticksIs : ready.summary.ticks = ready.activation.ticks := ticks
  have allStopTicksIs : ready.summary.allStopTicks = ready.outcomes.count .allStop := allStopTicks
  have sumIs : ready.outcomes.count .scripted + ready.outcomes.count .allStop =
      ready.activation.ticks := sum
  refine ⟨output_of_reaches reaches, ticks, ?_, allStopTicks, ?_, ?_, error, ?_,
    (ready.activation.world_run Engine.scripting ready.host).symm⟩
  · rw [ticksIs]
    exact Control.Controller.length_outcomes _ _ _ _
  · omega
  · omega
  · rw [← failures_eq_nil, ← error, Option.toList_eq_nil_iff]

namespace Jammed

/-! A robot without a configuration is run for two ticks. Its program makes its steps, and raises an
error when the mode is left. -/

def program : Script.Chunk :=
  [.returned [.function [] [.returned [.table [
    .text "teleop", .function [] [],
    .text "teleop_exit", .function [] [.evaluate (Script.Expr.raise (.text "jammed"))]]]]]]

def files : Files := { entries := [(["p"], .file (.script program))] }

def commandLine : List String := ["--program=p", "--ticks=2", "--period=20"]

def request : CommandLine.Request := { program := some "p", ticks := some 2, period := some 20 }

/-- The engine goes on when the marker is nowhere. -/
def started : Except Abort Host :=
  startEngine none (({} : Setup.ScriptSetup).candidates "/" "/") "config.lua" files

def engine : Host :=
  started.toOption.get (by decide +kernel)

def published : Except Abort Host :=
  forAll Engine.bind Subsystem.all (assemble engine)

def bound : Host :=
  published.toOption.get (by decide +kernel)

def ready : Ready :=
  ⟨request, {}, files, 20, (banner 20 bound).1, (banner 20 bound).2⟩

theorem eq_ok_of_toOption {ε α : Type} {result : Except ε α} {value : α}
    (succeeds : result.toOption = some value) : result = .ok value := by
  cases result with
  | error _ => cases succeeds
  | ok _ => exact congrArg Except.ok (Option.some.inj succeeds)

theorem reaches : Reaches commandLine { files } ready := by
  have parsed : CommandLine.parse commandLine = .ok request :=
    eq_ok_of_toOption (by decide +kernel)
  have loaded : Setup.load { files } request.config = .ok {} :=
    eq_ok_of_toOption (by decide +kernel)
  have starts : started = .ok engine := eq_ok_of_toOption (Option.some_get _).symm
  have publishes : published = .ok bound := eq_ok_of_toOption (Option.some_get _).symm
  exact .intro parsed ⟨rfl, rfl⟩ rfl loaded starts rfl publishes

theorem failures_eq : ready.tracedWorld.failures = ["runtime error: jammed"] := by
  decide +kernel

theorem calls_eq : ready.tracedWorld.calls.map Control.Call.hook =
    [.teleop, .teleop, .teleopExit] := by
  decide +kernel

end Jammed

open Jammed in
/-- The error of a hook of the end is told, though both ticks were scripted. -/
theorem two_ticks_are_told : Reaches commandLine { files } ready ∧
    ready.tracedWorld.calls.map Control.Call.hook = [.teleop, .teleop, .teleopExit] ∧
    (run commandLine { files }).output =
      ready.banner.text false ++ "\n" ++ ready.summary.text false ++ "\n" ∧
    ready.summary.ticks = 2 ∧ ready.outcomes.length = 2 ∧ ready.summary.allStopTicks = 0 ∧
    ready.summary.error = some "runtime error: jammed" := by
  obtain ⟨output, ticks, counted, allStops, _, _, error, _⟩ :=
    summary_of_activation commandLine { files } ready reaches
  refine ⟨reaches, calls_eq, output, ticks, counted.trans ticks, ?_, ?_⟩
  · rw [allStops]
    decide +kernel
  · rw [failures_eq] at error
    exact Option.toList_eq_singleton_iff.mp error

end ScriptedRobot.Launch
