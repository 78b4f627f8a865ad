import ScriptedRobot.Proofs.Control.Requests
import ScriptedRobot.Proofs.Engine.LoadStages

/-! # Programs that could not be loaded

A load passes through stages: the file is found, read and compiled, the script is run, its factory
is called, and the hooks are looked up in the descriptor. The first stage that fails is the error
of the program, which has no callbacks then and skips whatever is requested of it. Only its error
may go: whether it stays is decided by the cause, and a stage at which the program raised has the
cause of a failed call. -/

namespace ScriptedRobot.Engine

open Script (Run Value Callable)
open Control (Program Request)

/-- A load that fails at a stage makes a program without callbacks and with the error of the
stage. -/
theorem LoadFails.loadAs_eq {path : String} {host after : Host} {fault : LoadFault}
    (fails : LoadFails path host fault after) (name : String) :
    loadAs name path host = ({
      name
      error := (fault.error path).message
      kind := some (fault.error path).kind }, after) := by
  unfold loadAs
  rw [fails.capture_eq]

theorem kind_loadAs (name path : String) (host : Host) :
    (loadAs name path host).1.kind.isSome = true ↔
      ∃ fault after, LoadFails path host fault after := by
  constructor
  · intro failed
    obtain ⟨found, after, finds⟩ | fails := isSettled path host
    · unfold loadAs at failed
      rw [finds.capture_eq] at failed
      cases failed
    · exact fails
  · rintro ⟨fault, after, fails⟩
    rw [fails.loadAs_eq]
    rfl

theorem load_fst (program : String) (host : Host) :
    (load program host).1 =
      (loadAs program (resolveProgram host.scripts.searchDirectory program) host).1 := by
  unfold load
  dsimp only
  split <;> rfl

/-- A load fails exactly at one of the stages, and its error is that of the stage. The program then
skips every request in every world, and runs nothing. It keeps the error for good if it did not
raise itself; otherwise the first request takes the error away. -/
theorem failed_load_skips_requests (name path : String) (host : Host) :
    (∀ program, (load program host).1 =
      (loadAs program (resolveProgram host.scripts.searchDirectory program) host).1) ∧
    ((loadAs name path host).1.kind.isSome = true ↔
      ∃ fault after, LoadFails path host fault after) ∧
    ∀ fault after, LoadFails path host fault after →
      let program := (loadAs name path host).1
      program.callbacks = [] ∧ program.error = (fault.error path).message ∧
      program.kind = some (fault.error path).kind ∧
      ∀ requests : List (Request × Host),
        let answered := Request.makeAll scripting requests program
        answered.1 = (requests.map fun request => (.ok .skipped, request.2)) ∧
        (answered.2.error = program.error ∧ answered.2.kind = program.kind ↔
          fault.isRaise = false ∨ requests = []) ∧
        (fault.isRaise = true → requests ≠ [] →
          answered.2.error = "" ∧ answered.2.kind = none) := by
  refine ⟨fun program => load_fst program host, kind_loadAs name path host, ?_⟩
  intro fault after fails
  rw [fails.loadAs_eq name]
  refine ⟨rfl, rfl, rfl, fun requests => ?_⟩
  have unusable := LoadFault.isLoadError_error path fault
  dsimp only
  rw [Program.makeAll_of_bare rfl]
  simp only [Program.isUnusable, Option.any_some, unusable]
  cases raised : fault.isRaise with
  | false => simp
  | true =>
      by_cases none : requests = []
      · simp [none]
      · simp [none, Program.cleared]

/-- Files of which there is only one, right below the root. -/
def onlyFile (content : FileContent) : Files :=
  { entries := [(["p"], .file content)] }

theorem content_onlyFile (content : FileContent) :
    (onlyFile content).content? "p" = some content := by
  have fromRoot : Files.fromRoot? {} "p" = some "/p" := by decide +kernel
  have parts : Path.parts "/p" = ["", "p"] := by decide
  have root : (onlyFile content).isDirectoryAt [] = true := rfl
  have found : Files.entry? (onlyFile content) ["p"] = some (.file content) := rfl
  have place : (onlyFile content).place? "p" = some ["p"] := by
    unfold Files.place?
    change (Files.fromRoot? {} "p").bind (fun path =>
      (onlyFile content).follow [] (Path.parts path)) = _
    rw [fromRoot, Option.bind_some, parts]
    simp [Files.follow, root, found]
  unfold Files.content? Files.find?
  rw [place]
  rfl

/-- A program that raises when it is run. -/
def raising : Script.Chunk := [.evaluate (Script.Expr.raise (.text "bad"))]

/-- A host with one program. -/
def raisingHost : Host :=
  { scripts := { files := { entries := [(["p"], .file (.script raising))] } } }

theorem raised_load_error_is_lost :
    let program := (loadAs "p" "p" raisingHost).1
    let answered := (Request.makeAll scripting [(.invoke .init, raisingHost)] program).2
    (program.error, program.kind) = ("runtime error: bad", some .runtime) ∧
      (answered.error, answered.kind) = ("", none) := by
  intro program answered
  have ran : ∃ after, run (Run.chunk raising []) raisingHost = (.error (.text "bad"), after) :=
    ⟨_, rfl⟩
  obtain ⟨after, raises⟩ := ran
  have fails : LoadFails "p" raisingHost (.chunkRaised (.text "bad")) after :=
    .chunkRaised ⟨_, raising, content_onlyFile _, rfl, raises⟩
  have loaded : program = ⟨"p", [], "runtime error: bad", some .runtime⟩ :=
    congrArg Prod.fst (fails.loadAs_eq "p")
  have lost : answered = program.cleared := by
    change (Request.makeAll scripting _ program).2 = _
    rw [loaded]
    rfl
  rw [lost, loaded]
  exact ⟨rfl, rfl⟩

end ScriptedRobot.Engine
