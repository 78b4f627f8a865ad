import ScriptedRobot.Proofs.Engine.HostRuns
import ScriptedRobot.Proofs.Engine.Machine
import ScriptedRobot.Proofs.Files.Paths
import ScriptedRobot.Proofs.Script.Tables

/-! # Search directory and templates

The engine knows the search directory, and scripts see the templates for it as the path of
`package`. A bootstrap without a search directory takes the first candidate that holds the marker
file, points the templates at it, and only then runs the configuration module. If there is no such
candidate, nothing but the journal changes.

An empty candidate stands for the working directory, but an empty search directory is passed over:
when the marker is found there, the configuration is loaded with no search directory and with the
templates as they were. On runs without empty candidates, every engine whose configuration was
loaded has a search directory (`isRooted_hostRun`). -/

namespace ScriptedRobot.Engine

open Script (Run Store Table Value)

variable {host : Host} {store : Store} {id : Nat} {directory : String}

/-! ## Templates as scripts see them -/

/-- Scripts see a table as `package`, and a path that is set there is put into it. -/
structure IsPackage (store : Store) (id : Nat) : Prop where
  shown : (store.table Store.globalsId).get (.text "package") = .table id
  there : id < store.tables.size
  takesPath : (store.table id).get (.text "path") = .nil → (store.table id).writeHandler = .nil

theorem isPackage_initial : IsPackage Store.initial Store.packageId where
  shown := rfl
  there := by decide
  takesPath _ := rfl

/-- Scripts see the same table as `package`, and it is as it was. -/
structure SamePackage (before after : Store) : Prop where
  shown : (after.table Store.globalsId).get (.text "package") =
    (before.table Store.globalsId).get (.text "package")
  table : ∀ id, (before.table Store.globalsId).get (.text "package") = .table id →
    after.table id = before.table id

theorem SamePackage.refl (store : Store) : SamePackage store store :=
  ⟨rfl, fun _ _ => rfl⟩

/-- The templates that scripts see, if they are a text. -/
def shownTemplates? (host : Host) : Option String :=
  match (run packagePath host).1 with
  | .ok (.text templates) => some templates
  | _ => none

/-- The objects with the templates for a directory. -/
def pointStore (id : Nat) (directory : String) (store : Store) : Store :=
  store.modifyTable id fun table => table.set (.text "path") (.text (searchTemplates directory))

/-- The host with a search directory and the templates for it. -/
def pointHost (id : Nat) (directory : String) (host : Host) : Host :=
  Control.World.note { host with
    scripts := { host.scripts with
      store := pointStore id directory host.scripts.store
      searchDirectory := some directory } } .debug .scripts ("search path: " ++ directory)

theorem IsPackage.shown_pointStore (isPackage : IsPackage store id) (directory : String) :
    ((pointStore id directory store).table Store.globalsId).get (.text "package") = .table id := by
  unfold pointStore
  rcases store.table_modifyTable id Store.globalsId fun table =>
      table.set (.text "path") (.text (searchTemplates directory)) with same | changed
  · rw [same]
    exact isPackage.shown
  · rw [changed, Table.get_set, if_neg (by decide)]
    exact isPackage.shown

theorem IsPackage.path_pointStore (isPackage : IsPackage store id) (directory : String) :
    ((pointStore id directory store).table id).get (.text "path") =
      .text (searchTemplates directory) := by
  unfold pointStore
  rw [Store.table_modifyTable_self _ isPackage.there, Table.get_set, if_pos rfl]

/-- A path that is a text is what scripts see. -/
theorem shownTemplates?_eq_some {templates : String}
    (shown : (host.scripts.store.table Store.globalsId).get (.text "package") = .table id)
    (path : (host.scripts.store.table id).get (.text "path") = .text templates) :
    shownTemplates? host = some templates := by
  have read : run (Run.getGlobal "package") host = (.ok (.table id), host) := by
    rw [← shown]
    rfl
  have entry : ((Capability.machineOf host).store.table id).get (.text "path") =
      .text templates := path
  unfold shownTemplates? packagePath
  rw [run_bind_of_ok read, run_eq, Run.start_getIndex_of_present entry nofun]

theorem IsPackage.run_pointTemplates (isPackage : IsPackage host.scripts.store id)
    (directory : String) : run (pointTemplates directory) host = (.ok (), { host with
      scripts := { host.scripts with store := pointStore id directory host.scripts.store } }) := by
  have read : run (Run.getGlobal "package") host = (.ok (.table id), host) := by
    rw [← isPackage.shown]
    rfl
  unfold pointTemplates
  rw [run_bind_of_ok read]
  dsimp only
  rw [run_eq, Run.start_setIndex_of_taken isPackage.takesPath]
  rfl

/-- After the templates were set, scripts see them as long as they leave `package` alone. -/
theorem IsPackage.shownTemplates?_of_same (isPackage : IsPackage store id)
    (same : SamePackage (pointStore id directory store) host.scripts.store) :
    shownTemplates? host = some (searchTemplates directory) := by
  have shown := isPackage.shown_pointStore directory
  have shownHere := same.shown.trans shown
  have path : (host.scripts.store.table id).get (.text "path") =
      .text (searchTemplates directory) := by
    rw [same.table id shown]
    exact isPackage.path_pointStore directory
  exact shownTemplates?_eq_some shownHere path

/-! ## Setting the search directory -/

theorem setSearchPath_empty (host : Host) : setSearchPath "" host = (.ok (), host) := rfl

theorem IsPackage.setSearchPath (isPackage : IsPackage host.scripts.store id)
    (nonempty : directory ≠ "") :
    setSearchPath directory host = (.ok (), pointHost id directory host) := by
  unfold Engine.setSearchPath
  rw [Path.isEmpty_eq_false nonempty, if_neg Bool.false_ne_true,
    isPackage.run_pointTemplates directory]
  rfl

/-- A directory that was set is the search directory. -/
theorem searchDirectory_of_setSearchPath {after : Host} (nonempty : directory ≠ "")
    (set : setSearchPath directory host = (.ok (), after)) :
    after.scripts.searchDirectory = some directory := by
  unfold setSearchPath at set
  rw [Path.isEmpty_eq_false nonempty, if_neg Bool.false_ne_true] at set
  split at set
  · cases set
  · cases set
    rfl

/-! ## Choosing a root -/

/-- The stage of a bootstrap that loads the configuration. -/
def configure (host : Host) : Bool × Host :=
  match run (loadConfiguration host.scripts.files) host with
  | (.error raised, host) =>
    (false, host.note .error .scripts ("could not load config: " ++ raised.errorMessage))
  | (.ok (), host) =>
    let (report, host) := ask configurationReport "" host
    let host := host.note .info .scripts report
    (true, { host with scripts := { host.scripts with bootstrapped := true } })

theorem bootstrap_of_unloaded (unloaded : host.scripts.bootstrapped = false)
    (candidates : List String) (marker : String) :
    bootstrap candidates marker host = match chooseRoot candidates marker host with
      | (false, host) => (false, host)
      | (true, host) => configure host := by
  unfold bootstrap
  rw [unloaded, if_neg Bool.false_ne_true]
  rfl

/-- Loading the configuration does not move the search directory. -/
theorem searchDirectory_configure (host : Host) :
    (configure host).2.scripts.searchDirectory = host.scripts.searchDirectory := by
  have kept : (run (loadConfiguration host.scripts.files) host).2.scripts.searchDirectory =
      host.scripts.searchDirectory := rfl
  unfold configure
  generalize run (loadConfiguration host.scripts.files) host = ran at kept ⊢
  rcases ran with ⟨_ | _, after⟩
  · exact kept
  · exact kept

section Choice

variable {candidates : List String} {marker root : String}

/-- The root is the first candidate that holds the marker. -/
theorem findRoot?_append {files : Files} {earlier later : List String}
    (before : ∀ directory ∈ earlier, files.isFile (Path.join directory marker) = false)
    (holds : files.isFile (Path.join root marker) = true) :
    findRoot? files (earlier ++ root :: later) marker = some root := by
  refine List.find?_eq_some_iff_append.mpr ⟨holds, earlier, later, rfl, fun directory member => ?_⟩
  rw [Bool.not_eq_true']
  exact before directory member

theorem findRoot?_eq_none {files : Files}
    (none : ∀ directory ∈ candidates, files.isFile (Path.join directory marker) = false) :
    findRoot? files candidates marker = Option.none := by
  refine List.find?_eq_none.mpr fun directory member => ?_
  rw [Bool.not_eq_true]
  exact none directory member

theorem chooseRoot_of_no_root (unset : host.scripts.searchDirectory = none)
    (none : findRoot? host.scripts.files candidates marker = none) :
    (chooseRoot candidates marker host).1 = false ∧
      (chooseRoot candidates marker host).2.scripts = host.scripts := by
  have noted (tried : List String) (host : Host) : (tried.foldl (fun host directory =>
      Control.World.note host .debug .scripts ("  tried " ++ directory)) host).scripts =
      host.scripts := by
    induction tried generalizing host with
    | nil => rfl
    | cons directory rest ih =>
        exact ih (Control.World.note host .debug .scripts ("  tried " ++ directory))
  unfold chooseRoot
  simp only [unset, none]
  exact ⟨trivial, noted candidates _⟩

theorem bootstrap_of_loaded (loaded : host.scripts.bootstrapped = true) (candidates : List String)
    (marker : String) : bootstrap candidates marker host = (true, host) := by
  unfold bootstrap
  rw [if_pos loaded]

variable (unloaded : host.scripts.bootstrapped = false)
  (unset : host.scripts.searchDirectory = none)
include unloaded unset

theorem bootstrap_of_no_root (none : findRoot? host.scripts.files candidates marker = none) :
    (bootstrap candidates marker host).1 = false ∧
      (bootstrap candidates marker host).2.scripts = host.scripts := by
  have chooses := chooseRoot_of_no_root unset none
  rw [bootstrap_of_unloaded unloaded]
  generalize chooseRoot candidates marker host = ran at chooses ⊢
  rcases ran with ⟨_ | _, after⟩
  · exact chooses
  · cases chooses.1

/-- With a root that can be set, the configuration is loaded from there. -/
theorem bootstrap_of_root {chosen : Host}
    (found : findRoot? host.scripts.files candidates marker = some root)
    (set : setSearchPath root host = (.ok (), chosen)) :
    bootstrap candidates marker host = configure chosen := by
  rw [bootstrap_of_unloaded unloaded]
  unfold chooseRoot
  simp only [unset, found, set]

/-- A root that is not empty is the search directory after a success. -/
theorem searchDirectory_bootstrap
    (found : findRoot? host.scripts.files candidates marker = some root) (nonempty : root ≠ "")
    (succeeded : (bootstrap candidates marker host).1 = true) :
    (bootstrap candidates marker host).2.scripts.searchDirectory = some root := by
  cases set : setSearchPath root host with
  | mk result chosen =>
      cases result with
      | ok _ =>
          rw [bootstrap_of_root unloaded unset found set, searchDirectory_configure]
          exact searchDirectory_of_setSearchPath nonempty set
      | error raised =>
          rw [bootstrap_of_unloaded unloaded] at succeeded
          unfold chooseRoot at succeeded
          simp only [unset, found, set] at succeeded
          cases succeeded

end Choice

/-- A bootstrap without a search directory, unless the configuration was loaded before, depends on
the first candidate that holds the marker. If there is none, it fails and leaves all of the engine
as it was. One that is not empty becomes the search directory if the bootstrap succeeds; the
configuration module is run with the templates for it, and these are still there at the end if no
script changed what scripts see as `package`. For an empty one the configuration is loaded without
a search directory and with the templates as they are. -/
theorem bootstrap_selects_first_root (unset : host.scripts.searchDirectory = none)
    (candidates : List String) (marker : String) :
    let isRoot (directory : String) : Bool :=
      host.scripts.files.isFile (Path.join directory marker)
    let outcome := bootstrap candidates marker host
    (host.scripts.bootstrapped = true → outcome = (true, host)) ∧
    (host.scripts.bootstrapped = false →
      ((∀ directory ∈ candidates, isRoot directory = false) →
        outcome.1 = false ∧ outcome.2.scripts = host.scripts) ∧
      ∀ earlier root later, candidates = earlier ++ root :: later →
        (∀ directory ∈ earlier, isRoot directory = false) → isRoot root = true →
        (root ≠ "" →
          (outcome.1 = true → outcome.2.scripts.searchDirectory = some root) ∧
          ∀ id, IsPackage host.scripts.store id →
            let chosen := pointHost id root host
            outcome = configure chosen ∧
            shownTemplates? chosen = some (searchTemplates root) ∧
            (SamePackage chosen.scripts.store outcome.2.scripts.store →
              shownTemplates? outcome.2 = some (searchTemplates root))) ∧
        (root = "" →
          outcome = configure host ∧ outcome.2.scripts.searchDirectory = none)) := by
  intro isRoot outcome
  refine ⟨fun loaded => bootstrap_of_loaded loaded candidates marker, fun unloaded =>
    ⟨fun none => bootstrap_of_no_root unloaded unset (findRoot?_eq_none none), ?_⟩⟩
  rintro earlier root later rfl before holds
  have found : findRoot? host.scripts.files (earlier ++ root :: later) marker = some root :=
    findRoot?_append before holds
  refine ⟨fun nonempty =>
    ⟨searchDirectory_bootstrap unloaded unset found nonempty, fun id isPackage => ?_⟩, ?_⟩
  · exact ⟨bootstrap_of_root unloaded unset found (isPackage.setSearchPath nonempty),
      isPackage.shownTemplates?_of_same (.refl _), isPackage.shownTemplates?_of_same⟩
  · rintro rfl
    have unchanged := bootstrap_of_root unloaded unset found (setSearchPath_empty host)
    have kept := searchDirectory_configure host
    rw [← unchanged, unset] at kept
    exact ⟨unchanged, kept⟩

/-- A new engine, with a configuration module in one directory. -/
def hostWith (place : List String) : Host :=
  start { scripts := { files := { entries := [
    (place ++ [defaultMarker], .file (.script [.returned [.table []]]))] } } }

theorem bootstrap_passes_over_empty_candidate :
    let host := hostWith ["robot"]
    let outcome := bootstrap ["", "/robot"] defaultMarker host
    host.scripts.searchDirectory = none ∧ IsPackage host.scripts.store Store.packageId ∧
    outcome.1 = true ∧ outcome.2.scripts.searchDirectory = some "/robot" ∧
    shownTemplates? outcome.2 = some "/robot/?.lua;/robot/?/init.lua" := by
  intro host outcome
  have unset : host.scripts.searchDirectory = none := rfl
  have selects := (bootstrap_selects_first_root unset ["", "/robot"] defaultMarker).2 rfl
  have elsewhere : ∀ directory ∈ [""],
      host.scripts.files.isFile (Path.join directory defaultMarker) = false := by decide +kernel
  obtain ⟨rooted, _⟩ := selects.2 [""] "/robot" [] rfl elsewhere (by decide +kernel)
  have succeeded : outcome.1 = true := by decide +kernel
  exact ⟨unset, isPackage_initial, succeeded, (rooted (by decide)).1 succeeded, by decide +kernel⟩

/-- The marker is in the working directory, which the empty candidate stands for. The bootstrap
succeeds, and there is no search directory; the templates are the initial ones. -/
theorem bootstrap_in_empty_candidate :
    let host := hostWith []
    let outcome := bootstrap [""] defaultMarker host
    host.scripts.searchDirectory = none ∧
    host.scripts.files.isFile (Path.join "" defaultMarker) = true ∧
    outcome.1 = true ∧ outcome.2.scripts.searchDirectory = none ∧
    shownTemplates? outcome.2 = some Store.initialSearchPath := by
  decide +kernel

/-! ## Runs -/

/-- What a search goes by is as before: the search directory, and whether the configuration was
loaded. -/
structure SameSearch (before after : Host) : Prop where
  searchDirectory : after.scripts.searchDirectory = before.scripts.searchDirectory
  bootstrapped : after.scripts.bootstrapped = before.scripts.bootstrapped

theorem sameSearch_run {α : Type} (step : Run Rig α) (host : Host) :
    SameSearch host (run step host).2 :=
  ⟨rfl, rfl⟩

theorem sameSearch_loadClosed : LoadClosed SameSearch where
  refl _ := ⟨rfl, rfl⟩
  trans first second := ⟨second.searchDirectory.trans first.searchDirectory,
    second.bootstrapped.trans first.bootstrapped⟩
  note _ _ _ _ := ⟨rfl, rfl⟩
  call callable := sameSearch_run (Run.call callable [])
  script chunk := sameSearch_run (captureProgram chunk)

/-- The control loop does not change what a search goes by. -/
theorem sameSearch_closed : Control.ControlClosed scripting SameSearch where
  refl := sameSearch_loadClosed.refl
  trans := sameSearch_loadClosed.trans
  note := sameSearch_loadClosed.note
  run := sameSearch_loadClosed.over_runCallback
  readPad _ := ⟨rfl, rfl⟩
  load := sameSearch_loadClosed.over_load
  collect _ := ⟨rfl, rfl⟩
  stopDrive _ := ⟨rfl, rfl⟩
  stopShooter _ := ⟨rfl, rfl⟩
  settings _ := ⟨rfl, rfl⟩
  reset _ _ _ := ⟨rfl, rfl⟩

theorem bootstrapped_setSearchPath (directory : String) (host : Host) :
    (setSearchPath directory host).2.scripts.bootstrapped = host.scripts.bootstrapped := by
  have same := (sameSearch_run (pointTemplates directory) host).bootstrapped
  unfold setSearchPath
  split
  · rfl
  · generalize run (pointTemplates directory) host = ran at same ⊢
    rcases ran with ⟨_ | _, after⟩
    · exact same
    · exact same

/-- The search directory stays, unless another one is set. -/
theorem searchDirectory_setSearchPath (directory : String) (host : Host) :
    (setSearchPath directory host).2.scripts.searchDirectory = host.scripts.searchDirectory ∨
      (setSearchPath directory host).2.scripts.searchDirectory = some directory := by
  have same := (sameSearch_run (pointTemplates directory) host).searchDirectory
  unfold setSearchPath
  split
  · exact .inl rfl
  · generalize run (pointTemplates directory) host = ran at same ⊢
    rcases ran with ⟨_ | _, after⟩
    · exact .inl same
    · exact .inr rfl

theorem bootstrapped_chooseRoot (candidates : List String) (marker : String) (host : Host) :
    (chooseRoot candidates marker host).2.scripts.bootstrapped = host.scripts.bootstrapped := by
  cases unset : host.scripts.searchDirectory with
  | some directory =>
      unfold chooseRoot
      simp only [unset]
  | none =>
      cases found : findRoot? host.scripts.files candidates marker with
      | none => rw [(chooseRoot_of_no_root unset found).2]
      | some root =>
          have same := bootstrapped_setSearchPath root host
          unfold chooseRoot
          simp only [unset, found]
          generalize setSearchPath root host = ran at same ⊢
          rcases ran with ⟨_ | _, after⟩
          · exact same
          · exact same

/-- Whether the configuration was loaded is what a bootstrap answers. -/
theorem bootstrapped_bootstrap (candidates : List String) (marker : String) (host : Host) :
    (bootstrap candidates marker host).2.scripts.bootstrapped =
      (bootstrap candidates marker host).1 := by
  cases loaded : host.scripts.bootstrapped with
  | true =>
      rw [bootstrap_of_loaded loaded]
      exact loaded
  | false =>
      have chooses := (bootstrapped_chooseRoot candidates marker host).trans loaded
      rw [bootstrap_of_unloaded loaded]
      generalize chooseRoot candidates marker host = ran at chooses ⊢
      rcases ran with ⟨_ | _, chosen⟩
      · exact chooses
      · have same := (sameSearch_run (loadConfiguration chosen.scripts.files) chosen).bootstrapped
        dsimp only
        unfold configure
        generalize run (loadConfiguration chosen.scripts.files) chosen = ran at same ⊢
        rcases ran with ⟨_ | _, after⟩
        · exact same.trans chooses
        · rfl

/-- There is a search directory as soon as the configuration was loaded. -/
def IsRooted (host : Host) : Prop :=
  host.scripts.bootstrapped = true → host.scripts.searchDirectory ≠ none

theorem isRooted_start (host : Host) : IsRooted (start host) := by
  have fresh : (start host).scripts.bootstrapped = false := rfl
  intro loaded
  rw [fresh] at loaded
  cases loaded

theorem IsRooted.of_sameSearch {before after : Host} (rooted : IsRooted before)
    (same : SameSearch before after) : IsRooted after := by
  intro loaded
  rw [same.searchDirectory]
  exact rooted (same.bootstrapped ▸ loaded)

theorem IsRooted.setSearchPath (rooted : IsRooted host) (directory : String) :
    IsRooted (setSearchPath directory host).2 := by
  intro loaded
  rcases searchDirectory_setSearchPath directory host with same | set
  · rw [same]
    exact rooted ((bootstrapped_setSearchPath directory host).symm.trans loaded)
  · rw [set]
    nofun

/-- Without an empty candidate, a bootstrap that succeeds leaves a search directory. -/
theorem IsRooted.bootstrap (rooted : IsRooted host) {candidates : List String}
    (nonempty : "" ∉ candidates) (marker : String) :
    IsRooted (bootstrap candidates marker host).2 := by
  cases loaded : host.scripts.bootstrapped with
  | true =>
      rw [bootstrap_of_loaded loaded]
      exact rooted
  | false =>
      intro loadedAfter
      have succeeded := (bootstrapped_bootstrap candidates marker host).symm.trans loadedAfter
      cases unset : host.scripts.searchDirectory with
      | some directory =>
          have chooses : chooseRoot candidates marker host = (true, host) := by
            unfold chooseRoot
            simp only [unset]
          rw [bootstrap_of_unloaded loaded, chooses]
          dsimp only
          rw [searchDirectory_configure, unset]
          nofun
      | none =>
          cases found : findRoot? host.scripts.files candidates marker with
          | none =>
              have failed := (bootstrap_of_no_root loaded unset found).1
              rw [failed] at succeeded
              cases succeeded
          | some root =>
              have member : root ∈ candidates := List.mem_of_find?_eq_some found
              have named : root ≠ "" := fun same => nonempty (same ▸ member)
              rw [searchDirectory_bootstrap loaded unset found named succeeded]
              nofun

/-- A move that offers no empty candidate. -/
def HostMove.OffersNames : HostMove → Prop
  | .bootstrap candidates _ => "" ∉ candidates
  | _ => True

/-- On every run without empty candidates there is a search directory as soon as the configuration
was loaded. -/
theorem isRooted_hostRun (period : Int32) (host : Host) {moves : List HostMove}
    (named : ∀ move ∈ moves, move.OffersNames) : IsRooted (hostRun period host moves).world := by
  have initially : IsRooted
      (Control.Session.start period (start host) : Control.Session Engine Script.Callable).world :=
    isRooted_start host
  refine Control.Session.run_induction
    (fun session : Control.Session Engine Script.Callable => IsRooted session.world)
    (fun move => ∃ made : HostMove, made.OffersNames ∧ made.move = move) ?_ (fun move member => ?_)
    initially
  · rintro session _ ⟨move, named, rfl⟩ rooted
    cases move with
    | enter mode programName =>
        exact rooted.of_sameSearch (sameSearch_closed.enter mode programName session)
    | tick => exact rooted.of_sameSearch (sameSearch_closed.tick (fun _ => ⟨rfl, rfl⟩) session)
    | exit => exact rooted.of_sameSearch (sameSearch_closed.exit session)
    | call callable =>
        exact rooted.of_sameSearch (sameSearch_loadClosed.over_runCallback callable session.world)
    | setSearchPath directory => exact rooted.setSearchPath directory
    | bootstrap candidates marker => exact rooted.bootstrap named marker
    | bind _ | unbind _ | execute _ | overwrite _ | replaceFiles _ | operate _ =>
        exact rooted.of_sameSearch ⟨rfl, rfl⟩
  · obtain ⟨made, madeMember, same⟩ := List.mem_map.mp member
    exact ⟨made, named made madeMember, same⟩

end ScriptedRobot.Engine
