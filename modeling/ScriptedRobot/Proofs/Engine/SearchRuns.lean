import ScriptedRobot.Proofs.Engine.SearchPath

/-! # The search over whole runs

The search directory is kept by the engine, the templates are kept where scripts can see them, and
whether the configuration was loaded is kept apart from both. On every run whose scripts leave
`package` alone the templates are those of the search directory, or the initial ones while there is
none (`IsPointed.run`). The configuration module is run by a bootstrap only, and after the first
time it ends well it is not run again: the attempts of a run to load it are failures, with one
success after them at most (`attempts_eq`). -/

namespace ScriptedRobot.Engine

open Control (Session)
open Script (Callable Run Store Table Value)

variable {host : Host} {candidates : List String} {marker : String}

/-! ## Attempts to load the configuration -/

/-- The host on which a bootstrap runs the configuration module, if it gets as far as that. -/
def attempt? (candidates : List String) (marker : String) (host : Host) : Option Host :=
  if host.scripts.bootstrapped then none
  else
    match chooseRoot candidates marker host with
    | (true, chosen) => some chosen
    | (false, _) => none

/-- Whether running the configuration module ends well. -/
def loads (host : Host) : Bool :=
  (run (loadConfiguration host.scripts.files) host).1.toBool

theorem loads_iff : loads host = true ↔
    (run (loadConfiguration host.scripts.files) host).1 = .ok () := by
  unfold loads
  rcases run (loadConfiguration host.scripts.files) host with ⟨_ | _, _⟩ <;> simp [Except.toBool]

theorem configure_fst (host : Host) : (configure host).1 = loads host := by
  simp only [configure, loads]
  rcases run (loadConfiguration host.scripts.files) host with ⟨_ | _, _⟩ <;> rfl

theorem attempt?_eq_some {chosen : Host} : attempt? candidates marker host = some chosen ↔
    host.scripts.bootstrapped = false ∧ chooseRoot candidates marker host = (true, chosen) := by
  unfold attempt?
  cases host.scripts.bootstrapped with
  | true => simp
  | false => rcases chooseRoot candidates marker host with ⟨_ | _, _⟩ <;> simp

theorem bootstrap_of_attempt {chosen : Host}
    (attempted : attempt? candidates marker host = some chosen) :
    bootstrap candidates marker host = configure chosen := by
  obtain ⟨unloaded, chosenHere⟩ := attempt?_eq_some.mp attempted
  rw [bootstrap_of_unloaded unloaded, chosenHere]

/-- A bootstrap that does not get as far as the configuration module keeps to its flag. -/
theorem bootstrapped_of_no_attempt (unattempted : attempt? candidates marker host = none) :
    (bootstrap candidates marker host).2.scripts.bootstrapped = host.scripts.bootstrapped := by
  cases loaded : host.scripts.bootstrapped with
  | true => rw [bootstrap_of_loaded loaded, loaded]
  | false =>
      have kept := (bootstrapped_chooseRoot candidates marker host).trans loaded
      rw [bootstrap_of_unloaded loaded]
      cases ran : chooseRoot candidates marker host with
      | mk succeeded after =>
          cases succeeded with
          | false =>
              rw [ran] at kept
              exact kept
          | true =>
              have attempted := attempt?_eq_some.mpr ⟨loaded, ran⟩
              rw [unattempted] at attempted
              cases attempted

theorem bootstrapped_of_attempt {chosen : Host}
    (attempted : attempt? candidates marker host = some chosen) :
    (bootstrap candidates marker host).2.scripts.bootstrapped = loads chosen := by
  rw [bootstrapped_bootstrap, bootstrap_of_attempt attempted, configure_fst]

/-- Once there is a search directory no candidate takes its place. -/
theorem searchDirectory_bootstrap_of_set {directory : String}
    (set : host.scripts.searchDirectory = some directory) :
    (bootstrap candidates marker host).2.scripts.searchDirectory = some directory := by
  cases loaded : host.scripts.bootstrapped with
  | true => rw [bootstrap_of_loaded loaded, set]
  | false =>
      have chosen : chooseRoot candidates marker host = (true, host) := by
        simp only [chooseRoot, set]
      rw [bootstrap_of_unloaded loaded, chosen]
      exact (searchDirectory_configure host).trans set

/-- What an attempt to set the search directory that failed has left. -/
structure SearchRefused (before after : Host) : Prop where
  same : SameSearch before after
  /-- Unless what scripts see as `package` hands the write over to a function, nothing at all is
  changed. -/
  untouched :
    (∀ id, (before.scripts.store.table Store.globalsId).get (.text "package") = .table id →
      (before.scripts.store.table id).writeHandler = .nil) →
    after = before

/-- An attempt to set the search directory that fails leaves it alone. -/
theorem setSearchPath_error {directory : String} {raised : Value}
    (failed : (setSearchPath directory host).1 = .error raised) :
    SearchRefused host (setSearchPath directory host).2 := by
  have nonempty : directory ≠ "" := by
    rintro rfl
    rw [setSearchPath_empty] at failed
    cases failed
  have same := sameSearch_run (pointTemplates directory) host
  unfold setSearchPath at failed ⊢
  rw [Path.isEmpty_eq_false nonempty, if_neg Bool.false_ne_true] at failed ⊢
  have read : run (Run.getGlobal "package") host =
      (.ok ((host.scripts.store.table Store.globalsId).get (.text "package")), host) := rfl
  have points : run (pointTemplates directory) host = _ := run_bind_of_ok read _
  cases shown : (host.scripts.store.table Store.globalsId).get (.text "package") with
  | table id =>
      generalize ranHere : run (pointTemplates directory) host = ran at failed same ⊢
      rcases ran with ⟨other | _, after⟩
      · refine ⟨same, fun unguarded => ?_⟩
        have written := @Run.start_setIndex _ (Capability.machineOf host) id (unguarded id shown)
          "path" (.text (searchTemplates directory))
        rw [points, shown, run_eq, written] at ranHere
        cases ranHere
      · cases failed
  | nil | boolean _ | integer _ | number _ | text _ | bytes _ | function _ | failure _ =>
      rw [points, shown]
      exact ⟨⟨rfl, rfl⟩, fun _ => rfl⟩

/-! ## Templates and directory -/

/-- The templates that go with a search directory. Without one they are the initial ones. -/
def templatesFor : Option String → String
  | some directory => searchTemplates directory
  | none => Store.initialSearchPath

/-- The table that scripts see as `package`, and the templates in it. -/
def packageTemplates? (store : Store) : Option (Nat × String) :=
  match (store.table Store.globalsId).get (.text "package") with
  | .table id =>
    match (store.table id).get (.text "path") with
    | .text templates => some (id, templates)
    | _ => none
  | _ => none

theorem packageTemplates?_eq_some {store : Store} {id : Nat} {templates : String} :
    packageTemplates? store = some (id, templates) ↔
      (store.table Store.globalsId).get (.text "package") = .table id ∧
      (store.table id).get (.text "path") = .text templates := by
  unfold packageTemplates?
  constructor
  · intro found
    split at found
    case h_1 shown =>
      split at found
      case h_1 path =>
        cases found
        exact ⟨shown, path⟩
      case h_2 => cases found
    case h_2 => cases found
  · rintro ⟨shown, path⟩
    simp only [shown, path]

/-- What scripts see as `package` has the templates that go with the search directory. -/
def IsPointed (id : Nat) (host : Host) : Prop :=
  packageTemplates? host.scripts.store = some (id, templatesFor host.scripts.searchDirectory)

theorem isPointed_start (host : Host) : IsPointed Store.packageId (start host) :=
  rfl

namespace IsPointed

variable {id : Nat}

/-- A path that is there is written without asking a handler. -/
theorem isPackage (pointed : IsPointed id host) : IsPackage host.scripts.store id := by
  obtain ⟨shown, path⟩ := packageTemplates?_eq_some.mp pointed
  refine ⟨shown, Nat.lt_of_not_le fun outside => ?_, fun absent => ?_⟩
  · have absent : host.scripts.store.table id = {} := by
      simp [Store.table, Array.getD_eq_getD_getElem?, Array.getElem?_eq_none outside]
    rw [absent] at path
    cases path
  · rw [absent] at path
    cases path

theorem shownTemplates? (pointed : IsPointed id host) :
    shownTemplates? host = some (templatesFor host.scripts.searchDirectory) := by
  obtain ⟨shown, path⟩ := packageTemplates?_eq_some.mp pointed
  exact shownTemplates?_eq_some shown path

theorem of_same {after : Host} (pointed : IsPointed id host)
    (same : packageTemplates? after.scripts.store = packageTemplates? host.scripts.store)
    (kept : after.scripts.searchDirectory = host.scripts.searchDirectory) :
    IsPointed id after := by
  rw [IsPointed, same, kept]
  exact pointed

theorem setSearchPath (pointed : IsPointed id host) (directory : String) :
    IsPointed id (setSearchPath directory host).2 := by
  by_cases empty : directory = ""
  · subst empty
    exact pointed
  · rw [pointed.isPackage.setSearchPath empty]
    have isPackage := pointed.isPackage
    exact packageTemplates?_eq_some.mpr
      ⟨isPackage.shown_pointStore directory, isPackage.path_pointStore directory⟩

theorem chooseRoot (pointed : IsPointed id host) (candidates : List String) (marker : String) :
    IsPointed id (chooseRoot candidates marker host).2 := by
  cases unset : host.scripts.searchDirectory with
  | some directory =>
      simp only [Engine.chooseRoot, unset]
      exact pointed
  | none =>
      cases found : findRoot? host.scripts.files candidates marker with
      | none =>
          have same := (chooseRoot_of_no_root unset found).2
          exact pointed.of_same (by rw [same]) (by rw [same])
      | some root =>
          have set := pointed.setSearchPath root
          simp only [Engine.chooseRoot, unset, found]
          generalize Engine.setSearchPath root host = ran at set ⊢
          rcases ran with ⟨_ | _, after⟩
          · exact set
          · exact set

end IsPointed

/-! ## Moves -/

namespace HostMove

/-- The host on which a move runs the configuration module, if it does. -/
def attempt? (host : Host) : HostMove → Option Host
  | .bootstrap candidates marker => Engine.attempt? candidates marker host
  | _ => none

/-- What the engine itself does in a move before a script is run. -/
def prepared : HostMove → Host → Host
  | .setSearchPath directory, host => (Engine.setSearchPath directory host).2
  | .bootstrap candidates marker, host =>
    if host.scripts.bootstrapped then host else (Engine.chooseRoot candidates marker host).2
  | _, host => host

/-- The scripts that are run in a move leave alone what they see as `package`. -/
def SparesPackage (session : Session Engine Callable) (move : HostMove) : Prop :=
  packageTemplates? (session.step scripting move.move).world.scripts.store =
    packageTemplates? (move.prepared session.world).scripts.store

instance (session : Session Engine Callable) (move : HostMove) :
    Decidable (move.SparesPackage session) :=
  inferInstanceAs (Decidable (_ = _))

/-- Whether a move is one of those that set the search directory or load the configuration. -/
def isSearch : HostMove → Bool
  | .setSearchPath _ | .bootstrap _ _ => true
  | _ => false

end HostMove

variable {session : Session Engine Callable} {move : HostMove} {moves : List HostMove} {id : Nat}

/-- Every other move leaves alone what a search goes by. -/
theorem sameSearch_step (other : move.isSearch = false) (session : Session Engine Callable) :
    SameSearch session.world (session.step scripting move.move).world := by
  cases move with
  | enter mode programName => exact sameSearch_closed.enter mode programName session
  | tick => exact sameSearch_closed.tick (fun _ => ⟨rfl, rfl⟩) session
  | exit => exact sameSearch_closed.exit session
  | call callable => exact sameSearch_loadClosed.over_runCallback callable session.world
  | setSearchPath _ | bootstrap _ _ => cases other
  | bind _ | unbind _ | execute _ | overwrite _ | replaceFiles _ | operate _ => exact ⟨rfl, rfl⟩

theorem IsPointed.prepared (pointed : IsPointed id host) (move : HostMove) :
    IsPointed id (move.prepared host) := by
  cases move with
  | setSearchPath directory => exact pointed.setSearchPath directory
  | bootstrap candidates marker =>
      rw [HostMove.prepared]
      split
      · exact pointed
      · exact pointed.chooseRoot candidates marker
  | enter _ _ | tick | exit | call _ | bind _ | unbind _ | execute _ | overwrite _
  | replaceFiles _ | operate _ => exact pointed

/-- The search directory is moved by the engine itself only. -/
theorem searchDirectory_step (move : HostMove) (session : Session Engine Callable) :
    (session.step scripting move.move).world.scripts.searchDirectory =
      (move.prepared session.world).scripts.searchDirectory := by
  cases move with
  | setSearchPath directory => rfl
  | bootstrap candidates marker =>
      change (Engine.bootstrap candidates marker session.world).2.scripts.searchDirectory = _
      rw [HostMove.prepared]
      cases loaded : session.world.scripts.bootstrapped with
      | true => rw [bootstrap_of_loaded loaded, if_pos rfl]
      | false =>
          rw [bootstrap_of_unloaded loaded, if_neg Bool.false_ne_true]
          rcases chooseRoot candidates marker session.world with ⟨_ | _, chosen⟩
          · rfl
          · exact searchDirectory_configure chosen
  | enter _ _ | tick | exit | call _ | bind _ | unbind _ | execute _ | overwrite _
  | replaceFiles _ | operate _ => exact (sameSearch_step rfl session).searchDirectory

theorem IsPointed.step (pointed : IsPointed id session.world)
    (spared : move.SparesPackage session) :
    IsPointed id (session.step scripting move.move).world :=
  (pointed.prepared move).of_same spared (searchDirectory_step move session)

/-! ## Runs -/

/-- The scripts that are run in a run of moves leave alone what they see as `package`. -/
def SparesPackage : List HostMove → Session Engine Callable → Prop
  | [], _ => True
  | move :: rest, session =>
    move.SparesPackage session ∧ SparesPackage rest (session.step scripting move.move)

instance decidableSparesPackage : (moves : List HostMove) → (session : Session Engine Callable) →
    Decidable (SparesPackage moves session)
  | [], _ => inferInstanceAs (Decidable True)
  | _ :: rest, _ => @instDecidableAnd _ _ _ (decidableSparesPackage rest _)

/-- The attempts of a run to load the configuration, and whether each ended well. -/
def attempts : List HostMove → Session Engine Callable → List Bool
  | [], _ => []
  | move :: rest, session =>
    ((move.attempt? session.world).map loads).toList ++
      attempts rest (session.step scripting move.move)

theorem IsPointed.run (pointed : IsPointed id session.world)
    (spared : SparesPackage moves session) :
    IsPointed id (Session.run scripting (moves.map HostMove.move) session).world := by
  induction moves generalizing session with
  | nil => exact pointed
  | cons move rest ih => exact ih (pointed.step spared.1) spared.2

/-- A move changes whether the configuration was loaded by an attempt to load it only. -/
theorem bootstrapped_step (move : HostMove) (session : Session Engine Callable) :
    (session.step scripting move.move).world.scripts.bootstrapped =
      ((move.attempt? session.world).map loads).getD session.world.scripts.bootstrapped := by
  cases move with
  | setSearchPath directory => exact bootstrapped_setSearchPath directory session.world
  | bootstrap candidates marker =>
      cases attempted : Engine.attempt? candidates marker session.world with
      | some chosen =>
          rw [HostMove.attempt?, attempted]
          exact bootstrapped_of_attempt attempted
      | none =>
          rw [HostMove.attempt?, attempted]
          exact bootstrapped_of_no_attempt attempted
  | enter _ _ | tick | exit | call _ | bind _ | unbind _ | execute _ | overwrite _
  | replaceFiles _ | operate _ => exact (sameSearch_step rfl session).bootstrapped

theorem attempt?_of_loaded (loaded : host.scripts.bootstrapped = true) (move : HostMove) :
    move.attempt? host = none := by
  cases move with
  | bootstrap candidates marker =>
      rw [HostMove.attempt?, attempt?, if_pos loaded]
  | _ => rfl

theorem bootstrapped_step_of_loaded (loaded : session.world.scripts.bootstrapped = true)
    (move : HostMove) :
    (session.step scripting move.move).world.scripts.bootstrapped = true := by
  rw [bootstrapped_step, attempt?_of_loaded loaded]
  exact loaded

/-- The configuration counts as loaded from the move on that runs its module to a good end. -/
theorem bootstrapped_step_of_unloaded (move : HostMove)
    (unloaded : session.world.scripts.bootstrapped = false) :
    (session.step scripting move.move).world.scripts.bootstrapped = true ↔
      ∃ candidates marker chosen, move = .bootstrap candidates marker ∧
        chooseRoot candidates marker session.world = (true, chosen) ∧
        (run (loadConfiguration chosen.scripts.files) chosen).1 = .ok () := by
  rw [bootstrapped_step, unloaded]
  constructor
  · intro loaded
    cases move with
    | bootstrap candidates marker =>
        cases attempted : Engine.attempt? candidates marker session.world with
        | some chosen =>
            rw [HostMove.attempt?, attempted] at loaded
            exact ⟨candidates, marker, chosen, rfl, (attempt?_eq_some.mp attempted).2,
              loads_iff.mp loaded⟩
        | none =>
            rw [HostMove.attempt?, attempted] at loaded
            cases loaded
    | _ => cases loaded
  · rintro ⟨candidates, marker, chosen, rfl, chosenHere, ended⟩
    rw [HostMove.attempt?, attempt?_eq_some.mpr ⟨unloaded, chosenHere⟩]
    exact loads_iff.mpr ended

theorem bootstrapped_run (loaded : session.world.scripts.bootstrapped = true)
    (moves : List HostMove) : (Session.run scripting (moves.map HostMove.move)
      session).world.scripts.bootstrapped = true := by
  induction moves generalizing session with
  | nil => exact loaded
  | cons move rest ih => exact ih (bootstrapped_step_of_loaded loaded move)

theorem attempts_of_loaded (loaded : session.world.scripts.bootstrapped = true) :
    attempts moves session = [] := by
  induction moves generalizing session with
  | nil => rfl
  | cons move rest ih =>
      rw [attempts, attempt?_of_loaded loaded, ih (bootstrapped_step_of_loaded loaded move)]
      rfl

/-- The attempts fail, up to one that ends well and is the last. -/
theorem attempts_eq (unloaded : session.world.scripts.bootstrapped = false) :
    ∃ failures, attempts moves session = List.replicate failures false ++
      if (Session.run scripting (moves.map HostMove.move) session).world.scripts.bootstrapped
      then [true] else [] := by
  induction moves generalizing session with
  | nil => exact ⟨0, by simp [attempts, unloaded]⟩
  | cons move rest ih =>
      have after := bootstrapped_step move session
      rw [List.map_cons, Session.run_cons]
      cases attempted : move.attempt? session.world with
      | none =>
          rw [attempted] at after
          obtain ⟨failures, same⟩ := ih (after.trans unloaded)
          exact ⟨failures, by rw [attempts, attempted]; exact same⟩
      | some chosen =>
          rw [attempted] at after
          rw [attempts, attempted]
          cases succeeded : loads chosen with
          | false =>
              obtain ⟨failures, same⟩ := ih (after.trans succeeded)
              refine ⟨failures + 1, ?_⟩
              rw [same, List.replicate_succ]
              simp [succeeded]
          | true =>
              have loaded := after.trans succeeded
              refine ⟨0, ?_⟩
              rw [attempts_of_loaded loaded, bootstrapped_run loaded]
              simp [succeeded]

/-- What a host with the right templates does when it is told where to search. -/
structure SearchCoherent (host : Host) : Prop where
  templates : shownTemplates? host = some (templatesFor host.scripts.searchDirectory)
  /-- To set the search directory to an empty path does nothing. -/
  ignores : setSearchPath "" host = (.ok (), host)
  /-- Any other path is taken. -/
  takes : ∀ directory, directory ≠ "" →
    let set := setSearchPath directory host
    set.1 = .ok () ∧ set.2.scripts.searchDirectory = some directory ∧
      shownTemplates? set.2 = some (searchTemplates directory)
  /-- A bootstrap does not move a search directory that is set. -/
  keeps : ∀ directory candidates marker, host.scripts.searchDirectory = some directory →
    (bootstrap candidates marker host).2.scripts.searchDirectory = some directory
  /-- Once the configuration was loaded a bootstrap answers at once. -/
  answers : host.scripts.bootstrapped = true → ∀ candidates marker,
    bootstrap candidates marker host = (true, host)

theorem IsPointed.searchCoherent (pointed : IsPointed Store.packageId host) :
    SearchCoherent host where
  templates := pointed.shownTemplates?
  ignores := setSearchPath_empty host
  takes directory nonempty := by
    have set := @IsPackage.setSearchPath host _ _ pointed.isPackage nonempty
    have moved := pointed.setSearchPath directory
    rw [set] at moved ⊢
    exact ⟨rfl, rfl, moved.shownTemplates?⟩
  keeps _ _ _ := searchDirectory_bootstrap_of_set
  answers := bootstrap_of_loaded

/-- How a move changes whether the configuration was loaded. -/
structure LoadedFollows (move : HostMove) (session : Session Engine Callable) : Prop where
  /-- It is never taken back. -/
  stays : session.world.scripts.bootstrapped = true →
    (session.step scripting move.move).world.scripts.bootstrapped = true
  /-- A move brings it about exactly if it runs the configuration module and that ends well. -/
  begins : session.world.scripts.bootstrapped = false →
    ((session.step scripting move.move).world.scripts.bootstrapped = true ↔
      ∃ candidates marker chosen, move = .bootstrap candidates marker ∧
        chooseRoot candidates marker session.world = (true, chosen) ∧
        (run (loadConfiguration chosen.scripts.files) chosen).1 = .ok ())

theorem loadedFollows (move : HostMove) (session : Session Engine Callable) :
    LoadedFollows move session where
  stays loaded := bootstrapped_step_of_loaded loaded move
  begins := bootstrapped_step_of_unloaded move

/-- On every run of a new engine whose scripts leave `package` alone, the templates are those of
the search directory, or the initial ones if there is none, and an attempt to set the search
directory that fails leaves it alone. That the configuration was loaded is never taken back, and
from then on every bootstrap answers at once and changes nothing. So the attempts of the run to load
the configuration are failures, and one success after them if it was loaded. -/
theorem search_state_is_coherent (period : Int32) (host : Host) (moves : List HostMove)
    (spared : SparesPackage moves (.start period (start host))) :
    let session := hostRun period host moves
    SearchCoherent session.world ∧
    (∀ directory other raised, (setSearchPath directory other).1 = .error raised →
      SearchRefused other (setSearchPath directory other).2) ∧
    (∀ move, LoadedFollows move session) ∧
    ∃ failures, attempts moves (.start period (start host)) = List.replicate failures false ++
      if session.world.scripts.bootstrapped then [true] else [] := by
  intro session
  have pointed : IsPointed Store.packageId session.world := (isPointed_start host).run spared
  exact ⟨pointed.searchCoherent, fun _ _ _ => setSearchPath_error,
    fun move => loadedFollows move session, attempts_eq rfl⟩

/-- A configuration module that is broken at first and then mended. -/
def mendedModule : List HostMove := [
  .setSearchPath "",
  .replaceFiles fun _ => { entries := [
    (["robot", defaultMarker], .file (.script [.evaluate (Script.Expr.raise (.text "broken"))]))] },
  .bootstrap ["/elsewhere", "/robot"] defaultMarker,
  .replaceFiles fun _ => { entries := [
    (["robot", defaultMarker], .file (.script [.returned [.table []]]))] },
  .bootstrap [] defaultMarker,
  .bootstrap ["/elsewhere"] defaultMarker]

theorem mended_module_is_loaded_once :
    SparesPackage mendedModule (.start 20 (start { scripts := {} })) ∧
    attempts mendedModule (.start 20 (start { scripts := {} })) = [false, true] ∧
    (hostRun 20 { scripts := {} } mendedModule).world.scripts.searchDirectory = some "/robot" ∧
    shownTemplates? (hostRun 20 { scripts := {} } mendedModule).world =
      some "/robot/?.lua;/robot/?/init.lua" := by
  have spared : SparesPackage mendedModule (.start 20 (start { scripts := {} })) := by
    decide +kernel
  have loadedOnce :
      attempts mendedModule (.start 20 (start { scripts := {} })) = [false, true] := by
    decide +kernel
  have moved : (hostRun 20 { scripts := {} } mendedModule).world.scripts.searchDirectory =
      some "/robot" := by
    decide +kernel
  obtain ⟨coherent, _⟩ := search_state_is_coherent 20 { scripts := {} } mendedModule spared
  have templates := coherent.templates
  rw [moved] at templates
  exact ⟨spared, loadedOnce, moved, templates⟩

end ScriptedRobot.Engine
