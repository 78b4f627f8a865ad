import ScriptedRobot.Proofs.Engine.SearchPath
import ScriptedRobot.Proofs.Files.Tree

/-! # The files of a module

The marker is looked for at a path that is joined from a directory and a name. The configuration
module is looked for by templates, which are one text: it is taken apart at semicolons, and the
name of the module is put in for question marks. Where the directory has neither of these letters
both ways lead to one file (`find?_moduleFiles_of_verbatim`, `Files.IsTree.place?_slash`). Nothing
keeps a letter of the directory from being read as part of the templates, so that for every other
directory the file that was found is not even among those that are tried
(`mem_moduleFiles_iff`). -/

namespace ScriptedRobot.Engine

open Configuration.Global (globalName)
open Script (Run Store Value)

variable {host : Host} {files : Files} {root name front back templates : String}

/-! ## Taking templates apart -/

/-- No letter of a text has a meaning in templates. -/
def IsVerbatim (text : String) : Prop :=
  ∀ letter ∈ text.toList, letter ≠ ';' ∧ letter ≠ '?'

instance (text : String) : Decidable (IsVerbatim text) :=
  List.decidableBAll (fun letter => letter ≠ ';' ∧ letter ≠ '?') text.toList

/-- The letters of templates, with a name put in for question marks. -/
def inserted (name : String) (letters : List Char) : List Char :=
  letters.flatMap fun letter => if letter = '?' then name.toList else [letter]

theorem inserted_append (name : String) (first second : List Char) :
    inserted name (first ++ second) = inserted name first ++ inserted name second :=
  List.flatMap_append

theorem inserted_of_settled {letters : List Char} (settled : '?' ∉ letters) :
    inserted name letters = letters := by
  induction letters with
  | nil => rfl
  | cons letter rest ih =>
      rw [List.mem_cons, not_or] at settled
      have next := ih settled.2
      unfold inserted at next ⊢
      rw [List.flatMap_cons, if_neg (Ne.symm settled.1), next]
      rfl

/-- A letter that is put in comes from the name, and question marks come from nowhere else. -/
theorem mem_inserted {letter : Char} {letters : List Char}
    (member : letter ∈ inserted name letters) :
    letter ∈ name.toList ∨ letter ∈ letters ∧ letter ≠ '?' := by
  obtain ⟨source, sourceMember, from_⟩ := List.mem_flatMap.mp member
  by_cases marked : source = '?'
  · rw [if_pos marked] at from_
    exact .inl from_
  · rw [if_neg marked, List.mem_singleton] at from_
    subst from_
    exact .inr ⟨sourceMember, marked⟩

theorem moduleFiles_append_semicolon (front back name : String) :
    moduleFiles (front ++ ";" ++ back) name = moduleFiles front name ++ moduleFiles back name := by
  unfold moduleFiles
  rw [String.toList_append, String.toList_append, List.append_assoc]
  change List.map _ (List.splitOn ';' (inserted name (front.toList ++ ';' :: back.toList))) = _
  rw [inserted_append]
  change List.map _ (List.splitOn ';'
    (inserted name front.toList ++ ';' :: inserted name back.toList)) = _
  rw [List.splitOn_append_cons_self, List.map_append]
  rfl

/-- Templates without a semicolon are a single one. -/
theorem moduleFiles_of_undivided (undivided : ';' ∉ templates.toList) (single : ';' ∉ name.toList) :
    moduleFiles templates name = [String.ofList (inserted name templates.toList)] := by
  have whole : ';' ∉ inserted name templates.toList := by
    intro member
    rcases mem_inserted member with named | ⟨kept, _⟩
    · exact single named
    · exact undivided kept
  change List.map _ (List.splitOn ';' (inserted name templates.toList)) = _
  rw [List.splitOn_eq_singleton whole]
  rfl

theorem moduleFiles_searchTemplates (root name : String) :
    moduleFiles (searchTemplates root) name =
      moduleFiles (root ++ "/?.lua") name ++ moduleFiles (root ++ "/?/init.lua") name := by
  rw [← moduleFiles_append_semicolon]
  refine congrArg (fun templates => moduleFiles templates name) ?_
  rw [← String.toList_inj]
  simp [searchTemplates]

/-- A template for a directory without a semicolon stands for the file of that name below the
directory. -/
theorem moduleFiles_of_template {rest template : String} (made : template = "/?" ++ rest)
    (undivided : ';' ∉ root.toList) (single : ';' ∉ name.toList) (plain : IsVerbatim rest) :
    moduleFiles (root ++ template) name =
      [String.ofList (inserted name root.toList) ++ "/" ++ name ++ rest] := by
  have undividedRest : ';' ∉ rest.toList := fun member => (plain _ member).1 rfl
  have settled : '?' ∉ rest.toList := fun member => (plain _ member).2 rfl
  have undividedFile : ';' ∉ (root ++ template).toList := by
    simp [made, undivided, undividedRest]
  have slash : inserted name "/?".toList = '/' :: name.toList := by
    simp [inserted]
  have letters : inserted name (root ++ template).toList =
      inserted name root.toList ++ '/' :: name.toList ++ rest.toList := by
    rw [made, String.toList_append, String.toList_append, inserted_append, inserted_append, slash,
      inserted_of_settled settled, List.append_assoc]
  rw [moduleFiles_of_undivided undividedFile single, letters]
  refine congrArg (fun file => [file]) ?_
  rw [← String.toList_inj]
  simp

/-- A directory without a semicolon is searched for two files, under a path that has the name of
the module in the place of question marks. -/
theorem moduleFiles_of_whole (undivided : ';' ∉ root.toList) (single : ';' ∉ name.toList) :
    moduleFiles (searchTemplates root) name =
      let directory := String.ofList (inserted name root.toList)
      [directory ++ "/" ++ name ++ ".lua", directory ++ "/" ++ name ++ "/init.lua"] := by
  have direct : "/?.lua" = "/?" ++ ".lua" := rfl
  have nested : "/?/init.lua" = "/?" ++ "/init.lua" := rfl
  rw [moduleFiles_searchTemplates, moduleFiles_of_template direct undivided single (by decide),
    moduleFiles_of_template nested undivided single (by decide)]
  rfl

/-- The file below a directory is among those that are tried exactly if the directory is
verbatim. -/
theorem mem_moduleFiles_iff :
    root ++ "/" ++ defaultMarker ∈ moduleFiles (searchTemplates root) globalName ↔
      IsVerbatim root := by
  constructor
  · intro member
    have undivided : ';' ∉ root.toList := by
      obtain ⟨piece, split, same⟩ := List.mem_map.mp member
      have absent := Path.not_mem_of_mem_splitOn ';' _ piece split
      rw [← String.toList_inj, String.toList_ofList] at same
      rw [same] at absent
      intro divided
      exact absent (by simp [divided])
    have settled : '?' ∉ root.toList := by
      have absent : '?' ∉ inserted globalName root.toList := by
        intro marked
        rcases mem_inserted marked with named | ⟨_, other⟩
        · exact absurd named (by decide)
        · exact other rfl
      rw [moduleFiles_of_whole undivided (by decide)] at member
      intro marked
      have markedFile : '?' ∈ (root ++ "/" ++ defaultMarker).toList := by simp [marked]
      rw [List.mem_cons, List.mem_singleton] at member
      rcases member with same | same
      · rw [same] at markedFile
        exact absent (by simpa [globalName] using markedFile)
      · rw [same] at markedFile
        exact absent (by simpa [globalName] using markedFile)
    intro letter member
    exact ⟨fun same => undivided (same ▸ member), fun same => settled (same ▸ member)⟩
  · intro verbatim
    have undivided : ';' ∉ root.toList := fun member => (verbatim _ member).1 rfl
    have settled : '?' ∉ root.toList := fun member => (verbatim _ member).2 rfl
    rw [moduleFiles_of_whole undivided (by decide), inserted_of_settled settled]
    refine List.mem_cons.mpr (.inl ?_)
    rw [← String.toList_inj]
    simp [globalName, defaultMarker]

/-- A verbatim directory that holds the marker is searched for the module in this file first. -/
theorem find?_moduleFiles_of_verbatim (verbatim : IsVerbatim root)
    (there : files.contains (root ++ "/" ++ defaultMarker) = true) :
    (moduleFiles (searchTemplates root) globalName).find? files.contains =
      some (root ++ "/" ++ defaultMarker) := by
  have undivided : ';' ∉ root.toList := fun member => (verbatim _ member).1 rfl
  have settled : '?' ∉ root.toList := fun member => (verbatim _ member).2 rfl
  have first : String.ofList (inserted globalName root.toList) ++ "/" ++ globalName ++ ".lua" =
      root ++ "/" ++ defaultMarker := by
    rw [inserted_of_settled settled, ← String.toList_inj]
    simp [globalName, defaultMarker]
  rw [moduleFiles_of_whole undivided (by decide)]
  dsimp only
  rw [first, List.find?_cons_of_pos there]

/-! ## Running what was found -/

/-- Run what was read as a module. -/
def runModule (name path : String) (content? : Option FileContent) : Run Rig Value :=
  match content?.bind scriptOf? with
  | none => Run.fail ("error loading module '" ++ name ++ "' from file '" ++ path ++ "':")
  | some chunk => do
    let value := Value.first (← Run.chunk chunk [.text name, .text path])
    return if value.isNil then .boolean true else value

/-- Run what was read as the configuration module. -/
def runConfiguration (path : String) (content? : Option FileContent) : Run Rig Unit := do
  Run.setGlobal globalName (← runModule globalName path content?)

/-- The configuration module is what is in the first file that is there. -/
theorem run_loadConfiguration
    (path : (host.scripts.store.table Store.packageId).get (.text "path") = .text templates)
    (files : Files) : run (loadConfiguration files) host =
      match (moduleFiles templates globalName).find? files.contains with
      | none => (.error (.text "bootstrap:1: module 'config' not found"), host)
      | some path => run (runConfiguration path (files.content? path)) host := by
  have read : run Engine.templates host = (.ok templates, host) := by
    have step : run (Run.readStore fun store =>
        (store.table Store.packageId).get (.text "path")) host = (.ok (.text templates), host) := by
      rw [← path]
      rfl
    unfold Engine.templates
    rw [run_bind_of_ok step]
    rfl
  unfold loadConfiguration requireModule
  dsimp only
  rw [run_bind, run_bind_of_ok read]
  cases found : (moduleFiles templates globalName).find? files.contains with
  | none => rfl
  | some path =>
      dsimp only
      unfold runConfiguration runModule
      refine Eq.trans ?_ (run_bind _ _ host).symm
      cases (files.content? path).bind scriptOf? <;> rfl

/-- A directory that holds the marker, whether it was set or is the first candidate to hold it, is
the one that the configuration is loaded for. What is run is the first file that is there among
those that the templates stand for, and the marker is one of them exactly if the directory is
verbatim. Then it is the first one, and its content is what is run: the template leads to the place
at which the marker was found. -/
theorem bootstrap_runs_marker (tree : host.scripts.files.IsTree)
    (isPackage : IsPackage host.scripts.store Store.packageId)
    (unloaded : host.scripts.bootstrapped = false) (nonempty : root ≠ "")
    (holds : host.scripts.files.isFile (Path.join root defaultMarker) = true) :
    let files := host.scripts.files
    let chosen := pointHost Store.packageId root host
    let tried := moduleFiles (searchTemplates root) globalName
    let path := root ++ "/" ++ defaultMarker
    (setSearchPath root host = (.ok (), chosen) ∧
      ∀ candidates marker, bootstrap candidates marker chosen = configure chosen) ∧
    (host.scripts.searchDirectory = none → ∀ earlier later,
      (∀ directory ∈ earlier, files.isFile (Path.join directory defaultMarker) = false) →
      bootstrap (earlier ++ root :: later) defaultMarker host = configure chosen) ∧
    run (loadConfiguration files) chosen = (match tried.find? files.contains with
      | none => (.error (.text "bootstrap:1: module 'config' not found"), chosen)
      | some first => run (runConfiguration first (files.content? first)) chosen) ∧
    (path ∈ tried ↔ IsVerbatim root) ∧
    (IsVerbatim root → tried.find? files.contains = some path ∧
      files.place? path = files.place? (Path.join root defaultMarker) ∧
      run (loadConfiguration files) chosen =
        run (runConfiguration path (files.content? (Path.join root defaultMarker))) chosen) := by
  intro files chosen tried path
  have set := isPackage.setSearchPath nonempty
  have ran := @run_loadConfiguration chosen _ (isPackage.path_pointStore root) files
  have placed : files.place? path = files.place? (Path.join root defaultMarker) :=
    tree.place?_slash nonempty (by decide)
  refine ⟨⟨set, fun candidates marker => ?_⟩, fun unset earlier later before => ?_, ran,
    mem_moduleFiles_iff, fun verbatim => ?_⟩
  · have unloadedChosen : chosen.scripts.bootstrapped = false := unloaded
    have kept : chooseRoot candidates marker chosen = (true, chosen) := rfl
    rw [bootstrap_of_unloaded unloadedChosen, kept]
  · exact bootstrap_of_root unloaded unset (findRoot?_append before holds) set
  · have there : files.contains path = true := by
      unfold Files.contains
      rw [Files.find?_congr placed]
      exact Files.contains_of_isFile holds
    have first := find?_moduleFiles_of_verbatim verbatim there
    rw [first] at ran
    refine ⟨first, placed, ?_⟩
    rw [← Files.content?_congr placed]
    exact ran

theorem isTree_hostWith {place : List String} (named : ∀ name ∈ place, Path.IsName name) :
    (hostWith place).scripts.files.IsTree where
  rooted := by
    have root : Path.isAbsolute "/" = true := by decide +kernel
    exact .inl root
  named := by
    intro entry member name isPart
    obtain rfl := List.mem_singleton.mp member
    rcases List.mem_append.mp isPart with inside | last
    · exact named name inside
    · obtain rfl := List.mem_singleton.mp last
      exact ⟨by decide, by decide, by decide, by decide⟩
  unique := List.pairwise_singleton _ _

/-- A slash at the end of the directory makes no difference. -/
theorem slashed_directory_runs_marker :
    let host := hostWith ["robot"]
    (∀ directory ∈ ["elsewhere", ""],
      host.scripts.files.isFile (Path.join directory defaultMarker) = false) ∧
    bootstrap ["elsewhere", "", "robot/", "/"] defaultMarker host =
      configure (pointHost Store.packageId "robot/" host) ∧
    host.scripts.files.place? "robot//config.lua" =
      host.scripts.files.place? (Path.join "robot/" defaultMarker) := by
  intro host
  have isName : ∀ name ∈ ["robot"], Path.IsName name := by
    intro name member
    obtain rfl := List.mem_singleton.mp member
    exact ⟨by decide, by decide, by decide, by decide⟩
  have before : ∀ directory ∈ ["elsewhere", ""],
      host.scripts.files.isFile (Path.join directory defaultMarker) = false := by decide +kernel
  have holds : host.scripts.files.isFile (Path.join "robot/" defaultMarker) = true := by
    decide +kernel
  obtain ⟨_, chosen, _, _, verbatim⟩ := bootstrap_runs_marker (isTree_hostWith isName)
    isPackage_initial rfl (by decide) holds
  exact ⟨before, chosen rfl _ _ before, (verbatim (by decide)).2.1⟩

/-- A configuration module that gives the team a name. -/
def namingModule (name : String) : FileContent :=
  .script [.returned [.table [.text "general", .table [.text "team_name", .text name]]]]

/-- The marker is found below a directory with a semicolon in its name, and what is run is the
module in another directory. -/
theorem semicolon_runs_other_module :
    let host := start { scripts := { files := { entries := [
      (["a;b", defaultMarker], .file (namingModule "right")),
      (["b", defaultMarker], .file (namingModule "wrong"))] } } }
    let outcome := bootstrap ["a;b"] defaultMarker host
    let lookup : Configuration.Lookup (Run Rig) := Configuration.Global.lookup
    host.scripts.files.isFile (Path.join "a;b" defaultMarker) = true ∧
    host.scripts.files.place? (Path.join "a;b" defaultMarker) = some ["a;b", defaultMarker] ∧
    outcome.1 = true ∧ (ask lookup.teamName "" outcome.2).1 = "wrong" := by
  decide +kernel

end ScriptedRobot.Engine
