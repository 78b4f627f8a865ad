import ScriptedRobot.Main
import ScriptedRobot.Proofs.Engine.LoadFailure
import ScriptedRobot.Proofs.Files.Tree

/-! # Listed programs

Programs are listed by scanning the search directory, and loaded by joining their names to its path.
The two agree on every name that a file can have: a name with the extension of programs is one step
of a path, so it is looked for in the search directory, and the joined path leads to the file that
was listed. -/

namespace ScriptedRobot.Engine

open Script (Value)

variable {host : Host} {files : Files} {directory name path : String} {place : List String}

/-! ## What is listed -/

theorem listPrograms_of_unset (unset : host.scripts.searchDirectory = none) :
    (listPrograms host).1 = [] := by
  unfold listPrograms
  rw [unset]

theorem listPrograms_of_listable (set : host.scripts.searchDirectory = some directory)
    (listable : host.scripts.files.listable? directory = some place) :
    (listPrograms host).1 = programsAt host.scripts.files place := by
  unfold listPrograms
  rw [set]
  simp only [listable]

theorem listPrograms_of_unlistable (set : host.scripts.searchDirectory = some directory)
    (unlistable : host.scripts.files.listable? directory = none) : (listPrograms host).1 = [] := by
  unfold listPrograms
  rw [set]
  simp only [unlistable]

theorem mem_programsAt (tree : files.IsTree) : name ∈ programsAt files place ↔
    (∃ content, files.entry? (place ++ [name]) = some (.file content)) ∧
      ∃ stem, stem ≠ "" ∧ name = stem ++ ".bot" := by
  unfold programsAt
  have extended : (Path.extension? name == some programExtension) = true ↔
      ∃ stem, stem ≠ "" ∧ name = stem ++ "." ++ programExtension := by
    rw [beq_iff_eq]
    exact Path.extension?_eq_some_iff (by decide)
  have point (stem : String) : stem ++ "." ++ programExtension = stem ++ ".bot" :=
    String.append_assoc
  rw [List.mem_filter, tree.mem_fileNames, extended]
  simp only [point]

/-- Programs are listed in the order of the bytes of their names. -/
theorem pairwise_programsAt (tree : files.IsTree) (place : List String) :
    ((programsAt files place).map Text.encodeUtf8).Pairwise (· < ·) := by
  unfold programsAt
  rw [List.pairwise_map]
  exact ((tree.pairwise_fileNames place).sublist List.filter_sublist).imp Text.encodeUtf8_lt

/-! ## What is loaded -/

theorem resolveProgram_of_isName (isName : Path.IsName name) :
    resolveProgram (some directory) name = Path.join directory name := by
  have single := Path.stepCount_of_whole isName.whole
  unfold resolveProgram
  rw [Path.isAbsolute_of_whole isName.whole, Bool.false_or,
    if_neg (by simpa using single)]

/-- The name of a file in the search directory leads to that file. -/
theorem place?_resolveProgram (tree : files.IsTree) (listable : files.listable? directory = some place)
    {content : FileContent} (there : files.entry? (place ++ [name]) = some (.file content)) :
    files.place? (resolveProgram (some directory) name) = some (place ++ [name]) := by
  have isName := tree.isName_of_file there
  obtain ⟨found, isDirectory, _⟩ := Files.listable?_eq_some_iff.mp listable
  rw [resolveProgram_of_isName isName]
  exact tree.place?_join isName found isDirectory (Option.isSome_of_mem there)

theorem LoadFault.kind_error_eq_fileNotFound {fault : LoadFault} :
    (fault.error path).kind = .fileNotFound ↔ fault = .missing := by
  have raising (raised : Value) : (failureOf raised).kind ≠ .fileNotFound := by
    unfold failureOf
    cases raised.isNative <;> nofun
  cases fault with
  | missing => exact ⟨fun _ => rfl, fun _ => rfl⟩
  | chunkRaised raised | factoryRaised raised | lookupRaised raised =>
      exact ⟨fun found => (raising raised found).elim, nofun⟩
  | unreadable | uncompiled | notAFactory | notADescriptor => exact ⟨nofun, nofun⟩

/-- A file is reported as not found exactly if the path leads to none. -/
theorem kind_loadAs_eq_fileNotFound :
    (loadAs name path host).1.kind = some .fileNotFound ↔
      host.scripts.files.content? path = none := by
  constructor
  · intro reported
    obtain ⟨found, after, finds⟩ | ⟨fault, after, fails⟩ := isSettled path host
    · unfold loadAs at reported
      rw [finds.capture_eq] at reported
      cases reported
    · rw [fails.loadAs_eq] at reported
      obtain rfl := LoadFault.kind_error_eq_fileNotFound.mp (Option.some.inj reported)
      cases fails with
      | missing absent => exact absent
  · intro absent
    rw [(LoadFails.missing absent).loadAs_eq]
    rfl

/-- With no search directory, or with one that cannot be listed, no programs are listed. Otherwise
the files of the directory are listed that have the extension of programs, in the order of the bytes
of their names. As long as the files and the search directory stay as they are, what is loaded by a
listed name is the listed file, so it is found. -/
theorem listed_programs_are_found (tree : host.scripts.files.IsTree) :
    let files := host.scripts.files
    let names := (listPrograms host).1
    (host.scripts.searchDirectory = none → names = []) ∧
    ∀ directory, host.scripts.searchDirectory = some directory →
      (files.listable? directory = none → names = []) ∧
      (names.map Text.encodeUtf8).Pairwise (· < ·) ∧
      ∀ place, files.listable? directory = some place →
        (∀ name, name ∈ names ↔
          (∃ content, files.entry? (place ++ [name]) = some (.file content)) ∧
            ∃ stem, stem ≠ "" ∧ name = stem ++ ".bot") ∧
        ∀ name ∈ names, ∀ later : Host, later.scripts.files = files →
          later.scripts.searchDirectory = some directory →
          let path := resolveProgram later.scripts.searchDirectory name
          files.place? path = some (place ++ [name]) ∧
          (load name later).1 = (loadAs name path later).1 ∧
          (load name later).1.kind ≠ some .fileNotFound := by
  intro files names
  refine ⟨listPrograms_of_unset, fun directory set =>
    ⟨listPrograms_of_unlistable set, ?_, fun place listable => ?_⟩⟩
  · cases listable : files.listable? directory with
    | none =>
        have nothing : names = [] := listPrograms_of_unlistable set listable
        rw [nothing]
        exact .nil
    | some place =>
        have listed : names = programsAt files place := listPrograms_of_listable set listable
        rw [listed]
        exact pairwise_programsAt tree place
  · have listed : names = programsAt files place := listPrograms_of_listable set listable
    rw [listed]
    refine ⟨fun name => mem_programsAt tree, fun name member later same laterSet => ?_⟩
    obtain ⟨⟨content, there⟩, _⟩ := (mem_programsAt tree).mp member
    have reached := place?_resolveProgram tree listable there
    rw [laterSet]
    refine ⟨reached, laterSet ▸ load_fst name later, ?_⟩
    rw [load_fst, laterSet, Ne, kind_loadAs_eq_fileNotFound, same, Files.content?_of_place reached,
      there]
    nofun

/-- The files that the program comes with are a tree. -/
theorem isTree_deployedFiles {workingDirectory : String}
    (absolute : Path.isAbsolute workingDirectory = true) :
    (deployedFiles workingDirectory).IsTree := by
  have onward : ∀ name ∈ Deployed.files.map Prod.fst,
      Path.isAbsolute (Path.join "/home/lvuser/deploy" name) = true ∧
      ".." ∉ Path.steps (Path.join "/home/lvuser/deploy" name) := by
    decide +kernel
  refine (Files.isTree_empty absolute).foldl_write _ _ _ fun file member => ?_
  obtain ⟨rooted, noUp⟩ := onward file.1 (List.mem_map_of_mem member)
  rwa [Files.namedPlace_of_absolute rooted]

/-- A host with the scripts that the program comes with. -/
def deployedHost : Host :=
  { scripts := { files := deployedFiles "/", searchDirectory := some "/home/lvuser/deploy" } }

theorem deployed_program_is_listed_and_found : deployedHost.scripts.files.IsTree ∧
    "test.bot" ∈ (listPrograms deployedHost).1 ∧
    (load "test.bot" deployedHost).1.kind ≠ some .fileNotFound := by
  have tree : deployedHost.scripts.files.IsTree := isTree_deployedFiles (by decide +kernel)
  obtain ⟨_, _, found⟩ := (listed_programs_are_found tree).2 "/home/lvuser/deploy" rfl
  obtain ⟨listed, loads⟩ := found ["home", "lvuser", "deploy"] (by decide +kernel)
  have reached : deployedHost.scripts.files.place? "/home/lvuser/deploy/test.bot" =
      some ["home", "lvuser", "deploy", "test.bot"] := by decide +kernel
  have there := (Files.isFile_iff_of_place reached).mp (by decide +kernel)
  have member := (listed "test.bot").mpr ⟨there, "test", by decide, by decide⟩
  exact ⟨tree, member, (loads _ member deployedHost rfl rfl).2.2⟩

end ScriptedRobot.Engine
