import ScriptedRobot.Proofs.Setup.Keys
import ScriptedRobot.Proofs.Setup.Variables

/-! # Layers and the setup

Layers that lie over each other make one setup (`Described`). As long as a section is given by
tables, the highest layer that sets a key decides about it, and where none does the default stands.
A section that is given by anything else hides what lower layers say about it. Only what comes of
all layers is checked: what is covered by a higher layer may be anything. -/

namespace ScriptedRobot.Setup

namespace Key

/-- The setting that decides about a key: the highest one in the forms of its section that count. -/
def deciding? (key : Key) (layers : List Settings) : Option Setting :=
  (counting (forms key.part.name layers)).findSome? (Setting.at? key.part.names key.name)

/-- The setting of a key in the highest layer that sets it. -/
def highest? (key : Key) (layers : List Settings) : Option Setting :=
  layers.findSome? fun layer =>
    (layer.lookup key.part.name).bind (Setting.at? key.part.names key.name)

end Key

/-- A setup that is what layers say, the highest first: the highest form of every section can stand
for one, and every key has what its deciding setting says, or the default. -/
structure Described (layers : List Settings) (setup : HostSetup) : Prop where
  sections : ∀ part : Part, ∀ form ∈ (forms part.name layers).head?, form.isSection = true
  keys : ∀ key : Key, key.Told (key.deciding? layers) setup

/-- The layers of a run, the highest first: the environment over all files that may hold settings,
in the order in which these are listed. -/
inductive Layered (surroundings : Surroundings) (explicit? : Option String) : List Settings → Prop
  | intro {files : List Settings}
      (read : List.Forall₂
        (fun source layer => fileLayer surroundings.files source.path = .ok layer)
        (sources surroundings explicit?) files) :
      Layered surroundings explicit? (Variable.settings surroundings.environment :: files)

variable {layers : List Settings} {setup : HostSetup}

theorem Key.told_congr (key : Key) (setup : HostSetup) {first second : Option Setting}
    (same : first.map Setting.constant? = second.map Setting.constant?) :
    key.Told first setup ↔ key.Told second setup := by
  cases first with
  | none =>
      obtain rfl := Option.map_eq_none_iff.mp same.symm
      exact Iff.rfl
  | some _ =>
      obtain ⟨_, rfl, equal⟩ := Option.map_eq_some_iff.mp same.symm
      unfold Told Fits
      dsimp only
      rw [equal]

/-- Merged layers give a setup exactly if they describe it. -/
theorem ofSettings_merge_iff (ordered : ∀ layer ∈ layers, Ordered layer) :
    HostSetup.ofSettings (merge layers.reverse) = .ok setup ↔ Described layers setup := by
  have inOrder (part : String) : ∀ form ∈ forms part layers, form.IsOrdered := by
    intro form member
    obtain ⟨layer, present, found⟩ := List.mem_filterMap.mp member
    exact (ordered layer present).of_lookup found
  rw [ofSettings_eq_ok_iff (ordered_merge ordered)]
  simp only [lookup_merge ordered, isSection_stack_iff]
  have told (key : Key) := key.told_congr setup
    (constant?_stack key.part.names (inOrder key.part.name) key.name)
  exact ⟨fun ⟨sections, keys⟩ => ⟨sections, fun key => (told key).mp (keys key)⟩,
    fun ⟨sections, keys⟩ => ⟨sections, fun key => (told key).mpr (keys key)⟩⟩

/-- A setup has to fit before it is looked at whether it can be used. -/
theorem setupOf_eq (layers : List Settings) : setupOf layers =
    match HostSetup.ofSettings (merge layers) with
    | .error misfit => .error (.misfit misfit)
    | .ok setup =>
      match setup.validate with
      | .error reason => .error (.unusable reason)
      | .ok () => .ok setup := by
  unfold setupOf
  cases HostSetup.ofSettings (merge layers) with
  | error _ => rfl
  | ok setup =>
      dsimp only [Except.mapError, bind, Except.bind]
      cases setup.validate <;> rfl

theorem setupOf_eq_ok_iff (ordered : ∀ layer ∈ layers, Ordered layer) :
    setupOf layers.reverse = .ok setup ↔ Described layers setup ∧ setup.validate = .ok () := by
  rw [← ofSettings_merge_iff ordered, setupOf_eq]
  cases HostSetup.ofSettings (merge layers.reverse) with
  | error _ => exact ⟨nofun, fun fits => nomatch fits.1⟩
  | ok made =>
      dsimp only
      constructor
      · intro done
        cases valid : made.validate with
        | error _ =>
            rw [valid] at done
            cases done
        | ok _ =>
            rw [valid] at done
            cases done
            exact ⟨rfl, valid⟩
      · rintro ⟨same, valid⟩
        cases same
        rw [valid]

theorem setupOf_eq_unusable_iff (ordered : ∀ layer ∈ layers, Ordered layer) {reason : Unusable} :
    setupOf layers.reverse = .error (.unusable reason) ↔
      ∃ setup, Described layers setup ∧ setup.validate = .error reason := by
  simp only [← ofSettings_merge_iff ordered]
  rw [setupOf_eq]
  cases HostSetup.ofSettings (merge layers.reverse) with
  | error _ => exact ⟨nofun, fun ⟨_, fits, _⟩ => nomatch fits⟩
  | ok made =>
      dsimp only
      constructor
      · intro done
        refine ⟨made, rfl, ?_⟩
        cases valid : made.validate with
        | error _ =>
            rw [valid] at done
            cases done
            rfl
        | ok _ =>
            rw [valid] at done
            cases done
      · rintro ⟨_, same, valid⟩
        cases same
        rw [valid]

/-! ## Files -/

section Readings

variable {ε α β : Type} {read : α → Except ε β}

theorem mapM_cons_of_ok {input : α} {result : β} (isRead : read input = .ok result)
    (rest : List α) : (input :: rest).mapM read = (rest.mapM read).map (result :: ·) := by
  rw [List.mapM_cons, isRead]
  cases rest.mapM read <;> rfl

theorem mapM_cons_of_error {input : α} {reason : ε} (fails : read input = .error reason)
    (rest : List α) : (input :: rest).mapM read = .error reason := by
  rw [List.mapM_cons, fails]
  rfl

theorem mapM_of_forall₂ {inputs : List α} {results : List β}
    (areRead : List.Forall₂ (fun input result => read input = .ok result) inputs results) :
    inputs.mapM read = .ok results := by
  induction areRead with
  | nil => rfl
  | cons isRead _ ih => rw [mapM_cons_of_ok isRead, ih, Except.map]

/-- Either all inputs can be read, or the first failure is that of the whole reading. -/
theorem forall₂_or_mapM_fails (read : α → Except ε β) (inputs : List α) :
    (∃ results, List.Forall₂ (fun input result => read input = .ok result) inputs results) ∨
    ∃ input reason, read input = .error reason ∧ inputs.mapM read = .error reason := by
  induction inputs with
  | nil => exact .inl ⟨[], .nil⟩
  | cons input rest ih =>
      cases isRead : read input with
      | error reason =>
          exact .inr ⟨input, reason, isRead, mapM_cons_of_error isRead rest⟩
      | ok result =>
          rcases ih with ⟨results, areRead⟩ | ⟨failing, reason, fails, stops⟩
          · exact .inl ⟨result :: results, .cons isRead areRead⟩
          · refine .inr ⟨failing, reason, fails, ?_⟩
            rw [mapM_cons_of_ok isRead, stops, Except.map]

end Readings

theorem ordered_of_fileLayer {files : Files} {path : String} {layer : Settings}
    (read : fileLayer files path = .ok layer) : Ordered layer := by
  unfold fileLayer at read
  split at read
  · cases read
    exact .nil
  · split at read
    · rename_i parsed
      cases read
      exact Toml.ordered_of_parse? parsed
    · cases read
  · cases read

theorem eq_unreadable_of_fileLayer {files : Files} {path : String} {failure : Failure}
    (fails : fileLayer files path = .error failure) : failure = .unreadable := by
  unfold fileLayer at fails
  split at fails
  · cases fails
  · split at fails
    · cases fails
    · cases fails
      rfl
  · cases fails
    rfl

variable {surroundings : Surroundings} {explicit? : Option String}

/-- Files are listed in the opposite order of that in which they are read. -/
theorem filePaths_eq (surroundings : Surroundings) (explicit? : Option String) :
    surroundings.filePaths explicit? = ((sources surroundings explicit?).map (·.path)).reverse := by
  cases explicit? <;> rfl

theorem Layered.ordered (layered : Layered surroundings explicit? layers) :
    ∀ layer ∈ layers, Ordered layer := by
  obtain ⟨read⟩ := layered
  refine List.forall_mem_cons.mpr ⟨Variable.ordered_settings _, ?_⟩
  revert read
  generalize sources surroundings explicit? = listed
  intro read
  induction read with
  | nil => exact nofun
  | cons isRead _ ih => exact List.forall_mem_cons.mpr ⟨ordered_of_fileLayer isRead, ih⟩

theorem Layered.load_eq (layered : Layered surroundings explicit? layers) :
    load surroundings explicit? = setupOf layers.reverse := by
  obtain ⟨read⟩ := layered
  unfold load
  rw [filePaths_eq, mapM_of_forall₂ (List.rel_reverse (List.forall₂_map_left_iff.mpr read)),
    List.reverse_cons]
  rfl

theorem layered_or_unreadable (surroundings : Surroundings) (explicit? : Option String) :
    (∃ layers, Layered surroundings explicit? layers) ∨
      load surroundings explicit? = .error .unreadable := by
  rcases forall₂_or_mapM_fails (fileLayer surroundings.files) (surroundings.filePaths explicit?)
    with ⟨files, areRead⟩ | ⟨_, _, fails, stops⟩
  · rw [filePaths_eq, ← List.forall₂_reverse_iff, List.reverse_reverse,
      List.forall₂_map_left_iff] at areRead
    exact .inl ⟨_, .intro areRead⟩
  · refine .inr ?_
    unfold load
    rw [stops, eq_unreadable_of_fileLayer fails]
    rfl

/-- As long as the section of a key is given by tables, the highest layer that sets the key
decides. -/
theorem Key.deciding?_eq_highest? (key : Key) {layers : List Settings}
    (tables : ∀ layer ∈ layers, ∀ form ∈ layer.lookup key.part.name, form.isTable = true) :
    key.deciding? layers = key.highest? layers := by
  unfold deciding? highest?
  rw [counting_of_tables, findSome?_forms]
  intro form member
  obtain ⟨layer, present, found⟩ := List.mem_filterMap.mp member
  exact tables layer present form found

theorem fileLayer_of_not_contains {files : Files} {path : String}
    (absent : files.contains path = false) : fileLayer files path = .ok [] := by
  unfold Files.contains at absent
  unfold fileLayer Files.content?
  rw [Option.isSome_eq_false_iff, Option.isNone_iff_eq_none] at absent
  rw [absent]

/-- Whatever is in the files and in the environment, there is a setup exactly if all files can be
read, the layers describe a setup, and it is a valid one; and then it is this one. Where a setup is
rejected, it is the described one that is not valid, whichever layer its values are from. A key has
the setting of the highest layer that sets it if its section is given by tables, and the default if
no layer sets it. The files are listed in the order of their layers, and those that are not found
have empty layers. -/
theorem load_layers (surroundings : Surroundings) (explicit? : Option String) :
    (∀ setup, load surroundings explicit? = .ok setup ↔
      ∃ layers, Layered surroundings explicit? layers ∧ Described layers setup ∧
        setup.validate = .ok ()) ∧
    (∀ reason, load surroundings explicit? = .error (.unusable reason) ↔
      ∃ layers setup, Layered surroundings explicit? layers ∧ Described layers setup ∧
        setup.validate = .error reason) ∧
    (∀ (key : Key) (layers : List Settings),
      (∀ layer ∈ layers, ∀ form ∈ layer.lookup key.part.name, form.isTable = true) →
        key.deciding? layers = key.highest? layers) ∧
    (sources surroundings explicit?).map (fun source => (source.label, source.path)) =
      explicit?.toList.map (("Explicit", ·)) ++
        [("Project", projectFile), ("Global", surroundings.globalFile)] ∧
    ∀ source ∈ sources surroundings explicit?,
      source.found = surroundings.files.contains source.path ∧
      (source.found = false → fileLayer surroundings.files source.path = .ok []) := by
  refine ⟨fun setup => ⟨fun done => ?_, ?_⟩, fun reason => ⟨fun rejected => ?_, ?_⟩,
    fun key _ => key.deciding?_eq_highest?, ?_, fun source member => ?_⟩
  · rcases layered_or_unreadable surroundings explicit? with ⟨layers, layered⟩ | unreadable
    · rw [layered.load_eq] at done
      exact ⟨layers, layered, (setupOf_eq_ok_iff layered.ordered).mp done⟩
    · cases unreadable.symm.trans done
  · rintro ⟨layers, layered, valid⟩
    rw [layered.load_eq]
    exact (setupOf_eq_ok_iff layered.ordered).mpr valid
  · rcases layered_or_unreadable surroundings explicit? with ⟨layers, layered⟩ | unreadable
    · rw [layered.load_eq] at rejected
      obtain ⟨setup, invalid⟩ := (setupOf_eq_unusable_iff layered.ordered).mp rejected
      exact ⟨layers, setup, layered, invalid⟩
    · cases unreadable.symm.trans rejected
  · rintro ⟨layers, setup, layered, invalid⟩
    rw [layered.load_eq]
    exact (setupOf_eq_unusable_iff layered.ordered).mpr ⟨setup, invalid⟩
  · cases explicit? <;> rfl
  · have found : source.found = surroundings.files.contains source.path := by
      rcases List.mem_append.mp member with explicit | always
      · obtain ⟨_, _, rfl⟩ := List.mem_map.mp explicit
        rfl
      · rcases List.mem_cons.mp always with rfl | last
        · rfl
        · obtain rfl := List.mem_singleton.mp last
          rfl
    exact ⟨found, fun absent => fileLayer_of_not_contains (found ▸ absent)⟩

namespace Hidden

/-! The user's own file names a program in a table. The file of the project gives the programs in a
list, and says nothing about that one. -/

def globalText : String := "[programs]\nautonomous = \"lower.bot\"\n"

def projectText : String := "programs = [\"upper.bot\"]\n"

def robot : Surroundings where
  files := { entries := [
    (["home", "luabot", "config.toml"], .file (.text globalText none)),
    (["luabot.toml"], .file (.text projectText none))] }
  configurationDirectory := "/home"

def outcome : HostSetup := { programs := { teleop := "upper.bot" } }

theorem toOption_load : (load robot none).toOption = some outcome := by
  decide +kernel

/-- What the highest layer that names the program names. -/
theorem named : ((fileLayer robot.files projectFile).toOption.bind fun project =>
    (fileLayer robot.files robot.globalFile).toOption.bind fun global =>
      (Key.autonomous.highest? [Variable.settings robot.environment, project, global]).bind
        Setting.constant?) = some (.text "lower.bot") := by
  decide +kernel

end Hidden

open Hidden in
theorem list_hides_lower_key : load robot none = .ok outcome ∧
    Key.autonomous.value? outcome = some (.text "autonomous.bot") ∧
    ∃ layers, Layered robot none layers ∧
      (Key.autonomous.highest? layers).bind Setting.constant? = some (.text "lower.bot") := by
  have loaded : load robot none = .ok outcome := by
    have succeeds := toOption_load
    cases made : load robot none with
    | error _ =>
        rw [made] at succeeds
        cases succeeds
    | ok _ =>
        rw [made] at succeeds
        exact congrArg _ (Option.some.inj succeeds)
  refine ⟨loaded, rfl, ?_⟩
  rcases layered_or_unreadable robot none with ⟨layers, layered⟩ | unreadable
  · refine ⟨layers, layered, ?_⟩
    obtain ⟨_ | ⟨isProject, _ | ⟨isGlobal, _ | _⟩⟩⟩ := layered
    have isNamed := named
    rw [isProject, isGlobal] at isNamed
    exact isNamed
  · cases unreadable.symm.trans loaded

end ScriptedRobot.Setup
