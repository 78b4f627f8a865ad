import Mathlib.Tactic.SplitIfs
import ScriptedRobot.Files
import ScriptedRobot.Proofs.Files.Paths
import ScriptedRobot.Proofs.Text.Lookup
import ScriptedRobot.Proofs.Text.Order

/-! # Trees of files

What a file system holds is a tree: whatever is there has a name, and no place is taken twice. A
tree stays one when a file is written or removed. In a tree, what is listed in a directory under a
name is what the path to that name leads to (`place?_join`, `mem_fileNames`). -/

namespace ScriptedRobot.Files

/-- What can be on a file system that is seen from a working directory. -/
structure IsTree (files : Files) : Prop where
  /-- The path of the working directory starts at the root, or a word stands for it. -/
  rooted : Path.isAbsolute files.workingDirectory = true ∨ '/' ∉ files.workingDirectory.toList
  named : ∀ entry ∈ files.entries, ∀ name ∈ entry.1, Path.IsName name
  unique : (files.entries.map Prod.fst).Nodup

variable {files : Files} {place : List String} {directory name path : String}

/-! ## Following paths -/

/-- The place that one part of a path leads to. -/
def step? (files : Files) (place : List String) (part : String) : Option (List String) :=
  if files.isDirectoryAt place then
    if part = "" ∨ part = "." then some place
    else if part = ".." then some place.dropLast
    else if (files.entry? (place ++ [part])).isSome then some (place ++ [part])
    else none
  else none

theorem follow_cons (part : String) (rest : List String) :
    files.follow place (part :: rest) =
      (files.step? place part).bind fun next => files.follow next rest := by
  rw [follow]
  unfold step?
  dsimp only
  split_ifs <;> rfl

theorem follow_append (first second : List String) : files.follow place (first ++ second) =
    (files.follow place first).bind fun reached => files.follow reached second := by
  induction first generalizing place with
  | nil => rfl
  | cons part rest ih =>
      rw [List.cons_append, follow_cons, follow_cons]
      cases files.step? place part with
      | none => rfl
      | some next => exact ih

theorem follow_singleton (part : String) : files.follow place [part] = files.step? place part := by
  rw [follow_cons]
  cases files.step? place part <;> rfl

/-- A part without letters, as it is behind a final slash, leads nowhere else. -/
theorem eq_of_step?_empty {reached : List String} (step : files.step? place "" = some reached) :
    reached = place := by
  unfold step? at step
  split at step
  · exact (Option.some.inj step).symm
  · cases step

/-- Such a part before another one makes no difference. -/
theorem follow_empty_cons (part : String) (rest : List String) :
    files.follow place ("" :: part :: rest) = files.follow place (part :: rest) := by
  rw [follow_cons]
  unfold step?
  cases isDirectory : files.isDirectoryAt place with
  | true => rfl
  | false =>
      rw [follow, isDirectory]
      rfl

theorem step?_name (isName : Path.IsName name) (isDirectory : files.isDirectoryAt place = true)
    (there : (files.entry? (place ++ [name])).isSome = true) :
    files.step? place name = some (place ++ [name]) := by
  unfold step?
  rw [if_pos isDirectory, if_neg (not_or.mpr ⟨isName.nonempty, isName.ne_here⟩),
    if_neg isName.ne_up, if_pos there]

/-! ## Paths seen from the root -/

/-- Whether a path is taken as it is. -/
def isSeenFromRoot (files : Files) (path : String) : Bool :=
  Path.isAbsolute path || path == files.workingDirectory ||
    path.startsWith (files.workingDirectory ++ "/")

theorem fromRoot?_eq (nonempty : path ≠ "") : files.fromRoot? path =
    some (if files.isSeenFromRoot path then path
      else Path.join files.workingDirectory path) := by
  unfold fromRoot? isSeenFromRoot
  dsimp only
  rw [Path.isEmpty_eq_false nonempty, if_neg Bool.false_ne_true]
  split_ifs <;> rfl

theorem isSeenFromRoot_of_absolute (absolute : Path.isAbsolute files.workingDirectory = true) :
    files.isSeenFromRoot path = Path.isAbsolute path := by
  obtain ⟨rest, rooted⟩ := Path.isAbsolute_iff.mp absolute
  unfold isSeenFromRoot
  cases relative : Path.isAbsolute path with
  | true => rfl
  | false =>
      rw [Bool.eq_false_iff, Ne, Path.isAbsolute_iff] at relative
      have different : path ≠ files.workingDirectory := by
        rintro rfl
        exact relative ⟨rest, rooted⟩
      have outside : path.startsWith (files.workingDirectory ++ "/") = false := by
        rw [Bool.eq_false_iff, Ne, String.startsWith_string_iff]
        rintro ⟨further, same⟩
        rw [String.toList_append, rooted] at same
        exact relative ⟨_, same.symm⟩
      rw [beq_eq_false_iff_ne.mpr different, outside]
      rfl

/-- Where a word stands for the working directory, paths that start there have it as their first
part. -/
theorem isSeenFromRoot_of_whole (whole : '/' ∉ files.workingDirectory.toList) :
    files.isSeenFromRoot path = true ↔ Path.isAbsolute path = true ∨
      (Path.parts path).head? = some files.workingDirectory := by
  unfold isSeenFromRoot
  rw [Path.head?_parts_iff whole, Bool.or_eq_true, Bool.or_eq_true, beq_iff_eq,
    String.startsWith_string_iff, or_assoc]

theorem isAbsolute_of_unseen (unseen : ¬files.isSeenFromRoot path = true) :
    Path.isAbsolute path = false := by
  rw [Bool.eq_false_iff]
  intro absolute
  unfold isSeenFromRoot at unseen
  rw [absolute] at unseen
  exact unseen rfl

theorem namedPlace_of_absolute (absolute : Path.isAbsolute path = true) :
    files.namedPlace path = Path.steps path := by
  have nonempty : path ≠ "" := by
    rintro rfl
    cases absolute
  unfold namedPlace
  rw [fromRoot?_eq nonempty, isSeenFromRoot, absolute]
  rfl

namespace IsTree

variable (tree : files.IsTree)
include tree

/-- Two paths that start in the same way are seen from the same place. -/
theorem isSeenFromRoot_congr {other : String}
    (absolute : Path.isAbsolute path = Path.isAbsolute other)
    (first : (Path.parts path).head? = (Path.parts other).head?) :
    files.isSeenFromRoot path = files.isSeenFromRoot other := by
  rcases tree.rooted with rooted | word
  · rw [isSeenFromRoot_of_absolute rooted, isSeenFromRoot_of_absolute rooted, absolute]
  · rw [Bool.eq_iff_iff, isSeenFromRoot_of_whole word, isSeenFromRoot_of_whole word, first, absolute]

theorem isSeenFromRoot_join (nonempty : directory ≠ "") (whole : '/' ∉ name.toList) :
    files.isSeenFromRoot (Path.join directory name) = files.isSeenFromRoot directory := by
  have absolute := Path.isAbsolute_join (Path.isAbsolute_of_whole whole) nonempty
  obtain ⟨way, present, joined, same⟩ := Path.exists_parts_join nonempty whole
  refine tree.isSeenFromRoot_congr absolute ?_
  obtain ⟨part, parts, rfl⟩ := List.exists_cons_of_ne_nil present
  rw [joined]
  rcases same with same | same <;> rw [same] <;> rfl

theorem isSeenFromRoot_concat_slash (nonempty : directory ≠ "") :
    files.isSeenFromRoot (directory ++ "/") = files.isSeenFromRoot directory := by
  refine tree.isSeenFromRoot_congr (Path.isAbsolute_append nonempty "/") ?_
  obtain ⟨part, rest, parts⟩ := List.exists_cons_of_ne_nil (Path.parts_ne_nil directory)
  rw [Path.parts_concat_slash, parts]
  rfl

/-- A path to a name in a directory is seen from where the path to the directory is. -/
theorem fromRoot?_join {full : String} (whole : '/' ∉ name.toList)
    (seen : files.fromRoot? directory = some full) :
    full ≠ "" ∧ files.fromRoot? (Path.join directory name) = some (Path.join full name) := by
  have relative := Path.isAbsolute_of_whole whole
  have nonempty : directory ≠ "" := by
    rintro rfl
    cases seen
  have longer : Path.join directory name ≠ "" := by
    obtain ⟨base, joined, _⟩ := Path.exists_join relative nonempty
    rw [joined]
    intro empty
    have letters := congrArg String.toList empty
    rw [String.toList_append, String.toList_append] at letters
    cases (List.append_eq_nil_iff.mp (List.append_eq_nil_iff.mp letters).1).2
  rw [fromRoot?_eq nonempty] at seen
  rw [fromRoot?_eq longer, tree.isSeenFromRoot_join nonempty whole]
  obtain rfl := Option.some.inj seen
  split
  case isTrue => exact ⟨nonempty, rfl⟩
  case isFalse unseen =>
    obtain ⟨front, behind⟩ := Path.exists_front files.workingDirectory
    have inside := isAbsolute_of_unseen unseen
    have joinedInside := (Path.isAbsolute_join relative nonempty).trans inside
    rw [behind _ inside, behind _ joinedInside, Path.join_append relative front nonempty]
    refine ⟨fun empty => nonempty ?_, rfl⟩
    have letters := congrArg String.toList empty
    rw [String.toList_append] at letters
    exact String.toList_eq_nil_iff.mp (List.append_eq_nil_iff.mp letters).2

theorem fromRoot?_concat_slash {full : String} (nonempty : directory ≠ "")
    (seen : files.fromRoot? directory = some full) :
    files.fromRoot? (directory ++ "/") = some (full ++ "/") := by
  have longer : directory ++ "/" ≠ "" := by
    rw [Ne, ← String.toList_eq_nil_iff, String.toList_append]
    simp
  rw [fromRoot?_eq nonempty] at seen
  rw [fromRoot?_eq longer, tree.isSeenFromRoot_concat_slash nonempty]
  obtain rfl := Option.some.inj seen
  split
  case isTrue => rfl
  case isFalse unseen =>
    obtain ⟨front, behind⟩ := Path.exists_front files.workingDirectory
    have inside := isAbsolute_of_unseen unseen
    have longerInside := (Path.isAbsolute_append nonempty "/").trans inside
    rw [behind _ inside, behind _ longerInside, String.append_assoc]

/-- One more slash before a name leads to the same place. -/
theorem place?_slash (nonempty : directory ≠ "") (whole : '/' ∉ name.toList) :
    files.place? (directory ++ "/" ++ name) = files.place? (Path.join directory name) := by
  have relative := Path.isAbsolute_of_whole whole
  obtain ⟨full, seen⟩ : ∃ full, files.fromRoot? directory = some full := ⟨_, fromRoot?_eq nonempty⟩
  obtain ⟨present, joined⟩ := tree.fromRoot?_join whole seen
  obtain ⟨_, slashed⟩ := tree.fromRoot?_join whole (tree.fromRoot?_concat_slash nonempty seen)
  rw [Path.join_append_slash relative, Path.join_append_slash relative] at slashed
  obtain ⟨way, _, parts, same⟩ := Path.exists_parts_join present whole
  unfold place?
  rw [slashed, joined]
  change files.follow [] (Path.parts (full ++ "/" ++ name)) =
    files.follow [] (Path.parts (Path.join full name))
  rw [Path.parts_append_slash, Path.parts_of_whole whole, parts]
  rcases same with same | same
  · rw [same]
  · rw [same, List.append_assoc, follow_append, follow_append]
    exact congrArg (Option.bind _) (funext fun reached => follow_empty_cons name [])

/-- In a directory, the path to a name leads to that name. -/
theorem place?_join (isName : Path.IsName name) (found : files.place? directory = some place)
    (isDirectory : files.isDirectoryAt place = true)
    (there : (files.entry? (place ++ [name])).isSome = true) :
    files.place? (Path.join directory name) = some (place ++ [name]) := by
  unfold place? at found
  obtain ⟨full, seen, followed⟩ := Option.bind_eq_some_iff.mp found
  obtain ⟨present, joined⟩ := tree.fromRoot?_join isName.whole seen
  obtain ⟨way, _, parts, same⟩ := Path.exists_parts_join present isName.whole
  have reached : files.follow [] way = some place := by
    rcases same with same | same
    · rwa [same] at followed
    · rw [same, follow_append] at followed
      obtain ⟨before, followedWay, step⟩ := Option.bind_eq_some_iff.mp followed
      rw [follow_singleton] at step
      rw [followedWay, eq_of_step?_empty step]
  unfold place?
  rw [joined]
  change files.follow [] (Path.parts (Path.join full name)) = _
  rw [parts, follow_append, reached]
  change files.follow place [name] = _
  rw [follow_singleton, step?_name isName isDirectory there]

end IsTree

/-! ## Changing files -/

theorem isTree_empty {workingDirectory : String}
    (absolute : Path.isAbsolute workingDirectory = true) : ({ workingDirectory } : Files).IsTree where
  rooted := .inl absolute
  named := nofun
  unique := List.nodup_nil

/-- Keeping some entries and placing one elsewhere takes no place twice. -/
theorem IsTree.unique_append (tree : files.IsTree) {keeps : List String × Entry → Bool}
    (elsewhere : ∀ kept ∈ files.entries, keeps kept = true → kept.1 ≠ place) (entry : Entry) :
    ((files.entries.filter keeps ++ [(place, entry)]).map Prod.fst).Nodup := by
  rw [List.map_append, List.nodup_append]
  refine ⟨tree.unique.sublist (List.filter_sublist.map _), List.pairwise_singleton _ _, ?_⟩
  intro old taken new added same
  obtain ⟨kept, member, rfl⟩ := List.mem_map.mp taken
  obtain ⟨present, keeping⟩ := List.mem_filter.mp member
  exact elsewhere kept present keeping (same.trans (List.mem_singleton.mp added))

/-- Writing at a path without ways up leaves a tree. -/
theorem IsTree.write (tree : files.IsTree) (entry : Entry)
    (onward : ".." ∉ files.namedPlace path) : (files.write path entry).IsTree where
  rooted := tree.rooted
  named := by
    intro written member name isPart
    rcases List.mem_append.mp member with old | new
    · exact tree.named written (List.mem_filter.mp old).1 name isPart
    · obtain rfl := List.mem_singleton.mp new
      exact Path.isName_of_mem_steps onward isPart
  unique := tree.unique_append (fun _ _ other => of_decide_eq_true other) entry

/-- Writing at several paths without ways up leaves a tree. -/
theorem IsTree.foldl_write {α : Type} (tree : files.IsTree) (items : List α) (pathOf : α → String)
    (entryOf : α → Entry) (onward : ∀ item ∈ items, ".." ∉ files.namedPlace (pathOf item)) :
    (items.foldl (fun files item => files.write (pathOf item) (entryOf item)) files).IsTree := by
  induction items generalizing files with
  | nil => exact tree
  | cons item rest ih =>
      exact ih (tree.write _ (onward item List.mem_cons_self))
        fun later member => onward later (List.mem_cons_of_mem item member)

/-- Removing leaves a tree. -/
theorem IsTree.remove (tree : files.IsTree) (onward : ".." ∉ files.namedPlace path) :
    (files.remove path).IsTree where
  rooted := tree.rooted
  named := by
    intro left member name isPart
    unfold Files.remove at member
    dsimp only at member
    split at member
    · exact tree.named left (List.mem_filter.mp member).1 name isPart
    · rcases List.mem_append.mp member with old | new
      · exact tree.named left (List.mem_filter.mp old).1 name isPart
      · obtain rfl := List.mem_singleton.mp new
        exact Path.isName_of_mem_steps onward (List.dropLast_subset _ isPart)
  unique := by
    unfold Files.remove
    dsimp only
    split
    case isTrue => exact tree.unique.sublist (List.filter_sublist.map _)
    case isFalse absent =>
      refine tree.unique_append (fun kept present keeping same => absent ?_) _
      rw [List.contains_iff_mem, ← same]
      exact List.mem_map_of_mem (List.mem_filter.mpr ⟨present, keeping⟩)

/-! ## Files in a directory -/

theorem content?_of_place (found : files.place? path = some place) :
    files.content? path = match files.entry? place with
      | some (.file content) => some content
      | _ => none := by
  unfold content? find?
  rw [found]
  rfl

theorem find?_congr {other : String} (same : files.place? path = files.place? other) :
    files.find? path = files.find? other := by
  unfold find?
  rw [same]

theorem content?_congr {other : String} (same : files.place? path = files.place? other) :
    files.content? path = files.content? other := by
  unfold content?
  rw [find?_congr same]

/-- Where a file is, something is. -/
theorem contains_of_isFile (isFile : files.isFile path = true) : files.contains path = true := by
  unfold Files.isFile content? at isFile
  unfold contains
  split at isFile
  case h_1 found => rw [found]; rfl
  case h_2 => cases isFile

theorem isFile_iff_of_place (found : files.place? path = some place) :
    files.isFile path = true ↔ ∃ content, files.entry? place = some (.file content) := by
  unfold isFile
  rw [content?_of_place found]
  cases files.entry? place with
  | none => exact ⟨nofun, nofun⟩
  | some entry =>
      cases entry with
      | file content => exact ⟨fun _ => ⟨content, rfl⟩, fun _ => rfl⟩
      | directory => exact ⟨nofun, nofun⟩

theorem listable?_eq_some_iff : files.listable? path = some place ↔
    files.place? path = some place ∧ files.isDirectoryAt place = true ∧
      place ∉ files.unlistable := by
  unfold listable?
  rw [Option.filter_eq_some_iff, Bool.and_eq_true, Bool.not_eq_true', Bool.eq_false_iff, Ne,
    List.contains_iff_mem]

theorem entry?_eq_file_iff {content : FileContent} : files.entry? place = some (.file content) ↔
    files.entries.lookup place = some (.file content) := by
  unfold entry?
  cases files.entries.lookup place with
  | some _ => rfl
  | none =>
      dsimp only
      split_ifs <;> simp

/-- The name of an entry that is a file directly in a place. -/
def fileIn? (place : List String) : List String × Entry → Option String
  | (names, .file _) => if names.dropLast = place then names.getLast? else none
  | _ => none

theorem fileIn?_eq_some_iff {entry : List String × Entry} : fileIn? place entry = some name ↔
    ∃ content, entry = (place ++ [name], .file content) := by
  obtain ⟨names, content | _⟩ := entry
  · unfold fileIn?
    simp only [Prod.mk.injEq, Entry.file.injEq, exists_eq_right']
    constructor
    · intro found
      split at found
      case isTrue inside =>
        obtain ⟨front, rfl⟩ := List.getLast?_eq_some_iff.mp found
        rw [← inside, List.dropLast_concat]
      case isFalse => cases found
    · rintro rfl
      rw [List.dropLast_concat, if_pos rfl, List.getLast?_concat]
  · exact ⟨nofun, nofun⟩

/-- What is listed are the files whose names are text. -/
theorem filterMap_rawNames (files : Files) (place : List String) :
    (files.rawNames place).filterMap Text.textOf? = files.entries.filterMap (fileIn? place) := by
  have unnameable : (files.unnameable.filterMap fun file =>
      if file.1 = place then some file.2.val else none).filterMap Text.textOf? = [] := by
    rw [List.filterMap_filterMap, List.filterMap_eq_nil_iff]
    rintro ⟨directory, raw, nameless⟩ _
    dsimp only
    split_ifs
    · exact nameless
    · rfl
  unfold rawNames
  rw [List.filterMap_append, unnameable, List.append_nil, List.filterMap_filterMap]
  refine congrArg (fun name? => files.entries.filterMap name?) (funext fun entry => ?_)
  obtain ⟨names, content | _⟩ := entry
  · unfold fileIn?
    dsimp only
    split_ifs
    · cases names.getLast? with
      | none => rfl
      | some name => exact Text.textOf?_encodeUtf8 name
    · rfl
  · rfl

namespace IsTree

variable (tree : files.IsTree)
include tree

theorem mem_fileNames :
    name ∈ files.fileNames place ↔ ∃ content, files.entry? (place ++ [name]) = some (.file content) := by
  unfold fileNames
  rw [List.mem_mergeSort, filterMap_rawNames, List.mem_filterMap]
  simp only [fileIn?_eq_some_iff, entry?_eq_file_iff]
  constructor
  · rintro ⟨_, member, content, rfl⟩
    exact ⟨content, Text.lookup_eq_some_of_mem tree.unique member⟩
  · rintro ⟨content, found⟩
    exact ⟨_, Text.mem_of_lookup_eq_some found, content, rfl⟩

/-- No name is listed twice. -/
theorem pairwise_fileNames (place : List String) : (files.fileNames place).Pairwise (· < ·) := by
  have distinct : (files.fileNames place).Nodup := by
    unfold fileNames
    rw [(List.mergeSort_perm _ _).nodup_iff, filterMap_rawNames]
    refine List.Pairwise.filterMap _ (fun entry other different name found otherName foundOther => ?_)
      (List.pairwise_map.mp tree.unique)
    obtain ⟨_, rfl⟩ := fileIn?_eq_some_iff.mp found
    obtain ⟨_, rfl⟩ := fileIn?_eq_some_iff.mp foundOther
    rintro rfl
    exact different rfl
  have ordered := Text.pairwise_mergeSort ((files.rawNames place).filterMap Text.textOf?)
  refine (ordered.and distinct).imp fun ⟨atMost, different⟩ => ?_
  exact Decidable.byContradiction fun notLess =>
    different (String.le_antisymm atMost (String.not_lt.mp notLess))

theorem isName_of_file {content : FileContent}
    (there : files.entry? (place ++ [name]) = some (.file content)) : Path.IsName name :=
  tree.named _ (Text.mem_of_lookup_eq_some (entry?_eq_file_iff.mp there)) name (by simp)

end IsTree

end ScriptedRobot.Files
