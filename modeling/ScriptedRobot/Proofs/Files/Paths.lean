import ScriptedRobot.Path

/-! # Paths and names

A name is a part of a path: it has no slash, and is none of those that stand for other places. A
path to a name in a directory takes the way to the directory first, whether or not the path of the
directory ends in a slash (`exists_parts_join`). -/

namespace ScriptedRobot.Path

/-- What a file or a directory may be called in the directory that it is in. -/
structure IsName (name : String) : Prop where
  nonempty : name ≠ ""
  whole : '/' ∉ name.toList
  ne_here : name ≠ "."
  ne_up : name ≠ ".."

variable {directory name path : String}

theorem isAbsolute_iff : isAbsolute path = true ↔ ∃ rest, path.toList = '/' :: rest := by
  unfold isAbsolute
  rw [String.startsWith_string_iff]
  constructor
  · rintro ⟨rest, same⟩
    exact ⟨rest, same.symm⟩
  · rintro ⟨rest, same⟩
    exact ⟨rest, same.symm⟩

theorem isAbsolute_of_whole (whole : '/' ∉ name.toList) : isAbsolute name = false := by
  rw [Bool.eq_false_iff]
  intro absolute
  obtain ⟨rest, same⟩ := isAbsolute_iff.mp absolute
  rw [same] at whole
  exact whole List.mem_cons_self

theorem isAbsolute_append (nonempty : directory ≠ "") (rest : String) :
    isAbsolute (directory ++ rest) = isAbsolute directory := by
  rw [Bool.eq_iff_iff, isAbsolute_iff, isAbsolute_iff, String.toList_append]
  cases letters : directory.toList with
  | nil => exact (nonempty (String.toList_eq_nil_iff.mp letters)).elim
  | cons letter letters => simp

theorem isEmpty_eq_false (nonempty : path ≠ "") : path.isEmpty = false := by
  rw [Bool.eq_false_iff, Ne, String.isEmpty_iff]
  exact nonempty

theorem endsWith_slash_iff : path.endsWith "/" = true ↔ path.toList.getLast? = some '/' := by
  rw [← String.endsWith_toSlice, String.Slice.endsWith_string_iff, String.copy_toSlice,
    List.getLast?_eq_some_iff]
  constructor
  · rintro ⟨base, same⟩
    exact ⟨base, same.symm⟩
  · rintro ⟨base, same⟩
    exact ⟨base, same.symm⟩

theorem endsWith_slash_append (front : String) (nonempty : path ≠ "") :
    (front ++ path).endsWith "/" = path.endsWith "/" := by
  rw [Bool.eq_iff_iff, endsWith_slash_iff, endsWith_slash_iff, String.toList_append,
    List.getLast?_append]
  cases last : path.toList.getLast? with
  | none =>
      exact (nonempty (String.toList_eq_nil_iff.mp (List.getLast?_eq_none_iff.mp last))).elim
  | some _ => rfl

/-! ## Joining -/

section Joining

variable (relative : isAbsolute name = false)
include relative

theorem join_of_nonempty (nonempty : directory ≠ "") : join directory name =
    if directory.endsWith "/" then directory ++ name else directory ++ "/" ++ name := by
  unfold join
  rw [relative, isEmpty_eq_false nonempty, Bool.or_self, if_neg Bool.false_ne_true]

/-- A name is put behind a slash, which the path of the directory may end in or not. -/
theorem exists_join (nonempty : directory ≠ "") : ∃ base, join directory name = base ++ "/" ++ name ∧
    (directory = base ∨ directory = base ++ "/") := by
  rw [join_of_nonempty relative nonempty]
  split
  case isTrue ends =>
    obtain ⟨base, same⟩ := List.getLast?_eq_some_iff.mp (endsWith_slash_iff.mp ends)
    have split : directory = String.ofList base ++ "/" := by
      rw [← String.toList_inj, same]
      simp
    exact ⟨String.ofList base, by rw [split], .inr split⟩
  case isFalse => exact ⟨directory, rfl, .inl rfl⟩

theorem join_append_slash (directory : String) :
    join (directory ++ "/") name = directory ++ "/" ++ name := by
  have longer : directory ++ "/" ≠ "" := by
    rw [Ne, ← String.toList_eq_nil_iff, String.toList_append]
    simp
  have ends : (directory ++ "/").endsWith "/" = true := by
    rw [endsWith_slash_iff, String.toList_append]
    simp
  rw [join_of_nonempty relative longer, if_pos ends]

theorem isAbsolute_join (nonempty : directory ≠ "") :
    isAbsolute (join directory name) = isAbsolute directory := by
  rw [join_of_nonempty relative nonempty]
  split
  · exact isAbsolute_append nonempty name
  · rw [String.append_assoc]
    exact isAbsolute_append nonempty _

theorem join_append (front : String) (nonempty : directory ≠ "") :
    join (front ++ directory) name = front ++ join directory name := by
  have longer : front ++ directory ≠ "" := by
    rw [Ne, ← String.toList_eq_nil_iff, String.toList_append, List.append_eq_nil_iff,
      String.toList_eq_nil_iff, String.toList_eq_nil_iff]
    exact fun empty => nonempty empty.2
  rw [join_of_nonempty relative longer, join_of_nonempty relative nonempty,
    endsWith_slash_append front nonempty]
  split <;> simp only [String.append_assoc]

end Joining

/-- What relative paths are put behind, to be seen from a directory. -/
theorem exists_front (directory : String) :
    ∃ front, ∀ path, isAbsolute path = false → join directory path = front ++ path := by
  by_cases nonempty : directory = ""
  · subst nonempty
    refine ⟨"", fun path _ => ?_⟩
    unfold join
    rw [if_pos (by simp), String.empty_append]
  · refine ⟨if directory.endsWith "/" then directory else directory ++ "/", fun path relative => ?_⟩
    rw [join_of_nonempty relative nonempty]
    split <;> rfl

/-! ## Parts -/

theorem parts_ne_nil (path : String) : parts path ≠ [] := by
  unfold parts
  rw [Ne, List.map_eq_nil_iff]
  exact List.splitOn_ne_nil _ _

/-- What has no slash has no parts but itself. -/
theorem parts_of_whole (whole : '/' ∉ name.toList) : parts name = [name] := by
  unfold parts
  rw [List.splitOn_eq_singleton whole]
  simp

theorem parts_append_slash (front back : String) :
    parts (front ++ "/" ++ back) = parts front ++ parts back := by
  unfold parts
  rw [String.toList_append, String.toList_append, List.append_assoc]
  change List.map _ (List.splitOn '/' (front.toList ++ '/' :: back.toList)) = _
  rw [List.splitOn_append_cons_self, List.map_append]

theorem parts_concat_slash (front : String) : parts (front ++ "/") = parts front ++ [""] := by
  rw [← String.append_empty (s := front ++ "/"), parts_append_slash]
  rfl

/-- The first part of a path is the path, or is followed by a slash. -/
theorem head?_parts_iff {word : String} (whole : '/' ∉ word.toList) :
    (parts path).head? = some word ↔ path = word ∨ (word ++ "/").toList <+: path.toList := by
  constructor
  · intro first
    by_cases slashed : '/' ∈ path.toList
    · obtain ⟨front, back, same, absent⟩ := List.eq_append_cons_of_mem slashed
      have split : path = String.ofList front ++ "/" ++ String.ofList back := by
        rw [← String.toList_inj, same]
        simp
      rw [split, parts_append_slash, parts_of_whole (by simpa using absent)] at first
      rw [split, ← Option.some.inj first]
      exact .inr (by simp)
    · rw [parts_of_whole slashed] at first
      exact .inl (Option.some.inj first)
  · rintro (rfl | ⟨back, same⟩)
    · rw [parts_of_whole whole]
      rfl
    · have split : path = word ++ "/" ++ String.ofList back := by
        rw [← String.toList_inj, ← same]
        simp
      rw [split, parts_append_slash, parts_of_whole whole]
      rfl

/-- A path to a name goes by the parts of the path to the directory, except that a slash at its end
does not count. -/
theorem exists_parts_join (nonempty : directory ≠ "") (whole : '/' ∉ name.toList) :
    ∃ way, way ≠ [] ∧ parts (join directory name) = way ++ [name] ∧
      (parts directory = way ∨ parts directory = way ++ [""]) := by
  obtain ⟨base, joined, same⟩ := exists_join (isAbsolute_of_whole whole) nonempty
  refine ⟨parts base, parts_ne_nil base, ?_, same.imp (congrArg parts) fun slashed => ?_⟩
  · rw [joined, parts_append_slash, parts_of_whole whole]
  · rw [slashed, parts_concat_slash]

/-- What a list is taken apart at is in none of its pieces. -/
theorem not_mem_of_mem_splitOn (letter : Char) (letters : List Char) :
    ∀ piece ∈ letters.splitOn letter, letter ∉ piece := by
  induction letters with
  | nil => simp
  | cons first rest ih =>
      rw [List.splitOn_cons_eq_if_modifyHead]
      split
      case isTrue => simpa using ih
      case isFalse different =>
        cases split : rest.splitOn letter with
        | nil => nofun
        | cons piece others =>
            rw [split, List.forall_mem_cons] at ih
            rw [List.modifyHead_cons, List.forall_mem_cons]
            refine ⟨?_, ih.2⟩
            rw [List.mem_cons, not_or]
            exact ⟨fun same => different (beq_iff_eq.mpr same.symm), ih.1⟩

/-- No part has a slash. -/
theorem whole_of_mem_parts (member : name ∈ parts path) : '/' ∉ name.toList := by
  obtain ⟨piece, split, rfl⟩ := List.mem_map.mp member
  rw [String.toList_ofList]
  exact not_mem_of_mem_splitOn '/' path.toList piece split

/-- The steps of a path without ways up are names. -/
theorem isName_of_mem_steps (onward : ".." ∉ steps path) (member : name ∈ steps path) :
    IsName name := by
  have kept := member
  unfold steps at kept
  rw [List.mem_filter, decide_eq_true_eq] at kept
  exact ⟨kept.2.1, whole_of_mem_parts kept.1, kept.2.2, fun up => onward (up ▸ member)⟩

theorem stepCount_of_whole (whole : '/' ∉ name.toList) : stepCount name ≤ 1 := by
  unfold stepCount
  rw [parts_of_whole whole]
  exact List.length_filter_le _ _

/-! ## Extensions -/

theorem exists_last_point (pointed : '.' ∈ name.toList) :
    ∃ stem extension, name = stem ++ "." ++ extension ∧ '.' ∉ extension.toList := by
  obtain ⟨extension, stem, same, absent⟩ :=
    List.eq_append_cons_of_mem (List.mem_reverse.mpr pointed)
  refine ⟨String.ofList stem.reverse, String.ofList extension.reverse, ?_, by simpa using absent⟩
  rw [← String.toList_inj, ← List.reverse_reverse name.toList, same]
  simp

theorem extension?_of_pointless (pointless : '.' ∉ name.toList) : extension? name = none := by
  unfold extension?
  rw [List.splitOn_eq_singleton pointless]
  rfl

theorem extension?_append_point {stem extension : String}
    (pointless : '.' ∉ extension.toList) :
    extension? (stem ++ "." ++ extension) = if stem = "" then none else some extension := by
  have split : (stem ++ "." ++ extension).toList.splitOn '.' =
      stem.toList.splitOn '.' ++ [extension.toList] := by
    rw [String.toList_append, String.toList_append, List.append_assoc]
    change (stem.toList ++ '.' :: extension.toList).splitOn '.' = _
    rw [List.splitOn_append_cons_self, List.splitOn_eq_singleton pointless]
  have joined : ['.'].intercalate (stem.toList.splitOn '.') = stem.toList :=
    List.intercalate_splitOn '.'
  unfold extension?
  rw [split, List.reverse_append]
  cases parts : (stem.toList.splitOn '.').reverse with
  | nil => exact (List.splitOn_ne_nil _ _ (List.reverse_eq_nil_iff.mp parts)).elim
  | cons before others =>
      have nothing : (others.isEmpty && before.isEmpty) = true ↔ stem = "" := by
        rw [Bool.and_eq_true, List.isEmpty_iff, List.isEmpty_iff, ← String.toList_eq_nil_iff]
        constructor
        · rintro ⟨rfl, rfl⟩
          rw [List.reverse_eq_iff.mp parts] at joined
          exact joined.symm
        · intro absent
          rw [absent] at parts
          cases parts
          exact ⟨rfl, rfl⟩
      change (if (others.isEmpty && before.isEmpty) = true then none
        else some (String.ofList extension.toList)) = _
      simp only [nothing, String.ofList_toList]

/-- The extension of a name is what follows its last point, if something comes before that. -/
theorem extension?_eq_some_iff {extension : String} (pointless : '.' ∉ extension.toList) :
    extension? name = some extension ↔ ∃ stem, stem ≠ "" ∧ name = stem ++ "." ++ extension := by
  constructor
  · intro found
    by_cases pointed : '.' ∈ name.toList
    · obtain ⟨stem, last, rfl, absent⟩ := exists_last_point pointed
      rw [extension?_append_point absent] at found
      split at found
      case isTrue => cases found
      case isFalse present => exact ⟨stem, present, by rw [Option.some.inj found]⟩
    · rw [extension?_of_pointless pointed] at found
      cases found
  · rintro ⟨stem, present, rfl⟩
    rw [extension?_append_point pointless, if_neg present]

end ScriptedRobot.Path
