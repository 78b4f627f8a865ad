/-! # Lookups

What is found in a list of named values. Of values with the same name the first one counts. -/

namespace ScriptedRobot.Text

section Decided

variable {κ α : Type} [DecidableEq κ]

theorem lookup_cons_eq_ite (entry : κ × α) (entries : List (κ × α)) (name : κ) :
    (entry :: entries).lookup name =
      if name = entry.1 then some entry.2 else entries.lookup name := by
  obtain ⟨key, value⟩ := entry
  by_cases same : name = key
  · simp only [same, List.lookup_cons_self, ↓reduceIte]
  · simp only [List.lookup_cons, beq_eq_false_iff_ne.mpr same, same, ↓reduceIte]

theorem lookup_filter_ne (key other : κ) (entries : List (κ × α)) :
    (entries.filter fun entry => entry.1 ≠ key).lookup other =
      if other = key then none else entries.lookup other := by
  induction entries with
  | nil => simp only [List.filter_nil, List.lookup_nil, ite_self]
  | cons entry rest ih =>
      rw [List.filter_cons]
      by_cases removed : entry.1 = key
      · simp only [removed, ne_eq, not_true_eq_false, decide_false, Bool.false_eq_true, ↓reduceIte,
          ih, lookup_cons_eq_ite]
        by_cases same : other = key
        · simp only [same, ↓reduceIte]
        · simp only [same, ↓reduceIte]
      · simp only [removed, ne_eq, not_false_eq_true, decide_true, ↓reduceIte,
          lookup_cons_eq_ite, ih]
        by_cases same : other = key
        · simp only [same, Ne.symm removed, ↓reduceIte]
        · simp only [same, ↓reduceIte]

theorem isSome_lookup_iff {entries : List (κ × α)} {name : κ} :
    (entries.lookup name).isSome = true ↔ name ∈ entries.map Prod.fst := by
  induction entries with
  | nil => simp only [List.lookup_nil, Option.isSome_none, Bool.false_eq_true, List.map_nil,
      List.not_mem_nil]
  | cons entry rest ih =>
      rw [lookup_cons_eq_ite, List.map_cons, List.mem_cons]
      by_cases same : name = entry.1
      · simp only [same, ↓reduceIte, Option.isSome_some, true_or]
      · simp only [same, ↓reduceIte, ih, false_or]

theorem lookup_eq_none_of_not_mem {entries : List (κ × α)} {name : κ}
    (absent : name ∉ entries.map Prod.fst) : entries.lookup name = none := by
  rw [← isSome_lookup_iff, Bool.not_eq_true, Option.isSome_eq_false_iff] at absent
  exact Option.isNone_iff_eq_none.mp absent

end Decided

variable {κ α : Type} [BEq κ] [LawfulBEq κ]

theorem lookup_eq_some_of_mem {entries : List (κ × α)} {name : κ} {value : α}
    (distinct : (entries.map Prod.fst).Nodup) (member : (name, value) ∈ entries) :
    entries.lookup name = some value := by
  induction entries with
  | nil => cases member
  | cons head rest ih =>
      rw [List.map_cons, List.nodup_cons] at distinct
      rcases List.mem_cons.mp member with rfl | later
      · exact List.lookup_cons_self
      · have different : name ≠ head.1 := fun same =>
          distinct.1 (same ▸ List.mem_map_of_mem later)
        rw [List.lookup_cons, beq_eq_false_iff_ne.mpr different]
        exact ih distinct.2 later

theorem mem_of_lookup_eq_some {entries : List (κ × α)} {name : κ} {value : α}
    (found : entries.lookup name = some value) : (name, value) ∈ entries := by
  obtain ⟨before, after, split, _⟩ := List.lookup_eq_some_iff.mp found
  rw [split]
  exact List.mem_append_right _ List.mem_cons_self

end ScriptedRobot.Text
