import Mathlib.Data.List.Forall2
import Mathlib.Data.List.Nodup
import ScriptedRobot.Proofs.Setup.Merging
import ScriptedRobot.Setup.Misfit

/-! # Fields of a record

A record is read field by field, from entries with names or from a list. What comes of it is told
key by key (`storeEntries_eq_ok_iff`, `fitRecord_eq_ok_iff`): every key has what its setting says,
and those without a setting have what they had. This needs that the fields keep out of each other's
way (`Layout.Describes`). -/

namespace ScriptedRobot.Setup

variable {ρ κ ν : Type}

/-- The keys of a record in their order: what they are called, which settings fit them, and what a
record has for them. -/
structure Layout (ρ κ ν : Type) where
  keys : List κ
  name : κ → String
  Fits : κ → Setting → ν → Prop
  value : κ → ρ → ν

namespace Layout

variable (layout : Layout ρ κ ν)

/-- The names of the keys. -/
def names : List String :=
  layout.keys.map layout.name

/-- A field takes what fits its key, and leaves the other keys alone. -/
structure Holds (key : κ) (field : Field ρ) : Prop where
  name : field.key = layout.name key
  stored {record stored : ρ} {setting : Setting} : field.store record setting = .ok stored →
    layout.Fits key setting (layout.value key stored) ∧
      ∀ other ∈ layout.keys, other ≠ key → layout.value other stored = layout.value other record
  accepts {setting : Setting} {value : ν} : layout.Fits key setting value → ∀ record,
    ∃ stored, field.store record setting = .ok stored ∧ layout.value key stored = value

/-- A reader reads what fits a key. -/
structure Reads {α : Type} (key : κ) (fit : Fitting α) (represent : α → ν) : Prop where
  sound {setting : Setting} {read : α} : fit setting = .ok read →
    layout.Fits key setting (represent read)
  complete {setting : Setting} {value : ν} : layout.Fits key setting value →
    ∃ read, fit setting = .ok read ∧ represent read = value

/-- The fields are those of the keys, and there is nothing else in a record. -/
structure Describes (fields : List (Field ρ)) : Prop where
  holds : List.Forall₂ layout.Holds layout.keys fields
  distinct : layout.names.Nodup
  ext {first second : ρ} :
    (∀ key ∈ layout.keys, layout.value key first = layout.value key second) → first = second

/-- A record has for a key what its setting says, or without one what the record was before. -/
def Told (key : κ) (setting? : Option Setting) (before record : ρ) : Prop :=
  match setting? with
  | some setting => layout.Fits key setting (layout.value key record)
  | none => layout.value key record = layout.value key before

variable {layout} {key : κ} {fields : List (Field ρ)}

theorem told_congr {setting? : Option Setting} {before earlier record : ρ}
    (same : layout.value key before = layout.value key earlier) :
    layout.Told key setting? before record ↔ layout.Told key setting? earlier record := by
  cases setting? with
  | none => exact Eq.congr_right same
  | some _ => exact Iff.rfl

/-- What is said after a first entry was stored, if it is the only one of its key. -/
theorem told_stored (member : key ∈ layout.keys) {rest : Settings} {before next record : ρ}
    (once : rest.lookup (layout.name key) = none)
    (kept : ∀ other ∈ layout.keys, other ≠ key →
      layout.value other next = layout.value other before) :
    (∀ other ∈ layout.keys, layout.Told other (rest.lookup (layout.name other)) next record) ↔
      layout.value key record = layout.value key next ∧
        ∀ other ∈ layout.keys, other ≠ key →
          layout.Told other (rest.lookup (layout.name other)) before record := by
  constructor
  · refine fun told => ⟨?_, fun other otherMember differs => ?_⟩
    · have unchanged := told key member
      rwa [once] at unchanged
    · exact (told_congr (kept other otherMember differs)).mp (told other otherMember)
  · rintro ⟨unchanged, told⟩ other otherMember
    by_cases same : other = key
    · rw [same, once]
      exact unchanged
    · exact (told_congr (kept other otherMember same)).mpr (told other otherMember same)

/-- A field that puts what a reader reads where its key is. -/
theorem Reads.holds [DecidableEq κ] {α : Type} {fit : Fitting α} {represent : α → ν}
    (reads : layout.Reads key fit represent) {put : ρ → α → ρ}
    (updates : ∀ record read other, layout.value other (put record read) =
      if other = key then represent read else layout.value other record) :
    layout.Holds key
      ⟨layout.name key, fun record setting => do return put record (← fit setting)⟩ where
  name := rfl
  stored {record stored setting} done := by
    dsimp only at done
    cases isRead : fit setting with
    | error _ =>
        rw [isRead] at done
        cases done
    | ok read =>
        rw [isRead] at done
        cases done
        refine ⟨?_, fun other _ differs => (updates record read other).trans (if_neg differs)⟩
        rw [updates record read key, if_pos rfl]
        exact reads.sound isRead
  accepts {setting value} fits record := by
    obtain ⟨read, isRead, rfl⟩ := reads.complete fits
    refine ⟨put record read, ?_, (updates record read key).trans (if_pos rfl)⟩
    dsimp only
    rw [isRead]
    rfl

section Held

variable {keys : List κ} (held : List.Forall₂ layout.Holds keys fields)
include held

theorem map_key_eq : fields.map Field.key = keys.map layout.name := by
  induction held with
  | nil => rfl
  | cons holds _ ih => rw [List.map_cons, List.map_cons, holds.name, ih]

/-- A name is that of a key with its field, or no key has it. -/
theorem find?_fields (name : String) :
    (fields.find? (·.key == name) = none ∧ ∀ key ∈ keys, layout.name key ≠ name) ∨
      ∃ key ∈ keys, layout.name key = name ∧
        ∃ field, fields.find? (·.key == name) = some field ∧ layout.Holds key field := by
  induction held with
  | nil => exact .inl ⟨rfl, nofun⟩
  | @cons first field others rest holds _ ih =>
      rw [List.find?_cons]
      by_cases same : field.key = name
      · rw [beq_iff_eq.mpr same]
        exact .inr ⟨first, List.mem_cons_self, holds.name ▸ same, field, rfl, holds⟩
      · rw [beq_eq_false_iff_ne.mpr same]
        rcases ih with ⟨unknown, different⟩ | ⟨key, member, found⟩
        · exact .inl ⟨unknown, List.forall_mem_cons.mpr ⟨holds.name ▸ same, different⟩⟩
        · exact .inr ⟨key, List.mem_cons_of_mem _ member, found⟩

end Held

namespace Describes

variable (described : layout.Describes fields) (member : key ∈ layout.keys)
include described member

theorem lookup_cons_of_ne {other : κ} (otherMember : other ∈ layout.keys) (differs : other ≠ key)
    (setting : Setting) (rest : Settings) :
    ((layout.name key, setting) :: rest).lookup (layout.name other) =
      rest.lookup (layout.name other) := by
  rw [Text.lookup_cons_eq_ite, if_neg fun same => differs
    (List.inj_on_of_nodup_map described.distinct otherMember member same)]

/-- A first entry says what it says, and the others say what is left. -/
theorem told_cons {setting : Setting} {rest : Settings} {before record : ρ} :
    (∀ other ∈ layout.keys, layout.Told other
        (((layout.name key, setting) :: rest).lookup (layout.name other)) before record) ↔
      layout.Fits key setting (layout.value key record) ∧
        ∀ other ∈ layout.keys, other ≠ key →
          layout.Told other (rest.lookup (layout.name other)) before record := by
  constructor
  · refine fun told => ⟨?_, fun other otherMember differs => ?_⟩
    · have first := told key member
      rwa [List.lookup_cons_self] at first
    · rw [← described.lookup_cons_of_ne member otherMember differs setting]
      exact told other otherMember
  · rintro ⟨fits, told⟩ other otherMember
    by_cases same : other = key
    · rw [same, List.lookup_cons_self]
      exact fits
    · rw [described.lookup_cons_of_ne member otherMember same]
      exact told other otherMember same

end Describes

end Layout

variable {layout : Layout ρ κ ν} {fields : List (Field ρ)}

/-- What entries with different names make of a record. -/
theorem storeEntries_eq_ok_iff (described : layout.Describes fields) {entries : Settings}
    (distinct : (entries.map Prod.fst).Nodup) {record stored : ρ} :
    storeEntries fields record entries = .ok stored ↔
      ∀ key ∈ layout.keys, layout.Told key (entries.lookup (layout.name key)) record stored := by
  induction entries generalizing record with
  | nil =>
      constructor
      · intro done
        cases done
        exact fun _ _ => rfl
      · intro told
        exact congrArg Except.ok (described.ext told).symm
  | cons entry rest ih =>
      obtain ⟨name, setting⟩ := entry
      rw [List.map_cons, List.nodup_cons] at distinct
      rcases layout.find?_fields described.holds name with
        ⟨unknown, different⟩ | ⟨key, member, rfl, field, found, holds⟩
      · rw [storeEntries, unknown]
        dsimp only
        rw [ih distinct.2]
        refine forall₂_congr fun key member => ?_
        rw [Text.lookup_cons_eq_ite, if_neg (different key member)]
      · have once := Text.lookup_eq_none_of_not_mem distinct.1
        rw [storeEntries, found, described.told_cons member]
        dsimp only
        constructor
        · intro done
          cases isStored : field.store record setting with
          | error _ =>
              rw [isStored] at done
              cases done
          | ok next =>
              rw [isStored] at done
              obtain ⟨fits, kept⟩ := holds.stored isStored
              obtain ⟨unchanged, told⟩ :=
                (Layout.told_stored member once kept).mp ((ih distinct.2).mp done)
              exact ⟨unchanged ▸ fits, told⟩
        · rintro ⟨fits, told⟩
          obtain ⟨next, isStored, valued⟩ := holds.accepts fits record
          rw [isStored]
          exact (ih distinct.2).mpr ((Layout.told_stored member once
            (holds.stored isStored).2).mpr ⟨valued.symm, told⟩)

/-- A list gives the fields in their order, as entries with the names of the fields would. -/
theorem storeInOrder_eq_ok_iff {all : List (Field ρ)}
    (known : ∀ field ∈ fields, all.find? (·.key == field.key) = some field) {index : Nat}
    {record stored : ρ} {values : List Setting} :
    storeInOrder index fields record values = .ok stored ↔
      storeEntries all record ((fields.map Field.key).zip values) = .ok stored := by
  induction fields generalizing index record values with
  | nil => exact Iff.rfl
  | cons field rest ih =>
      cases values with
      | nil => exact Iff.rfl
      | cons setting others =>
          rw [storeInOrder, List.map_cons, List.zip_cons_cons, storeEntries,
            known field List.mem_cons_self]
          dsimp only
          cases field.store record setting with
          | error _ => exact ⟨nofun, nofun⟩
          | ok next => exact ih fun later member => known later (List.mem_cons_of_mem _ member)

theorem find?_of_mem (distinct : (fields.map Field.key).Nodup) {field : Field ρ}
    (member : field ∈ fields) : fields.find? (·.key == field.key) = some field := by
  induction fields with
  | nil => cases member
  | cons first rest ih =>
      rw [List.map_cons, List.nodup_cons] at distinct
      rw [List.find?_cons]
      rcases List.mem_cons.mp member with rfl | later
      · rw [beq_self_eq_true]
      · have differs : first.key ≠ field.key := fun same =>
          distinct.1 (same ▸ List.mem_map_of_mem later)
        rw [beq_eq_false_iff_ne.mpr differs]
        exact ih distinct.2 later

/-- Only names are given to a list, each of them once. -/
theorem map_fst_zip_sublist (names : List String) (values : List Setting) :
    ((names.zip values).map Prod.fst).Sublist names := by
  induction names generalizing values with
  | nil => exact .slnil
  | cons name rest ih =>
      cases values with
      | nil => exact List.nil_sublist _
      | cons _ others => exact (ih others).cons_cons name

/-- A section is a table or a list, and every key has what the section sets it to, or else what the
record had. -/
theorem fitRecord_eq_ok_iff (described : layout.Describes fields) (expected : Expectation)
    {setting : Setting} (ordered : setting.IsOrdered) {record stored : ρ} :
    fitRecord expected fields record setting = .ok stored ↔
      setting.isSection = true ∧ ∀ key ∈ layout.keys,
        layout.Told key (setting.at? layout.names (layout.name key)) record stored := by
  have names : fields.map Field.key = layout.names := layout.map_key_eq described.holds
  cases setting with
  | table entries =>
      exact (storeEntries_eq_ok_iff described (Text.Alphabetical.nodup ordered)).trans
        (and_iff_right rfl).symm
  | list values =>
      refine Iff.trans ?_ (and_iff_right rfl).symm
      rw [fitRecord, storeInOrder_eq_ok_iff fun field =>
        find?_of_mem (names ▸ described.distinct), names]
      exact storeEntries_eq_ok_iff described
        (described.distinct.sublist (map_fst_zip_sublist layout.names values))
  | _ => exact ⟨nofun, fun told => nomatch told.1⟩

end ScriptedRobot.Setup
