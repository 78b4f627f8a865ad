import Mathlib.Data.List.TakeWhile
import ScriptedRobot.Proofs.Configuration.Lookups
import ScriptedRobot.Proofs.Text.Order

/-! # Trajectories

The trajectories of the configuration are listed by the keys of a table. Going through them stops
for good at the first key that is no name, so that the names that come after it are lost: which ones
these are depends on the order of the entries (`trajectories_before_foreign_key`). Without such a
key all names are listed, whatever their order. -/

namespace ScriptedRobot.Configuration.Global

open Script (Key)

variable {σ : Type} {machine after : Script.Machine σ}

/-! ## Names of entries -/

/-- Whether the key of an entry is a name. -/
def isNamed (entry : Key × Script.Value) : Bool :=
  (nameOf? entry.1).isSome

/-- The names among the keys of entries. -/
def namesOf (entries : List (Key × Script.Value)) : List String :=
  entries.filterMap fun entry => nameOf? entry.1

theorem leadingNames_eq (entries : List (Key × Script.Value)) :
    leadingNames entries = namesOf (entries.takeWhile isNamed) := by
  induction entries with
  | nil => rfl
  | cons entry rest ih =>
      obtain ⟨key, value⟩ := entry
      unfold leadingNames
      cases named : nameOf? key with
      | none => simp [namesOf, isNamed, named]
      | some name => simp [namesOf, isNamed, named, ih]

theorem namesOf_split (entries : List (Key × Script.Value)) :
    namesOf entries =
      namesOf (entries.takeWhile isNamed) ++ namesOf (entries.dropWhile isNamed) := by
  rw [namesOf, namesOf, namesOf, ← List.filterMap_append, List.takeWhile_append_dropWhile]

theorem namesOf_perm {entries reordered : List (Key × Script.Value)}
    (perm : reordered.Perm entries) : (namesOf reordered).Perm (namesOf entries) :=
  perm.filterMap _

/-! ## Listing -/

/-- The entries that trajectories are listed from, and the machine after their table was looked
up. -/
inductive Lists (machine : Script.Machine σ) :
    List (Key × Script.Value) → Script.Machine σ → Prop where
  | absent {after : Script.Machine σ}
      (noTable : (category "trajectories").start machine = (.ok none, after)) :
      Lists machine [] after
  | table {id : Nat} {after : Script.Machine σ}
      (isTable : (category "trajectories").start machine = (.ok (some (.table id)), after)) :
      Lists machine (after.store.table id).entries after

theorem exists_lists (machine : Script.Machine σ) :
    ∃ entries after, Lists machine entries after := by
  obtain ⟨found, after, looked⟩ := yields_category "trajectories" machine
  obtain rfl | ⟨id, rfl⟩ := eq_table_of_category looked
  · exact ⟨[], after, .absent looked⟩
  · exact ⟨_, after, .table looked⟩

/-- Names in alphabetical order. -/
def sorted (names : List String) : List String :=
  names.mergeSort fun left right => decide (left ≤ right)

theorem pairwise_sorted (names : List String) : (sorted names).Pairwise (· ≤ ·) :=
  Text.pairwise_mergeSort names

theorem sorted_perm (names : List String) : (sorted names).Perm names :=
  List.mergeSort_perm names _

/-- Sorting forgets the order. -/
theorem sorted_eq_of_perm {names others : List String} (same : names.Perm others) :
    sorted names = sorted others := by
  have perm : (sorted names).Perm (sorted others) :=
    (sorted_perm names).trans (same.trans (sorted_perm others).symm)
  exact perm.eq_of_pairwise (fun _ _ _ _ => String.le_antisymm) (pairwise_sorted names)
    (pairwise_sorted others)

theorem Lists.start_trajectoryNames {entries : List (Key × Script.Value)}
    (lists : Lists machine entries after) :
    trajectoryNames.start machine =
      (.ok (sorted (namesOf (entries.takeWhile isNamed))), after) := by
  unfold trajectoryNames
  rw [Script.Run.start_bind]
  cases lists with
  | absent noTable =>
      rw [noTable]
      simp [namesOf, sorted]
      rfl
  | table isTable =>
      rw [isTable, ← leadingNames_eq]
      rfl

/-- The names that are listed from entries in the order in which they are gone through. -/
structure IsListing (entries : List (Key × Script.Value)) (names : List String) : Prop where
  ordered : names.Pairwise (· ≤ ·)
  /-- The names before the first key that is none are listed, each once. -/
  leading : names.Perm (namesOf (entries.takeWhile isNamed))
  /-- All names are listed unless one comes after a key that is none. -/
  complete : names.Perm (namesOf entries) ↔ namesOf (entries.dropWhile isNamed) = []

theorem isListing_sorted (entries : List (Key × Script.Value)) :
    IsListing entries (sorted (namesOf (entries.takeWhile isNamed))) where
  ordered := pairwise_sorted _
  leading := sorted_perm _
  complete := by
    rw [namesOf_split entries]
    constructor
    · intro all
      have lengths := ((sorted_perm _).symm.trans all).length_eq
      rw [List.length_append] at lengths
      exact List.eq_nil_of_length_eq_zero (by omega)
    · intro nothing
      rw [nothing, List.append_nil]
      exact sorted_perm _

/-- Listing the trajectories never fails. It answers the names that come before the first key that
is no name, and so all of them just if none comes after such a key. Where all keys are names, any
order of the entries gives the same answer. -/
theorem trajectories_before_foreign_key (machine : Script.Machine σ) :
    (∃ entries after, Lists machine entries after) ∧
    ∀ entries after, Lists machine entries after →
      ∃ names, trajectoryNames.start machine = (.ok names, after) ∧ IsListing entries names ∧
        ∀ (other : Script.Machine σ) reordered afterOther, Lists other reordered afterOther →
          reordered.Perm entries → (∀ entry ∈ entries, isNamed entry) →
          trajectoryNames.start other = (.ok names, afterOther) := by
  refine ⟨exists_lists machine, fun entries after lists =>
    ⟨_, lists.start_trajectoryNames, isListing_sorted entries, ?_⟩⟩
  intro other reordered afterOther listsOther perm named
  have namedOther : ∀ entry ∈ reordered, isNamed entry :=
    fun entry member => named entry (perm.mem_iff.mp member)
  rw [listsOther.start_trajectoryNames, List.takeWhile_eq_self_iff.mpr namedOther,
    List.takeWhile_eq_self_iff.mpr named, sorted_eq_of_perm (namesOf_perm perm)]

namespace ForeignKey

/-! A configuration with a truth value among the keys of its trajectories. -/

def trajectories : Script.Table where
  entries := [(.boolean false, .boolean true), (.text "straight", .table 5)]

def configuration : Script.Table := { entries := [(.text "trajectories", .table 4)] }

def store : Script.Store :=
  { tables := #[Script.Store.initialGlobals.set (.text globalName) (.table 3),
      Script.Store.initialPackage, {}, configuration, trajectories, {}] }

def configured : Script.Machine Unit := { store, native := () }

end ForeignKey

open ForeignKey in
theorem name_after_foreign_key_is_lost :
    Lists configured trajectories.entries configured ∧
      namesOf trajectories.entries = ["straight"] ∧
      (trajectoryNames.start configured).1.toOption = some [] ∧
      leadingNames trajectories.entries.reverse = ["straight"] :=
  ⟨@Lists.table Unit configured 4 configured rfl, rfl, by decide +kernel, rfl⟩

end ScriptedRobot.Configuration.Global
