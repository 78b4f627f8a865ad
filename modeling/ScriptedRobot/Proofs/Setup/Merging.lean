import Mathlib.Data.List.TakeWhile
import ScriptedRobot.Proofs.Setup.Ordered
import ScriptedRobot.Setup.Layers

/-! # Merged layers

Layers are merged from the lowest to the highest. What becomes of one section is told from the
highest layer down (`lookup_merge`): tables are laid over each other, and anything else hides what
lies below. So of the forms that layers give a section, only those count that nothing else lies
over (`counting`), and of these the highest that sets a key decides about it
(`constant?_stack`). -/

namespace ScriptedRobot.Setup

open Text (Alphabetical)

/-- What keys are set to: a text or a whole number. -/
inductive Constant where
  | text (value : String)
  | whole (value : Int)
  deriving DecidableEq, Repr

namespace Setting

/-- The constant that a setting stands for. -/
def constant? : Setting → Option Constant
  | .text value => some (.text value)
  | .unsigned value => some (.whole value)
  | .signed value => some (.whole value)
  | _ => none

/-- Whether a setting is a table. -/
def isTable : Setting → Bool
  | .table _ => true
  | _ => false

/-- Whether a setting can stand for a section. -/
def isSection : Setting → Bool
  | .table _ | .list _ => true
  | _ => false

/-- The entries of a section whose keys have these names. A list gives the keys in their order. -/
def entries? (names : List String) : Setting → Option Settings
  | .table entries => some entries
  | .list values => some (names.zip values)
  | _ => none

/-- What a section sets a key to. -/
def at? (names : List String) (name : String) (setting : Setting) : Option Setting :=
  (setting.entries? names).bind (·.lookup name)

theorem at?_table (names : List String) (name : String) (entries : Settings) :
    at? names name (.table entries) = entries.lookup name :=
  rfl

variable {older newer : Setting}

theorem over_eq_of_not_isTable (plain : newer.isTable = false) : older.over newer = newer := by
  cases newer with
  | table _ => cases plain
  | _ => rfl

theorem over_table_of_not_isTable (plain : older.isTable = false) (entries : Settings) :
    older.over (.table entries) = .table entries := by
  cases older with
  | table _ => cases plain
  | _ => rfl

theorem isSection_over : (older.over newer).isSection = newer.isSection := by
  cases newer with
  | table _ => cases older <;> rfl
  | _ => rfl

/-- As a constant, the newer setting replaces the older one. -/
theorem constant?_over : (older.over newer).constant? = newer.constant? := by
  cases newer with
  | table _ => cases older <;> rfl
  | _ => rfl

end Setting

/-- A setting over what there was before. -/
def laid (older? : Option Setting) (newer : Setting) : Setting :=
  older?.elim newer (·.over newer)

theorem isSection_laid (older? : Option Setting) (newer : Setting) :
    (laid older? newer).isSection = newer.isSection := by
  cases older? with
  | none => rfl
  | some older => exact Setting.isSection_over

theorem constant?_laid (older? : Option Setting) (newer : Setting) :
    (laid older? newer).constant? = newer.constant? := by
  cases older? with
  | none => rfl
  | some older => exact Setting.constant?_over

theorem lookup_overEntries {newer : Settings} (ordered : Alphabetical newer) (older : Settings)
    (name : String) : (overEntries older newer).lookup name =
      match newer.lookup name with
      | some setting => some (laid (older.lookup name) setting)
      | none => older.lookup name := by
  induction newer generalizing older with
  | nil => rfl
  | cons entry rest ih =>
      obtain ⟨key, setting⟩ := entry
      have nodup := ordered.nodup
      rw [List.map_cons, List.nodup_cons] at nodup
      rw [overEntries, ih (List.pairwise_cons.mp ordered).2, Text.lookup_insertSorted,
        Text.lookup_cons_eq_ite]
      by_cases same : name = key
      · subst same
        rw [Text.lookup_eq_none_of_not_mem nodup.1]
        simp only [↓reduceIte, laid]
        cases older.lookup name <;> rfl
      · simp only [same, ↓reduceIte]

/-- The forms of a section, the highest first, laid over each other. -/
def stack : List Setting → Option Setting
  | [] => none
  | highest :: lower => some (laid (stack lower) highest)

/-- The forms that layers give a section. -/
def forms (part : String) (layers : List Settings) : List Setting :=
  layers.filterMap (·.lookup part)

theorem merge_reverse_cons (highest : Settings) (lower : List Settings) :
    merge (highest :: lower).reverse = overEntries (merge lower.reverse) highest := by
  unfold merge
  rw [List.reverse_cons, List.foldl_append, List.foldl_cons, List.foldl_nil]

/-- Layers are merged section by section. -/
theorem lookup_merge {layers : List Settings} (ordered : ∀ layer ∈ layers, Ordered layer)
    (part : String) : (merge layers.reverse).lookup part = stack (forms part layers) := by
  induction layers with
  | nil => rfl
  | cons highest lower ih =>
      have below := ih fun layer member => ordered layer (List.mem_cons_of_mem _ member)
      rw [merge_reverse_cons, lookup_overEntries (ordered highest List.mem_cons_self).sections,
        below]
      unfold forms
      rw [List.filterMap_cons]
      cases highest.lookup part <;> rfl

theorem ordered_merge {layers : List Settings} (ordered : ∀ layer ∈ layers, Ordered layer) :
    Ordered (merge layers.reverse) := by
  induction layers with
  | nil => exact .nil
  | cons highest lower ih =>
      rw [merge_reverse_cons]
      exact (ih fun layer member => ordered layer (List.mem_cons_of_mem _ member)).overEntries
        (ordered highest List.mem_cons_self).keys

/-- The forms of a section that count, of those that are given, the highest first. Below a table
the tables count up to the first form that is none. -/
def counting : List Setting → List Setting
  | .table entries :: lower => .table entries :: lower.takeWhile Setting.isTable
  | highest :: _ => [highest]
  | [] => []

theorem stack_of_not_isTable {highest : Setting} (plain : highest.isTable = false)
    (lower : List Setting) : stack (highest :: lower) = some highest := by
  rw [stack, laid]
  cases stack lower with
  | none => rfl
  | some _ => exact congrArg some (Setting.over_eq_of_not_isTable plain)

theorem counting_of_not_isTable {highest : Setting} (plain : highest.isTable = false)
    (lower : List Setting) : counting (highest :: lower) = [highest] := by
  cases highest with
  | table _ => cases plain
  | _ => rfl

/-- Tables on top of a stack make one table, in which the highest setting of a key decides. -/
theorem exists_stack_table (names : List String) {entries : Settings} {lower : List Setting}
    (ordered : ∀ form ∈ Setting.table entries :: lower, form.IsOrdered) :
    ∃ merged, stack (.table entries :: lower) = some (.table merged) ∧ ∀ name,
      (merged.lookup name).map Setting.constant? =
        ((counting (.table entries :: lower)).findSome? (Setting.at? names name)).map
          Setting.constant? := by
  have alone (entries : Settings) (name : String) : entries.lookup name =
      [Setting.table entries].findSome? (Setting.at? names name) := by
    rw [List.findSome?_singleton, Setting.at?_table]
  induction lower generalizing entries with
  | nil => exact ⟨entries, rfl, fun name => congrArg _ (alone entries name)⟩
  | cons form rest ih =>
      have inOrder : Alphabetical entries := ordered _ List.mem_cons_self
      cases isTable : form.isTable with
      | false =>
          refine ⟨entries, ?_, fun name => ?_⟩
          · rw [stack, stack_of_not_isTable isTable, laid, Option.elim_some,
              Setting.over_table_of_not_isTable isTable]
          · rw [counting, List.takeWhile_cons_of_neg (isTable ▸ Bool.false_ne_true), ← alone]
      | true =>
          cases form with
          | table olderEntries =>
              obtain ⟨older, stacked, decides⟩ := ih fun setting member =>
                ordered setting (List.mem_cons_of_mem _ member)
              refine ⟨overEntries older entries, ?_, fun name => ?_⟩
              · rw [stack, stacked]
                rfl
              · rw [counting] at decides
                rw [counting, List.takeWhile_cons_of_pos rfl, List.findSome?_cons,
                  lookup_overEntries inOrder, Setting.at?_table]
                cases entries.lookup name with
                | none => exact decides name
                | some setting => exact congrArg some (constant?_laid _ setting)
          | _ => cases isTable

/-- Of the forms that count, the highest that sets a key decides about it. -/
theorem constant?_stack (names : List String) {given : List Setting}
    (ordered : ∀ form ∈ given, form.IsOrdered) (name : String) :
    ((stack given).bind (Setting.at? names name)).map Setting.constant? =
      ((counting given).findSome? (Setting.at? names name)).map Setting.constant? := by
  cases given with
  | nil => rfl
  | cons highest lower =>
      cases isTable : highest.isTable with
      | false =>
          rw [stack_of_not_isTable isTable, counting_of_not_isTable isTable,
            List.findSome?_singleton, Option.bind_some]
      | true =>
          cases highest with
          | table entries =>
              obtain ⟨merged, stacked, decides⟩ := exists_stack_table names ordered
              rw [stacked]
              exact decides name
          | _ => cases isTable

/-- A stack stands for a section if its top does. -/
theorem isSection_stack_iff {given : List Setting} :
    (∀ form ∈ stack given, form.isSection = true) ↔
      ∀ form ∈ given.head?, form.isSection = true := by
  cases given with
  | nil => exact Iff.rfl
  | cons highest lower =>
      rw [stack, List.head?_cons]
      simp only [Option.mem_some_iff, forall_eq', isSection_laid]

/-- As long as a section is given by tables, all of them count. -/
theorem counting_of_tables {given : List Setting} (tables : ∀ form ∈ given, form.isTable = true) :
    counting given = given := by
  cases given with
  | nil => rfl
  | cons highest lower =>
      cases highest with
      | table _ =>
          exact congrArg (_ :: ·) (List.takeWhile_eq_self_iff.mpr fun form member =>
            tables form (List.mem_cons_of_mem _ member))
      | _ => cases tables _ List.mem_cons_self

/-- A list hides the table below it from the table above it. -/
example (upper lower : Settings) (values : List Setting) :
    counting [.table upper, .list values, .table lower] = [.table upper] :=
  rfl

theorem findSome?_forms (part : String) (layers : List Settings) (names : List String)
    (name : String) : (forms part layers).findSome? (Setting.at? names name) =
      layers.findSome? fun layer => (layer.lookup part).bind (Setting.at? names name) := by
  induction layers with
  | nil => rfl
  | cons highest lower ih =>
      unfold forms at ih ⊢
      rw [List.filterMap_cons, List.findSome?_cons, ← ih]
      cases highest.lookup part <;> rfl

end ScriptedRobot.Setup
