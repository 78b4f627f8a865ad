import ScriptedRobot.Proofs.Text.Alphabetical
import ScriptedRobot.Setup.Setting

/-! # Layers in order

The tables of a layer have every name once: its sections, and the keys of each of them, stand in
alphabetical order. Otherwise it would matter which of two settings with one name is looked at, and
a lookup and a reading of all entries would not come to the same. -/

namespace ScriptedRobot.Setup

open Text (Alphabetical)

/-- If a setting is a table, its keys are in order. -/
def Setting.IsOrdered : Setting → Prop
  | .table entries => Alphabetical entries
  | _ => True

/-- A layer whose sections are in order, and the keys of each section too. -/
structure Ordered (layer : Settings) : Prop where
  sections : Alphabetical layer
  keys : ∀ entry ∈ layer, entry.2.IsOrdered

namespace Ordered

variable {layer older : Settings}

theorem nil : Ordered [] :=
  ⟨.nil, nofun⟩

theorem of_lookup (ordered : Ordered layer) {name : String} {setting : Setting}
    (found : layer.lookup name = some setting) : setting.IsOrdered :=
  ordered.keys _ (Text.mem_of_lookup_eq_some found)

theorem insertSorted (ordered : Ordered layer) (name : String) {setting : Setting}
    (inner : setting.IsOrdered) : Ordered (Text.insertSorted name setting layer) where
  sections := ordered.sections.insertSorted name setting
  keys entry member := by
    rcases Text.mem_insertSorted member with rfl | kept
    · exact inner
    · exact ordered.keys entry kept

end Ordered

/-- Newer entries over ordered ones are inserted one after the other. -/
theorem alphabetical_overEntries {older : Settings} (ordered : Alphabetical older)
    (newer : Settings) : Alphabetical (overEntries older newer) := by
  induction newer generalizing older with
  | nil => exact ordered
  | cons entry rest ih =>
      obtain ⟨name, setting⟩ := entry
      rw [overEntries]
      exact ih (ordered.insertSorted name _)

theorem Setting.IsOrdered.over {older newer : Setting} (below : older.IsOrdered)
    (above : newer.IsOrdered) : (older.over newer).IsOrdered := by
  cases newer with
  | table entries =>
      cases older with
      | table olderEntries => exact alphabetical_overEntries below entries
      | _ => exact above
  | _ => exact above

theorem Ordered.overEntries {older newer : Settings} (below : Ordered older)
    (above : ∀ entry ∈ newer, entry.2.IsOrdered) : Ordered (overEntries older newer) := by
  induction newer generalizing older with
  | nil => exact below
  | cons entry rest ih =>
      obtain ⟨name, setting⟩ := entry
      have inner : setting.IsOrdered := above (name, setting) List.mem_cons_self
      rw [Setup.overEntries]
      refine ih (below.insertSorted name ?_) fun later member =>
        above later (List.mem_cons_of_mem _ member)
      split
      case h_1 old found => exact (below.of_lookup found).over inner
      case h_2 => exact inner

end ScriptedRobot.Setup
