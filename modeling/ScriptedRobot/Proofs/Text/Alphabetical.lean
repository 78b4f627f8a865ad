import ScriptedRobot.Proofs.Text.Lookup
import ScriptedRobot.Text.Alphabetical

/-! # Insertion into alphabetical lists

What is inserted under a name is found under it, and what was found under other names still is. A
list that is alphabetical stays so. -/

namespace ScriptedRobot.Text

variable {α : Type}

theorem lookup_insertSorted (name other : String) (value : α) (entries : List (String × α)) :
    (insertSorted name value entries).lookup other =
      if other = name then some value else entries.lookup other := by
  induction entries with
  | nil => exact lookup_cons_eq_ite (name, value) [] other
  | cons entry rest ih =>
      unfold insertSorted
      split
      · exact lookup_cons_eq_ite (name, value) (entry :: rest) other
      · split
        case isTrue equal =>
          subst equal
          simp only [lookup_cons_eq_ite]
          split <;> rfl
        case isFalse different =>
          simp only [lookup_cons_eq_ite, ih]
          by_cases same : other = name
          · simp only [same, different, ↓reduceIte]
          · simp only [same, ↓reduceIte]

theorem mem_insertSorted {name : String} {value : α} {entries : List (String × α)}
    {entry : String × α} (member : entry ∈ insertSorted name value entries) :
    entry = (name, value) ∨ entry ∈ entries := by
  induction entries with
  | nil => exact .inl (List.mem_singleton.mp member)
  | cons head rest ih =>
      unfold insertSorted at member
      split at member
      · exact List.mem_cons.mp member
      · split at member
        · exact (List.mem_cons.mp member).imp_right (List.mem_cons_of_mem _)
        · rcases List.mem_cons.mp member with same | later
          · exact .inr (same ▸ List.mem_cons_self)
          · exact (ih later).imp_right (List.mem_cons_of_mem _)

/-- The names stand in alphabetical order, each of them once. -/
def Alphabetical (entries : List (String × α)) : Prop :=
  entries.Pairwise fun first second => first.1 < second.1

namespace Alphabetical

variable {entries : List (String × α)}

theorem insertSorted (ordered : Alphabetical entries) (name : String) (value : α) :
    Alphabetical (insertSorted name value entries) := by
  induction entries with
  | nil => exact List.pairwise_singleton _ _
  | cons head rest ih =>
      obtain ⟨below, ordered⟩ := List.pairwise_cons.mp ordered
      unfold Text.insertSorted
      split
      case isTrue first =>
        refine List.pairwise_cons.mpr
          ⟨fun entry member => ?_, List.pairwise_cons.mpr ⟨below, ordered⟩⟩
        rcases List.mem_cons.mp member with rfl | later
        · exact first
        · exact String.lt_trans first (below entry later)
      case isFalse notFirst =>
        split
        case isTrue same => exact List.pairwise_cons.mpr ⟨same ▸ below, ordered⟩
        case isFalse different =>
          refine List.pairwise_cons.mpr ⟨fun entry member => ?_, ih ordered⟩
          rcases mem_insertSorted member with rfl | later
          · exact Std.lt_of_le_of_ne (String.not_lt.mp notFirst) (Ne.symm different)
          · exact below entry later

/-- No name stands twice. -/
theorem nodup (ordered : Alphabetical entries) : (entries.map Prod.fst).Nodup := by
  refine List.pairwise_map.mpr (ordered.imp fun {first second} less same => ?_)
  rw [same] at less
  exact String.lt_irrefl _ less

end Alphabetical

end ScriptedRobot.Text
