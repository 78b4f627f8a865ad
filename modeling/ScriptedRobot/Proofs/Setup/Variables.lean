import ScriptedRobot.Proofs.Setup.Ordered
import ScriptedRobot.Proofs.Toml.Tables
import ScriptedRobot.Setup.Variable

/-! # The layer of the environment

The settings that variables give are a layer in order: tables in values have every key once, and
the settings of several variables are laid over each other. -/

namespace ScriptedRobot.Setup.Variable

open Text (Alphabetical)

theorem isOrdered_plain (text : String) : (plain text).IsOrdered := by
  unfold plain
  split
  · trivial
  · split
    · trivial
    · rename_i value _ _
      cases fits : Toml.fitting? value with
      | none => trivial
      | some setting => exact Toml.isOrdered_of_fitting? fits
    · trivial

theorem alphabetical_of_readEntries {fuel : Nat} {read entries : Settings}
    {characters rest : List Char} (ordered : Alphabetical read)
    (done : readEntries fuel read characters = some (entries, rest)) : Alphabetical entries := by
  induction fuel generalizing read characters with
  | zero => cases done
  | succ fuel ih =>
      unfold readEntries at done
      split at done
      · cases done
      · obtain ⟨rfl, _⟩ := Prod.mk.inj (Option.some.inj done)
        exact ordered
      · rename_i same _
        obtain rfl := Nat.succ.inj same
        obtain ⟨⟨key, _⟩, _, done⟩ := Option.bind_eq_some_iff.mp done
        obtain ⟨_, _, done⟩ := Option.bind_eq_some_iff.mp done
        obtain ⟨⟨value, _⟩, _, done⟩ := Option.bind_eq_some_iff.mp done
        have inserted := ordered.insertSorted key value
        dsimp only at done
        split at done
        · exact ih inserted done
        · obtain ⟨rfl, _⟩ := Prod.mk.inj (Option.some.inj done)
          exact inserted
        · cases done

theorem isOrdered_of_readValue {fuel : Nat} {characters rest : List Char} {setting : Setting}
    (done : readValue fuel characters = some (setting, rest)) : setting.IsOrdered := by
  cases fuel with
  | zero => cases done
  | succ fuel =>
      unfold readValue at done
      dsimp only at done
      split at done
      all_goals obtain ⟨⟨value, _⟩, found, equal⟩ := Option.bind_eq_some_iff.mp done
      all_goals obtain ⟨rfl, _⟩ := Prod.mk.inj (Option.some.inj equal)
      all_goals dsimp only
      case h_3 =>
        obtain ⟨⟨entries, _⟩, read, equal⟩ := Option.map_eq_some_iff.mp found
        obtain ⟨rfl, _⟩ := Prod.mk.inj equal
        exact alphabetical_of_readEntries .nil read
      case h_4 | h_5 =>
        obtain ⟨⟨_, _⟩, _, equal⟩ := Option.map_eq_some_iff.mp found
        obtain ⟨rfl, _⟩ := Prod.mk.inj equal
        trivial
      case h_7 => nomatch found
      case h_8 =>
        obtain ⟨rfl, _⟩ := Prod.mk.inj (Option.some.inj found)
        exact isOrdered_plain _
      all_goals
        obtain ⟨rfl, _⟩ := Prod.mk.inj (Option.some.inj found)
        trivial

theorem isOrdered_settingOf (value : String) : (settingOf value).IsOrdered := by
  unfold settingOf
  dsimp only
  split
  · rename_i read
    exact isOrdered_of_readValue read
  · trivial

theorem isOrdered_nested {setting : Setting} (inner : setting.IsOrdered) (path : List String) :
    (nested setting path).IsOrdered := by
  cases path with
  | nil => exact inner
  | cons key rest => exact List.pairwise_singleton _ _

theorem splitOnAux_ne_nil (text separator : String) (start here matched : String.Pos.Raw)
    (pieces : List String) : text.splitOnAux separator start here matched pieces ≠ [] := by
  fun_induction String.splitOnAux text separator start here matched pieces with
  | case1 => exact List.reverse_ne_nil_iff.mpr (List.cons_ne_nil _ _)
  | case2 _ _ _ _ _ _ _ _ _ ih => exact ih
  | case3 _ _ _ _ _ _ _ _ _ ih => exact ih
  | case4 _ _ _ _ _ _ ih => exact ih

/-- The path of a variable has at least one key. -/
theorem ne_nil_of_path? {name : String} {path : List String} (read : path? name = some path) :
    path ≠ [] := by
  unfold path? at read
  dsimp only at read
  split at read
  · split at read
    · cases read
    · obtain rfl := Option.some.inj read
      exact splitOnAux_ne_nil _ _ _ _ _ _
  · cases read

/-- The environment gives a layer in order. -/
theorem ordered_settings (environment : List Variable) : Ordered (settings environment) := by
  unfold settings
  dsimp only
  generalize environment.mergeSort _ = sorted
  have start : Ordered [] := .nil
  revert start
  generalize ([] : Settings) = layer
  intro start
  induction sorted generalizing layer with
  | nil => exact start
  | cons entry rest ih =>
      refine ih _ ?_
      dsimp only
      split
      case h_1 path isPath =>
        obtain ⟨key, rest, rfl⟩ := List.exists_cons_of_ne_nil (ne_nil_of_path? isPath)
        have inner := isOrdered_nested (isOrdered_settingOf entry.value) rest
        exact start.overEntries (List.forall_mem_singleton.mpr inner)
      case h_2 => exact start

end ScriptedRobot.Setup.Variable
