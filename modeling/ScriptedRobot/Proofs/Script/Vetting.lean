import ScriptedRobot.Proofs.Script.Outcome
import ScriptedRobot.Proofs.Script.Tables

/-! # Failures among values

A script cannot make a failure of the host: it can only keep one that was raised, hand it on, and
raise it again. What carries values is vetted if all failures among them are allowed. What the
language computes from vetted values is vetted, and so are objects after vetted values were stored
in them. -/

namespace ScriptedRobot

namespace Script

/-! ## What is allowed -/

/-- The value is no failure of the host, or one that is allowed. -/
def Value.IsAllowed (allowed : Failure → Prop) : Value → Prop
  | .failure cause => allowed cause
  | _ => True

/-- Types whose elements may carry values: all failures among these are allowed. -/
class Vettable (α : Type) where
  IsVetted : (Failure → Prop) → α → Prop
  isVetted_true : ∀ subject, IsVetted (fun _ => True) subject

open Vettable (IsVetted isVetted_true)

/-- What is not known to carry values carries none. -/
instance (priority := low) {α : Type} : Vettable α where
  IsVetted _ _ := True
  isVetted_true _ := trivial

instance : Vettable Value where
  IsVetted := Value.IsAllowed
  isVetted_true value := by cases value <;> trivial

instance : Vettable (List Value) where
  IsVetted allowed values := ∀ value ∈ values, IsVetted allowed value
  isVetted_true _ value _ := isVetted_true value

instance : Vettable Key where
  IsVetted allowed key := IsVetted allowed key.value
  isVetted_true key := isVetted_true key.value

instance : Vettable (List (Key × Value)) where
  IsVetted allowed entries := ∀ entry ∈ entries, IsVetted allowed entry.1 ∧ IsVetted allowed entry.2
  isVetted_true _ entry _ := ⟨isVetted_true entry.1, isVetted_true entry.2⟩

instance : Vettable Table where
  IsVetted allowed table := IsVetted allowed table.entries ∧
    IsVetted allowed table.readHandler ∧ IsVetted allowed table.writeHandler
  isVetted_true table := ⟨isVetted_true table.entries, isVetted_true table.readHandler,
    isVetted_true table.writeHandler⟩

instance : Vettable Flow where
  IsVetted allowed flow := IsVetted allowed flow.values
  isVetted_true flow := isVetted_true flow.values

instance : Vettable Store where
  IsVetted allowed store := (∀ id, IsVetted allowed (store.table id)) ∧
    ∀ id, IsVetted allowed (store.cell id)
  isVetted_true store := ⟨fun id => isVetted_true (store.table id),
    fun id => isVetted_true (store.cell id)⟩

instance : Vettable (Option Value) where
  IsVetted allowed found := ∀ value ∈ found, IsVetted allowed value
  isVetted_true _ value _ := isVetted_true value

instance {α : Type} [Vettable α] : Vettable (Except Value α) where
  IsVetted allowed
    | .ok value => IsVetted allowed value
    | .error raised => IsVetted allowed raised
  isVetted_true outcome := by cases outcome <;> exact isVetted_true _

instance : Vettable Capability.Reply where
  IsVetted allowed
    | .returns values => IsVetted allowed values
    | .fails message => allowed (.cause message)
    | .delegates _ => True
  isVetted_true reply := by
    cases reply with
    | returns values => exact isVetted_true values
    | fails _ | delegates _ => trivial

end Script

/-- A function of the host that replies to vetted arguments in a vetted way. -/
def Capability.IsFaithful {σ : Type} (allowed : Script.Failure → Prop)
    (capability : Capability σ) : Prop :=
  ∀ arguments state, Script.Vettable.IsVetted allowed arguments →
    Script.Vettable.IsVetted allowed (capability.perform arguments state).1

/-- Only for such capabilities functions were ever handed out. -/
def Capability.Registry.Only {σ : Type} (admitted : Capability σ → Prop) (registry : Registry σ) :
    Prop :=
  ∀ (grant : Nat) (entry : Grant σ), registry.grants[grant]? = some entry →
    admitted entry.capability

namespace Script

open Vettable (IsVetted isVetted_true)

instance {σ : Type} : Vettable (Machine σ) where
  IsVetted allowed machine :=
    IsVetted allowed machine.store ∧ machine.registry.Only fun capability =>
      capability.IsFaithful allowed
  isVetted_true machine := ⟨isVetted_true machine.store, fun _ _ _ _ _ _ => isVetted_true _⟩

section Values

variable {allowed : Failure → Prop}

theorem isVetted_of_plain {value : Value} (plain : value.isNative = false) :
    IsVetted allowed value := by
  cases value with
  | failure cause => cases plain
  | _ => trivial

theorem isVetted_nil : IsVetted allowed ([] : List Value) := nofun

theorem isVetted_cons {value : Value} {rest : List Value} (first : IsVetted allowed value)
    (others : IsVetted allowed rest) : IsVetted allowed (value :: rest) := by
  intro other member
  rcases List.mem_cons.mp member with rfl | later
  · exact first
  · exact others other later

theorem isVetted_singleton {value : Value} (first : IsVetted allowed value) :
    IsVetted allowed [value] :=
  isVetted_cons first isVetted_nil

theorem isVetted_neutral (neutral : Neutral) : IsVetted allowed neutral.values := by
  cases neutral with
  | nothing => exact isVetted_nil
  | zero | no => exact isVetted_singleton trivial

theorem isVetted_empty : IsVetted allowed ({} : Table) :=
  ⟨nofun, trivial, trivial⟩

variable {values : List Value} (vetted : IsVetted allowed values)
include vetted

theorem isVetted_first : IsVetted allowed (Value.first values) := by
  cases values with
  | nil => trivial
  | cons value rest => exact vetted value List.mem_cons_self

theorem isVetted_tail : IsVetted allowed values.tail :=
  fun value member => vetted value (List.mem_of_mem_tail member)

theorem isVetted_drop (count : Nat) : IsVetted allowed (values.drop count) :=
  fun value member => vetted value (List.mem_of_mem_drop member)

end Values

/-! ## Values that are computed -/

theorem plain_literal (literal : Literal) : literal.value.isNative = false := by
  cases literal with
  | bytes value =>
      unfold Literal.value Value.ofBytes
      dsimp only
      split <;> rfl
  | _ => rfl

/-- Operators compute no failures, and raise none. -/
def IsPlain : Except Value Value → Prop
  | .ok value => value.isNative = false
  | .error raised => raised.isNative = false

namespace Arithmetic

theorem plain_calculate (name : String) {apply : Value → Value → Value}
    (plain : ∀ left right, (apply left right).isNative = false) (left right : Operand) :
    IsPlain (calculate name apply left right) := by
  unfold calculate
  split
  · exact plain _ _
  · split <;> exact rfl

theorem plain_applyNumeric (onIntegers : Int64 → Int64 → Int64) (onFloats : Float → Float → Float)
    (left right : Value) : (applyNumeric onIntegers onFloats left right).isNative = false := by
  unfold applyNumeric
  split <;> rfl

theorem plain_concatenate (left right : Operand) : IsPlain (concatenate left right) := by
  unfold concatenate
  dsimp only
  split
  · split
    · exact rfl
    · unfold Value.ofBytes
      split <;> exact rfl
  · exact rfl

theorem plain_order {left right raised : Value} (refused : order left right = .error raised) :
    raised.isNative = false := by
  unfold order at refused
  split at refused
  · cases refused
  · cases refused
  · cases refused
  · cases refused
  · split at refused
    · cases refused
    · cases refused
      unfold orderComplaint
      split <;> rfl

theorem plain_unary (operator : UnaryOperator) (operand : Operand) :
    IsPlain (operator.apply operand) := by
  cases operator with
  | not => exact rfl
  | negate => exact plain_calculate _ (fun _ _ => plain_applyNumeric _ _ _ _) _ _

theorem plain_binary (operator : BinaryOperator) (left right : Operand) :
    IsPlain (operator.apply left right) := by
  cases operator with
  | add | multiply => exact plain_calculate _ (plain_applyNumeric _ _) _ _
  | concatenate => exact plain_concatenate _ _
  | equal => exact rfl
  | less | lessEqual =>
      unfold BinaryOperator.apply
      dsimp only
      cases compared : order left.value right.value with
      | ok result => exact rfl
      | error raised => exact plain_order compared

end Arithmetic

/-! ## Objects -/

section Objects

variable {allowed : Failure → Prop}

theorem isVetted_ofValue? {value : Value} {key : Key} (vetted : IsVetted allowed value)
    (isKey : Key.ofValue? value = some key) : IsVetted allowed key := by
  cases value with
  | number value =>
      unfold Key.ofValue? at isKey
      dsimp only at isKey
      split at isKey
      · cases isKey
      · split at isKey <;> cases isKey <;> trivial
  | nil => cases isKey
  | boolean _ | integer _ | text _ | bytes _ | table _ | function _ => cases isKey; trivial
  | failure cause => cases isKey; exact vetted

namespace Table

theorem mem_put {key : Key} {value : Value} {entries : List (Key × Value)} {entry : Key × Value}
    (member : entry ∈ put key value entries) : entry = (key, value) ∨ entry ∈ entries := by
  induction entries with
  | nil => exact .inl (List.mem_singleton.mp member)
  | cons first rest ih =>
      unfold put at member
      split at member
      · rcases List.mem_cons.mp member with rfl | later
        · exact .inl rfl
        · exact .inr (List.mem_cons_of_mem _ later)
      · rcases List.mem_cons.mp member with rfl | later
        · exact .inr List.mem_cons_self
        · rcases ih later with new | old
          · exact .inl new
          · exact .inr (List.mem_cons_of_mem _ old)

variable {table : Table} (vetted : IsVetted allowed table)
include vetted

theorem isVetted_get (key : Key) : IsVetted allowed (table.get key) := by
  unfold get
  cases found : table.entries.lookup key with
  | none => trivial
  | some value =>
      obtain ⟨before, after, split, _⟩ := List.lookup_eq_some_iff.mp found
      have member : (key, value) ∈ table.entries :=
        split ▸ List.mem_append_right before List.mem_cons_self
      exact (vetted.1 (key, value) member).2

theorem isVetted_set {key : Key} {value : Value} (keyVetted : IsVetted allowed key)
    (valueVetted : IsVetted allowed value) : IsVetted allowed (table.set key value) := by
  unfold set
  split
  · exact ⟨fun entry member => vetted.1 entry ((List.mem_filter.mp member).1), vetted.2⟩
  · refine ⟨fun entry member => ?_, vetted.2⟩
    rcases mem_put member with rfl | old
    · exact ⟨keyVetted, valueVetted⟩
    · exact vetted.1 entry old

end Table

namespace Store

variable {store : Store} (vetted : IsVetted allowed store)
include vetted

theorem isVetted_modifyTable (id : Nat) {change : Table → Table}
    (kept : ∀ table, IsVetted allowed table → IsVetted allowed (change table)) :
    IsVetted allowed (store.modifyTable id change) := by
  refine ⟨fun other => ?_, vetted.2⟩
  rcases store.table_modifyTable id other change with same | changed
  · rw [same]
    exact vetted.1 other
  · rw [changed]
    exact kept _ (vetted.1 other)

theorem isVetted_newTable {table : Table} (tableVetted : IsVetted allowed table) :
    IsVetted allowed (store.newTable table).2 := by
  refine ⟨fun other => ?_, vetted.2⟩
  by_cases last : other = store.tables.size
  · rw [last, store.table_newTable_self]
    exact tableVetted
  · rw [store.table_newTable_of_ne last]
    exact vetted.1 other

theorem isVetted_newCell {value : Value} (valueVetted : IsVetted allowed value) :
    IsVetted allowed (store.newCell value).2 := by
  refine ⟨vetted.1, fun other => ?_⟩
  have old := vetted.2 other
  unfold newCell cell at *
  simp only [Array.getD_eq_getD_getElem?, Array.getElem?_push] at old ⊢
  split
  · exact valueVetted
  · exact old

theorem isVetted_setCell (id : Nat) {value : Value} (valueVetted : IsVetted allowed value) :
    IsVetted allowed (store.setCell id value) := by
  refine ⟨vetted.1, fun other => ?_⟩
  have old := vetted.2 other
  unfold setCell cell at *
  simp only [Array.getD_eq_getD_getElem?, Array.getElem?_setIfInBounds] at old ⊢
  split
  · split
    · exact valueVetted
    · trivial
  · exact old

end Store

end Objects

end Script

end ScriptedRobot
