import ScriptedRobot.Proofs.Setup.Ordered
import ScriptedRobot.Toml.Document

/-! # The tables of a document

Whatever a document says, and in which order, its tables have every key once and their keys are in
alphabetical order. Every change of the tree keeps this (`Keeps`), and inline tables are built by
the same changes. -/

namespace ScriptedRobot.Toml

open Setup (Setting Settings Ordered)
open Text (Alphabetical)

namespace Node

/-- Everywhere below the node, the keys of tables are in order. -/
inductive IsOrdered : Node → Prop where
  | value {setting : Setting} (ordered : setting.IsOrdered) : IsOrdered (.value setting)
  | table {implicit dotted : Bool} {entries : List (String × Node)}
      (keys : Alphabetical entries) (nodes : ∀ entry ∈ entries, IsOrdered entry.2) :
      IsOrdered (.table implicit dotted entries)
  | tables {elements : List Node} (nodes : ∀ element ∈ elements, IsOrdered element) :
      IsOrdered (.tables elements)

/-- Whether a node is a table. -/
def isTable : Node → Bool
  | .table _ _ _ => true
  | _ => false

/-- What comes of a change is a table again, and as ordered as the node was. -/
def Keeps (change : Node → Option Node) : Prop :=
  ∀ node changed, node.IsOrdered → change node = some changed →
    changed.IsOrdered ∧ changed.isTable = true

variable {implicit dotted : Bool} {entries : List (String × Node)}

theorem isOrdered_empty (implicit dotted : Bool) : (table implicit dotted []).IsOrdered :=
  .table .nil nofun

theorem isOrdered_insertSorted {key : String} {child : Node} (keys : Alphabetical entries)
    (nodes : ∀ entry ∈ entries, entry.2.IsOrdered) (inner : child.IsOrdered) :
    (table implicit dotted (Text.insertSorted key child entries)).IsOrdered := by
  refine .table (keys.insertSorted key child) fun entry member => ?_
  rcases Text.mem_insertSorted member with rfl | kept
  · exact inner
  · exact nodes entry kept

theorem isOrdered_of_lookup (nodes : ∀ entry ∈ entries, entry.2.IsOrdered) {key : String}
    {node : Node} (found : entries.lookup key = some node) : node.IsOrdered :=
  nodes _ (Text.mem_of_lookup_eq_some found)

/-- If what stands at the end of a path is changed in order, the whole tree is. -/
theorem keeps_descend (isDotted : Bool) {change : Node → Option Node} (kept : Keeps change)
    (path : List String) : Keeps (descend isDotted change path) := by
  induction path with
  | nil => exact kept
  | cons key rest ih =>
      intro node changed ordered done
      cases ordered with
      | value _ => cases done
      | tables _ => cases done
      | @table _ _ entries keys nodes =>
          have prior : ((entries.lookup key).getD (.table true isDotted [])).IsOrdered := by
            cases found : entries.lookup key with
            | none => exact isOrdered_empty true isDotted
            | some node => exact isOrdered_of_lookup nodes found
          rw [descend] at done
          revert done prior
          generalize (entries.lookup key).getD (.table true isDotted []) = former
          intro done prior
          cases prior with
          | value _ => cases done
          | table childKeys childNodes =>
              dsimp only at done
              split at done
              · cases done
              · obtain ⟨child, made, equal⟩ := Option.bind_eq_some_iff.mp done
                obtain rfl := Option.some.inj equal
                have inner := (ih _ _ (.table childKeys childNodes) made).1
                exact ⟨isOrdered_insertSorted keys nodes inner, rfl⟩
          | tables elementNodes =>
              -- Of a list of tables only the last one is changed.
              obtain ⟨last, isLast, done⟩ := Option.bind_eq_some_iff.mp done
              obtain ⟨newLast, made, equal⟩ := Option.bind_eq_some_iff.mp done
              obtain rfl := Option.some.inj equal
              refine ⟨isOrdered_insertSorted keys nodes (.tables fun element member => ?_), rfl⟩
              rcases List.mem_append.mp member with earlier | atEnd
              · exact elementNodes element ((List.dropLast_sublist _).subset earlier)
              · obtain rfl := List.mem_singleton.mp atEnd
                exact (ih _ _ (elementNodes last (List.mem_of_getLast? isLast)) made).1

theorem keeps_give (isDotted : Bool) (key : String) {setting : Setting}
    (inner : setting.IsOrdered) : Keeps (give isDotted key setting) := by
  intro node changed ordered done
  cases ordered with
  | value _ => cases done
  | tables _ => cases done
  | table keys nodes =>
      rw [give] at done
      split at done
      · cases done
      · obtain rfl := Option.some.inj done
        exact ⟨isOrdered_insertSorted keys nodes (.value inner), rfl⟩

theorem keeps_assign (path : List String) {setting : Setting} (inner : setting.IsOrdered) :
    Keeps (assign path setting) := by
  intro node changed ordered done
  obtain ⟨key, _, done⟩ := Option.bind_eq_some_iff.mp done
  exact keeps_descend true (keeps_give _ key inner) _ node changed ordered done

theorem keeps_openTable (key : String) : Keeps (openTable key) := by
  intro node changed ordered done
  cases ordered with
  | value _ => cases done
  | tables _ => cases done
  | table keys nodes =>
      rw [openTable] at done
      split at done
      case h_1 =>
        obtain rfl := Option.some.inj done
        exact ⟨isOrdered_insertSorted keys nodes (isOrdered_empty false false), rfl⟩
      case h_2 child found =>
        obtain rfl := Option.some.inj done
        cases isOrdered_of_lookup nodes found with
        | table childKeys childNodes =>
            exact ⟨isOrdered_insertSorted keys nodes (.table childKeys childNodes), rfl⟩
      case h_3 => cases done

theorem keeps_openElement (key : String) : Keeps (openElement key) := by
  intro node changed ordered done
  cases ordered with
  | value _ => cases done
  | tables _ => cases done
  | table keys nodes =>
      rw [openElement] at done
      split at done
      case h_1 =>
        obtain rfl := Option.some.inj done
        refine ⟨isOrdered_insertSorted keys nodes (.tables fun element member => ?_), rfl⟩
        obtain rfl := List.mem_singleton.mp member
        exact isOrdered_empty false false
      case h_2 elements found =>
        obtain rfl := Option.some.inj done
        refine ⟨isOrdered_insertSorted keys nodes (.tables fun element member => ?_), rfl⟩
        rcases List.mem_append.mp member with earlier | atEnd
        · cases isOrdered_of_lookup nodes found with
          | tables nodes => exact nodes element earlier
        · obtain rfl := List.mem_singleton.mp atEnd
          exact isOrdered_empty false false
      case h_3 => cases done

theorem keeps_openAt (isElement : Bool) (path : List String) : Keeps (openAt isElement path) := by
  intro node changed ordered done
  obtain ⟨key, _, done⟩ := Option.bind_eq_some_iff.mp done
  refine keeps_descend false ?_ _ node changed ordered done
  cases isElement with
  | true => exact keeps_openElement key
  | false => exact keeps_openTable key

theorem keeps_assignBelow (header path : List String) {setting : Setting}
    (inner : setting.IsOrdered) : Keeps (assignBelow header path setting) :=
  keeps_descend false (keeps_assign path inner) header

/-! ## From nodes to settings -/

theorem settings_eq_map (entries : List (String × Node)) :
    settings entries = entries.map fun entry => (entry.1, entry.2.setting) := by
  induction entries with
  | nil => rfl
  | cons entry rest ih => rw [settings, ih, List.map_cons]

theorem alphabetical_settings (keys : Alphabetical entries) : Alphabetical (settings entries) := by
  rw [settings_eq_map]
  exact List.pairwise_map.mpr keys

theorem IsOrdered.setting {node : Node} (ordered : node.IsOrdered) : node.setting.IsOrdered := by
  cases ordered with
  | value ordered => exact ordered
  | table keys _ => exact alphabetical_settings keys
  | tables _ => trivial

theorem ordered_settings (ordered : (table implicit dotted entries).IsOrdered) :
    Ordered (settings entries) := by
  cases ordered with
  | table keys nodes =>
      refine ⟨alphabetical_settings keys, fun entry member => ?_⟩
      rw [settings_eq_map] at member
      obtain ⟨original, present, rfl⟩ := List.mem_map.mp member
      exact (nodes original present).setting

end Node

/-! ## Values -/

/-- What a reader reads is ordered. -/
def ReadsOrdered (read : Reader Setting) : Prop :=
  ∀ characters setting rest, read characters = some (setting, rest) → setting.IsOrdered

theorem isOrdered_of_fitting? {value : Int} {setting : Setting}
    (fits : fitting? value = some setting) : setting.IsOrdered := by
  unfold fitting? at fits
  split at fits
  · obtain rfl := Option.some.inj fits
    trivial
  · cases fits

theorem isOrdered_of_readBased? {characters : List Char} {setting : Setting}
    (read : readBased? characters = some setting) : setting.IsOrdered := by
  unfold readBased? at read
  split at read
  case h_4 => cases read
  all_goals
    obtain ⟨_, _, fits⟩ := Option.bind_eq_some_iff.mp read
    exact isOrdered_of_fitting? fits

theorem isOrdered_of_readWhole? {characters : List Char} {setting : Setting}
    (read : readWhole? characters = some setting) : setting.IsOrdered := by
  obtain ⟨_, _, fits⟩ := Option.bind_eq_some_iff.mp read
  exact isOrdered_of_fitting? fits

theorem isOrdered_of_readSpecial? {characters : List Char} {setting : Setting}
    (read : readSpecial? characters = some setting) : setting.IsOrdered := by
  unfold readSpecial? at read
  dsimp only at read
  split at read
  case h_3 => cases read
  all_goals
    obtain rfl := Option.some.inj read
    trivial

theorem isOrdered_of_readFraction? {characters : List Char} {setting : Setting}
    (read : readFraction? characters = some setting) : setting.IsOrdered := by
  have ends {value : Float} (read : (if value == Number.infinity then none
      else some (Setting.number value)) = some setting) : setting.IsOrdered := by
    split at read
    · cases read
    · obtain rfl := Option.some.inj read
      trivial
  unfold readFraction? at read
  dsimp only at read
  -- With or without an exponent, there may be a fraction.
  split at read
  all_goals
    obtain ⟨_, _, read⟩ := Option.bind_eq_some_iff.mp read
    obtain ⟨_, _, read⟩ := Option.bind_eq_some_iff.mp read
    split at read
    · split at read
      · cases read
      · exact ends read
    · obtain ⟨_, _, read⟩ := Option.bind_eq_some_iff.mp read
      exact ends read

/-- Of the constants only dates are tables, and these have one key. -/
theorem isOrdered_of_bareConstant? {characters : List Char} {setting : Setting}
    (read : bareConstant? characters = some setting) : setting.IsOrdered := by
  unfold bareConstant? at read
  split at read
  · obtain rfl := Option.some.inj read
    trivial
  · obtain rfl := Option.some.inj read
    trivial
  · split at read
    · obtain rfl := Option.some.inj read
      exact List.pairwise_singleton _ _
    · simp only [Option.orElse_eq_or, Option.or_eq_some_iff] at read
      rcases read with based | ⟨_, whole | ⟨_, special | ⟨_, fraction⟩⟩⟩
      · exact isOrdered_of_readBased? based
      · exact isOrdered_of_readWhole? whole
      · exact isOrdered_of_readSpecial? special
      · exact isOrdered_of_readFraction? fraction

theorem readsOrdered_readConstant : ReadsOrdered readConstant := by
  intro characters setting rest read
  unfold readConstant at read
  split at read
  · obtain ⟨rfl, _⟩ := Prod.mk.inj (Option.some.inj read)
    trivial
  · obtain ⟨constant, isConstant, equal⟩ := Option.bind_eq_some_iff.mp read
    obtain ⟨rfl, _⟩ := Prod.mk.inj (Option.some.inj equal)
    exact isOrdered_of_bareConstant? isConstant

variable {readValue : Reader Setting}

theorem isOrdered_of_readPair (ordered : ReadsOrdered readValue) {characters rest : List Char}
    {pair : List String × Setting} (read : readPair readValue characters = some (pair, rest)) :
    pair.2.IsOrdered := by
  obtain ⟨_, _, read⟩ := Option.bind_eq_some_iff.mp read
  obtain ⟨_, _, read⟩ := Option.bind_eq_some_iff.mp read
  obtain ⟨value, isValue, equal⟩ := Option.bind_eq_some_iff.mp read
  obtain ⟨rfl, _⟩ := Prod.mk.inj (Option.some.inj equal)
  exact ordered _ _ _ isValue

theorem isOrdered_of_readPairs (ordered : ReadsOrdered readValue) {fuel : Nat}
    {characters rest : List Char} {pairs : List (List String × Setting)}
    (read : readPairs readValue fuel characters = some (pairs, rest)) :
    ∀ pair ∈ pairs, pair.2.IsOrdered := by
  induction fuel generalizing characters pairs with
  | zero => cases read
  | succ fuel ih =>
      rw [readPairs] at read
      obtain ⟨⟨pair, remaining⟩, isPair, read⟩ := Option.bind_eq_some_iff.mp read
      have first : pair.2.IsOrdered := isOrdered_of_readPair ordered isPair
      dsimp only at read
      split at read
      · obtain ⟨⟨others, _⟩, areOthers, equal⟩ := Option.bind_eq_some_iff.mp read
        obtain ⟨rfl, rfl⟩ := Prod.mk.inj (Option.some.inj equal)
        exact List.forall_mem_cons.mpr ⟨first, ih areOthers⟩
      · obtain ⟨rfl, rfl⟩ := Prod.mk.inj (Option.some.inj read)
        exact List.forall_mem_singleton.mpr first
      · cases read

/-- An inline table is built from nothing by giving values to keys. -/
theorem isOrdered_of_inlineTable? {pairs : List (List String × Setting)}
    (ordered : ∀ pair ∈ pairs, pair.2.IsOrdered) {setting : Setting}
    (built : inlineTable? pairs = some setting) : setting.IsOrdered := by
  obtain ⟨node, folded, rfl⟩ := Option.map_eq_some_iff.mp built
  refine Node.IsOrdered.setting ?_
  have started : Node.empty.IsOrdered := Node.isOrdered_empty false false
  clear built
  revert folded started
  generalize Node.empty = start
  intro folded started
  induction pairs generalizing start with
  | nil =>
      obtain rfl := Option.some.inj folded
      exact started
  | cons pair rest ih =>
      obtain ⟨next, assigned, folded⟩ := Option.bind_eq_some_iff.mp folded
      have kept := Node.keeps_assign pair.1 (ordered pair List.mem_cons_self) _ _ started assigned
      exact ih (fun later member => ordered later (List.mem_cons_of_mem _ member)) next folded
        kept.1

theorem readsOrdered_readValue (depth : Nat) : ReadsOrdered (Toml.readValue depth) := by
  induction depth with
  | zero => exact readsOrdered_readConstant
  | succ depth ih =>
      intro characters setting rest read
      unfold Toml.readValue at read
      split at read
      · obtain ⟨⟨values, _⟩, _, equal⟩ := Option.bind_eq_some_iff.mp read
        obtain ⟨rfl, _⟩ := Prod.mk.inj (Option.some.inj equal)
        trivial
      · split at read
        · obtain ⟨rfl, _⟩ := Prod.mk.inj (Option.some.inj read)
          exact .nil
        · obtain ⟨⟨pairs, _⟩, arePairs, read⟩ := Option.bind_eq_some_iff.mp read
          obtain ⟨_, built, equal⟩ := Option.bind_eq_some_iff.mp read
          obtain ⟨rfl, _⟩ := Prod.mk.inj (Option.some.inj equal)
          exact isOrdered_of_inlineTable? (isOrdered_of_readPairs ih arePairs) built
      · exact readsOrdered_readConstant _ _ _ read

/-! ## Documents -/

/-- The tree of a draft is an ordered table. -/
def Draft.IsOrdered (draft : Draft) : Prop :=
  draft.tree.IsOrdered ∧ draft.tree.isTable = true

theorem Draft.IsOrdered.readStatement {draft next : Draft} (ordered : draft.IsOrdered)
    {characters rest : List Char} (read : readStatement draft characters = some (next, rest)) :
    next.IsOrdered := by
  unfold Toml.readStatement at read
  split at read
  · obtain ⟨⟨isElement, path, _⟩, _, read⟩ := Option.bind_eq_some_iff.mp read
    obtain ⟨tree, opened, equal⟩ := Option.bind_eq_some_iff.mp read
    obtain ⟨rfl, _⟩ := Prod.mk.inj (Option.some.inj equal)
    exact Node.keeps_openAt isElement path _ _ ordered.1 opened
  · obtain ⟨⟨⟨path, value⟩, _⟩, isPair, read⟩ := Option.bind_eq_some_iff.mp read
    obtain ⟨tree, assigned, equal⟩ := Option.bind_eq_some_iff.mp read
    obtain ⟨rfl, _⟩ := Prod.mk.inj (Option.some.inj equal)
    have inner : value.IsOrdered := isOrdered_of_readPair (readsOrdered_readValue _) isPair
    exact Node.keeps_assignBelow draft.header path inner _ _ ordered.1 assigned

theorem Draft.IsOrdered.readDocument {fuel : Nat} {draft last : Draft} (ordered : draft.IsOrdered)
    {characters : List Char} (read : readDocument fuel draft characters = some last) :
    last.IsOrdered := by
  induction fuel generalizing draft characters with
  | zero => cases read
  | succ fuel ih =>
      rw [Toml.readDocument] at read
      split at read
      · obtain rfl := Option.some.inj read
        exact ordered
      · obtain ⟨⟨next, rest⟩, isStatement, read⟩ := Option.bind_eq_some_iff.mp read
        have kept : next.IsOrdered := ordered.readStatement isStatement
        dsimp only at read
        split at read
        · obtain rfl := Option.some.inj read
          exact kept
        · split at read
          · exact ih kept read
          · cases read

/-- The settings of a document are in order, and so are the keys of its sections. -/
theorem ordered_of_parse? {text : String} {layer : Settings} (read : parse? text = some layer) :
    Ordered layer := by
  obtain ⟨draft, isDraft, read⟩ := Option.bind_eq_some_iff.mp read
  have start : Draft.IsOrdered {} := ⟨Node.isOrdered_empty false false, rfl⟩
  obtain ⟨ordered, isTable⟩ := start.readDocument isDraft
  revert read ordered isTable
  generalize draft.tree = root
  intro read ordered isTable
  cases root with
  | value _ => cases isTable
  | tables _ => cases isTable
  | table implicit dotted entries =>
      obtain rfl := Option.some.inj read
      exact Node.ordered_settings ordered

end ScriptedRobot.Toml
