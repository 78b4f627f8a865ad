import ScriptedRobot.Proofs.Capability.Retraction

/-! # The tables that modules appear as

Scripts find the functions of a module in a table that stands under the name of the module in the
table of modules. They may put other values into either place. As long as the tables among these
have no handlers and none stands in two places, a write changes what scripts find in one module
only, and a table that is missing can be made anew without any other change. -/

namespace ScriptedRobot.Capability

open Script (Value Key Store Table)

variable {store : Store} {root id : Nat}

/-! ## Places -/

/-- What stands where scripts look for a module: nothing if there is no table of modules. -/
def moduleValue (store : Store) (module : String) : Value :=
  match rootValue store with
  | .table root => (store.table root).get (.text module)
  | _ => .nil

/-- What scripts find in a module: nothing if there is no table. -/
def contents (store : Store) (module : String) : Table :=
  match moduleValue store module with
  | .table id => store.table id
  | _ => {}

theorem moduleValue_of_root (rooted : rootValue store = .table root) (module : String) :
    moduleValue store module = (store.table root).get (.text module) := by
  rw [moduleValue, rooted]

theorem contents_of_table {module : String} (placed : moduleValue store module = .table id) :
    contents store module = store.table id := by
  rw [contents, placed]

/-- The contents of a module are those of one table. -/
theorem contents_eq_of {before after : Store} {module : String}
    (value : moduleValue after module = moduleValue before module)
    (table : ∀ id, moduleValue before module = .table id → after.table id = before.table id) :
    contents after module = contents before module := by
  unfold contents
  rw [value]
  split
  case h_1 id placed => exact table id placed
  case h_2 => rfl

/-- A table without handlers. -/
structure IsBare (store : Store) (id : Nat) : Prop where
  there : id < store.tables.size
  readHandler : (store.table id).readHandler = .nil
  writeHandler : (store.table id).writeHandler = .nil

/-- A table without handlers that is not the table of global names. -/
structure IsPlain (store : Store) (id : Nat) : Prop extends IsBare store id where
  notGlobals : id ≠ Store.globalsId

/-- A plain table whose entries under names are plain tables too, as far as they are tables, and
none of them is the table itself or stands under two names. -/
structure IsNamespace (store : Store) (root : Nat) : Prop where
  plain : IsPlain store root
  modules : ∀ module id, (store.table root).get (.text module) = .table id →
    IsPlain store id ∧ id ≠ root
  distinct : ∀ module other id, (store.table root).get (.text module) = .table id →
    (store.table root).get (.text other) = .table id → module = other

/-- The places of modules hold any values, but no table with handlers, and no table twice. The table
of global names, where the table of modules has its place, has no handlers either. -/
structure Tidy (store : Store) : Prop where
  globals : IsBare store Store.globalsId
  root : ∀ root, rootValue store = .table root → IsNamespace store root

theorem tidy_initial : Tidy Store.initial where
  globals := ⟨by decide, rfl, rfl⟩
  root _ rooted := by cases rooted

theorem Tidy.globalsUnguarded (tidy : Tidy store) : GlobalsUnguarded store :=
  fun _ => ⟨tidy.globals.readHandler, tidy.globals.writeHandler⟩

theorem Tidy.module (tidy : Tidy store) {module : String}
    (placed : moduleValue store module = .table id) :
    IsPlain store id ∧ rootValue store ≠ .table id := by
  unfold moduleValue at placed
  split at placed
  case h_1 root rooted =>
    obtain ⟨plain, different⟩ := (tidy.root root rooted).modules module id placed
    refine ⟨plain, fun same => different ?_⟩
    exact Value.table.inj (same.symm.trans rooted)
  case h_2 => cases placed

theorem Tidy.module_eq (tidy : Tidy store) {module other : String}
    (placed : moduleValue store module = .table id)
    (placedOther : moduleValue store other = .table id) : module = other := by
  cases rooted : rootValue store with
  | table root =>
      rw [moduleValue_of_root rooted] at placed placedOther
      exact (tidy.root root rooted).distinct module other id placed placedOther
  | nil | boolean _ | integer _ | number _ | text _ | bytes _ | function _ | failure _ =>
      rw [moduleValue, rooted] at placed
      cases placed

/-! ## Changes of one table -/

section Changes

variable {change : Table → Table} (keeps : Table.KeepsHandlers change)
include keeps

theorem IsBare.modifyTable (bare : IsBare store id) (changed : Nat) :
    IsBare (store.modifyTable changed change) id := by
  obtain ⟨reads, writes⟩ := store.handlers_modifyTable keeps changed id
  refine ⟨?_, reads.trans bare.readHandler, writes.trans bare.writeHandler⟩
  rw [store.size_modifyTable]
  exact bare.there

theorem IsPlain.modifyTable (plain : IsPlain store id) (changed : Nat) :
    IsPlain (store.modifyTable changed change) id where
  toIsBare := plain.toIsBare.modifyTable keeps changed
  notGlobals := plain.notGlobals

theorem IsNamespace.modifyTable_of_ne (space : IsNamespace store root) {changed : Nat}
    (different : root ≠ changed) : IsNamespace (store.modifyTable changed change) root := by
  have same := store.table_modifyTable_of_ne different change
  refine ⟨space.plain.modifyTable keeps changed, ?_, ?_⟩
  · intro module id placed
    rw [same] at placed
    obtain ⟨plain, notRoot⟩ := space.modules module id placed
    exact ⟨plain.modifyTable keeps changed, notRoot⟩
  · rw [same]
    exact space.distinct

end Changes

/-- Whatever stands in the place of the table of modules, it is tidy if it is a namespace. -/
theorem tidy_setRoot {value : Value} (globals : IsBare store Store.globalsId)
    (fits : ∀ root, value = .table root → IsNamespace store root) :
    let after := store.modifyTable Store.globalsId fun table => table.set (.text rootName) value
    Tidy after ∧ rootValue after = value := by
  intro after
  have rooted : rootValue after = value := by
    rw [rootValue, store.table_modifyTable_self globals.there, Table.get_set, if_pos rfl]
  refine ⟨⟨globals.modifyTable (Table.keepsHandlers_set _ _) _, fun root same => ?_⟩, rooted⟩
  · have space := fits root (rooted.symm.trans same)
    exact space.modifyTable_of_ne (Table.keepsHandlers_set _ _) space.plain.notGlobals

/-- A value that may stand in the place of a module. -/
def FitsModule (store : Store) (module : String) (value : Value) : Prop :=
  ∀ id, value = .table id → IsPlain store id ∧ rootValue store ≠ .table id ∧
    ∀ other, other ≠ module → moduleValue store other ≠ .table id

section SetModule

variable {module : String} {value : Value} (tidy : Tidy store)
  (rooted : rootValue store = .table root) (fits : FitsModule store module value)
include tidy rooted

theorem rootValue_setModule :
    rootValue (store.modifyTable root fun table => table.set (.text module) value) =
      .table root := by
  have notGlobals := (tidy.root root rooted).plain.notGlobals
  rw [rootValue, store.table_modifyTable_of_ne (Ne.symm notGlobals)]
  exact rooted

theorem moduleValue_setModule (other : String) :
    moduleValue (store.modifyTable root fun table => table.set (.text module) value) other =
      if other = module then value else moduleValue store other := by
  have there := (tidy.root root rooted).plain.there
  rw [moduleValue_of_root (rootValue_setModule tidy rooted), moduleValue_of_root rooted,
    store.table_modifyTable_self there, Table.get_set]
  simp only [Key.text.injEq]

theorem contents_setModule_of_ne {other : String} (different : other ≠ module) :
    contents (store.modifyTable root fun table => table.set (.text module) value) other =
      contents store other := by
  refine contents_eq_of ?_ fun id placed => ?_
  · rw [moduleValue_setModule tidy rooted, if_neg different]
  · refine store.table_modifyTable_of_ne (fun same => ?_) _
    subst same
    exact (tidy.module placed).2 rooted

include fits in
theorem tidy_setModule :
    Tidy (store.modifyTable root fun table => table.set (.text module) value) := by
  have keeps := Table.keepsHandlers_set (.text module) value
  have still : rootValue (store.modifyTable root fun table => table.set (.text module) value) =
      .table root := rootValue_setModule tidy rooted
  have values : ∀ other,
      moduleValue (store.modifyTable root fun table => table.set (.text module) value) other =
        if other = module then value else moduleValue store other :=
    moduleValue_setModule tidy rooted
  have space := tidy.root root rooted
  refine ⟨tidy.globals.modifyTable keeps root, fun other same => ?_⟩
  obtain rfl := Value.table.inj (still.symm.trans same)
  simp only [moduleValue_of_root still] at values
  refine ⟨space.plain.modifyTable keeps root, fun name id placed => ?_, ?_⟩
  · rw [values] at placed
    split at placed
    case isTrue =>
      obtain ⟨plain, notRoot, _⟩ := fits id placed
      exact ⟨plain.modifyTable keeps root, fun same => notRoot (same ▸ rooted)⟩
    case isFalse =>
      obtain ⟨plain, notRoot⟩ := tidy.module placed
      exact ⟨plain.modifyTable keeps root, fun same => notRoot (same ▸ rooted)⟩
  · intro name other id placed placedOther
    rw [values] at placed placedOther
    split at placed
    case isTrue same =>
      split at placedOther
      case isTrue sameOther => exact same.trans sameOther.symm
      case isFalse different => exact absurd placedOther ((fits id placed).2.2 other different)
    case isFalse different =>
      split at placedOther
      case isTrue => exact absurd placed ((fits id placedOther).2.2 name different)
      case isFalse => exact tidy.module_eq placed placedOther

end SetModule

section ChangeContents

variable {module : String} {change : Table → Table} (tidy : Tidy store)
  (keeps : Table.KeepsHandlers change) (placed : moduleValue store module = .table id)
include tidy placed

theorem rootValue_changeContents : rootValue (store.modifyTable id change) = rootValue store := by
  rw [rootValue, store.table_modifyTable_of_ne (Ne.symm (tidy.module placed).1.notGlobals)]
  rfl

theorem moduleValue_changeContents (other : String) :
    moduleValue (store.modifyTable id change) other = moduleValue store other := by
  have notRoot := (tidy.module placed).2
  unfold moduleValue
  rw [rootValue_changeContents tidy placed]
  split
  case h_1 root rooted =>
    rw [store.table_modifyTable_of_ne]
    intro same
    exact notRoot (same ▸ rooted)
  case h_2 => rfl

theorem contents_changeContents :
    contents (store.modifyTable id change) module = change (contents store module) := by
  rw [contents_of_table ((moduleValue_changeContents tidy placed module).trans placed),
    contents_of_table placed]
  exact store.table_modifyTable_self (tidy.module placed).1.there change

theorem contents_changeContents_of_ne {other : String} (different : other ≠ module) :
    contents (store.modifyTable id change) other = contents store other := by
  refine contents_eq_of (moduleValue_changeContents tidy placed other) fun changed found => ?_
  refine store.table_modifyTable_of_ne (fun same => different ?_) change
  subst same
  exact tidy.module_eq found placed

include keeps in
theorem tidy_changeContents : Tidy (store.modifyTable id change) := by
  obtain ⟨plain, notRoot⟩ := tidy.module placed
  refine ⟨tidy.globals.modifyTable keeps id, fun root rooted => ?_⟩
  rw [rootValue_changeContents tidy placed] at rooted
  refine (tidy.root root rooted).modifyTable_of_ne keeps fun same => notRoot ?_
  rw [rooted, same]

end ChangeContents

/-! ## New tables -/

theorem IsBare.newTable (bare : IsBare store id) (table : Table) :
    IsBare (store.newTable table).2 id := by
  have same := store.table_newTable_of_ne (Nat.ne_of_lt bare.there) table
  refine ⟨?_, ?_, ?_⟩
  · rw [store.size_newTable]
    exact Nat.lt_succ_of_lt bare.there
  · rw [same]
    exact bare.readHandler
  · rw [same]
    exact bare.writeHandler

theorem IsPlain.newTable (plain : IsPlain store id) (table : Table) :
    IsPlain (store.newTable table).2 id where
  toIsBare := plain.toIsBare.newTable table
  notGlobals := plain.notGlobals

theorem isPlain_newTable_self (globals : IsBare store Store.globalsId) {table : Table}
    (reads : table.readHandler = .nil) (writes : table.writeHandler = .nil) :
    IsPlain (store.newTable table).2 store.tables.size := by
  refine ⟨⟨?_, ?_, ?_⟩, Ne.symm (Nat.ne_of_lt globals.there)⟩
  · rw [store.size_newTable]
    exact Nat.lt_succ_self _
  · rw [store.table_newTable_self]
    exact reads
  · rw [store.table_newTable_self]
    exact writes

section NewTable

variable (tidy : Tidy store) (table : Table)
include tidy

theorem rootValue_newTable : rootValue (store.newTable table).2 = rootValue store := by
  rw [rootValue, store.table_newTable_of_ne (Nat.ne_of_lt tidy.globals.there)]
  rfl

theorem moduleValue_newTable (module : String) :
    moduleValue (store.newTable table).2 module = moduleValue store module := by
  unfold moduleValue
  rw [rootValue_newTable tidy]
  split
  case h_1 root rooted =>
    rw [store.table_newTable_of_ne (Nat.ne_of_lt (tidy.root root rooted).plain.there)]
  case h_2 => rfl

theorem contents_newTable (module : String) :
    contents (store.newTable table).2 module = contents store module := by
  refine contents_eq_of (moduleValue_newTable tidy table module) fun id placed => ?_
  exact store.table_newTable_of_ne (Nat.ne_of_lt (tidy.module placed).1.there) table

theorem tidy_newTable : Tidy (store.newTable table).2 := by
  refine ⟨tidy.globals.newTable table, fun root rooted => ?_⟩
  rw [rootValue_newTable tidy] at rooted
  have space := tidy.root root rooted
  have same := store.table_newTable_of_ne (Nat.ne_of_lt space.plain.there) table
  refine ⟨space.plain.newTable table, fun module id placed => ?_, ?_⟩
  · rw [same] at placed
    obtain ⟨plain, notRoot⟩ := space.modules module id placed
    exact ⟨plain.newTable table, notRoot⟩
  · rw [same]
    exact space.distinct

/-- A new table is nowhere in the namespace. -/
theorem fitsModule_newTable (reads : table.readHandler = .nil) (writes : table.writeHandler = .nil)
    (module : String) :
    FitsModule (store.newTable table).2 module (.table store.tables.size) := by
  intro id same
  obtain rfl := Value.table.inj same
  refine ⟨isPlain_newTable_self tidy.globals reads writes, fun rooted => ?_,
    fun other _ placed => ?_⟩
  · rw [rootValue_newTable tidy] at rooted
    exact Nat.lt_irrefl _ (tidy.root _ rooted).plain.there
  · rw [moduleValue_newTable tidy] at placed
    exact Nat.lt_irrefl _ (tidy.module placed).1.there

end NewTable

/-! ## The table of modules -/

theorem moduleValue_of_no_root (absent : ∀ root, rootValue store ≠ .table root)
    (module : String) : moduleValue store module = .nil := by
  unfold moduleValue
  split
  case h_1 root rooted => exact absurd rooted (absent root)
  case h_2 => rfl

theorem exists_root_of_placed {module : String} (placed : moduleValue store module = .table id) :
    ∃ root, rootValue store = .table root := by
  by_contra absent
  rw [moduleValue_of_no_root fun root rooted => absent ⟨root, rooted⟩] at placed
  cases placed

theorem table_withRoot (notGlobals : id ≠ Store.globalsId) :
    (withRoot store).table id = (store.newTable {}).2.table id :=
  (store.newTable {}).2.table_modifyTable_of_ne notGlobals _

theorem tidy_withRoot (globals : IsBare store Store.globalsId) :
    Tidy (withRoot store) ∧ rootValue (withRoot store) = .table store.tables.size := by
  refine tidy_setRoot (globals.newTable {}) fun root same => ?_
  obtain rfl := Value.table.inj same
  have empty := store.table_fresh
  refine ⟨isPlain_newTable_self globals rfl rfl, ?_, ?_⟩
  · intro module id placed
    rw [empty] at placed
    cases placed
  · intro module other id placed
    rw [empty] at placed
    cases placed

section EnsureRoot

variable (tidy : Tidy store)
include tidy

/-- What scripts find stays the same when the table of modules is made anew. -/
theorem tidy_ensureRoot :
    Tidy (ensureRoot store).2 ∧ rootValue (ensureRoot store).2 = .table (ensureRoot store).1 ∧
      ∀ module, moduleValue (ensureRoot store).2 module = moduleValue store module := by
  by_cases present : ∃ root, rootValue store = .table root
  · obtain ⟨root, rooted⟩ := present
    rw [ensureRoot_of_root rooted]
    exact ⟨tidy, rooted, fun _ => rfl⟩
  · have absent : ∀ root, rootValue store ≠ .table root := fun root rooted => present ⟨root, rooted⟩
    obtain ⟨tidyAfter, rooted⟩ := tidy_withRoot tidy.globals
    rw [ensureRoot_of_no_root absent]
    refine ⟨tidyAfter, rooted, fun module => ?_⟩
    have notGlobals : store.tables.size ≠ Store.globalsId := Ne.symm (Nat.ne_of_lt tidy.globals.there)
    rw [moduleValue_of_root rooted, moduleValue_of_no_root absent,
      table_withRoot notGlobals, store.table_newTable_self]
    rfl

omit tidy in
theorem table_ensureRoot (plain : IsPlain store id) :
    (ensureRoot store).2.table id = store.table id := by
  by_cases present : ∃ root, rootValue store = .table root
  · obtain ⟨root, rooted⟩ := present
    rw [ensureRoot_of_root rooted]
  · rw [ensureRoot_of_no_root fun root rooted => present ⟨root, rooted⟩,
      table_withRoot plain.notGlobals,
      store.table_newTable_of_ne (Nat.ne_of_lt plain.there)]

omit tidy in
theorem size_ensureRoot : store.tables.size ≤ (ensureRoot store).2.tables.size := by
  by_cases present : ∃ root, rootValue store = .table root
  · obtain ⟨root, rooted⟩ := present
    have same := congrArg (fun made => made.2.tables.size) (ensureRoot_of_root rooted)
    exact Nat.le_of_eq same.symm
  · rw [ensureRoot_of_no_root fun root rooted => present ⟨root, rooted⟩]
    dsimp only [withRoot]
    rw [Store.size_modifyTable, Store.size_newTable]
    exact Nat.le_succ _

theorem contents_ensureRoot (module : String) :
    contents (ensureRoot store).2 module = contents store module :=
  contents_eq_of ((tidy_ensureRoot tidy).2.2 module) fun _ placed =>
    table_ensureRoot (tidy.module placed).1

theorem fitsModule_ensureRoot {module : String} {value : Value}
    (fits : FitsModule store module value) : FitsModule (ensureRoot store).2 module value := by
  intro id same
  obtain ⟨plain, notRoot, unused⟩ := fits id same
  obtain ⟨_, rooted, values⟩ := tidy_ensureRoot tidy
  have table := table_ensureRoot plain
  refine ⟨⟨⟨Nat.lt_of_lt_of_le plain.there (size_ensureRoot), ?_, ?_⟩, plain.notGlobals⟩,
    fun sameRoot => ?_, fun other different => ?_⟩
  · rw [table]
    exact plain.readHandler
  · rw [table]
    exact plain.writeHandler
  · by_cases present : ∃ root, rootValue store = .table root
    · obtain ⟨root, before⟩ := present
      rw [ensureRoot_of_root before] at sameRoot
      exact notRoot sameRoot
    · rw [ensureRoot_of_no_root fun root before => present ⟨root, before⟩,
        (tidy_withRoot tidy.globals).2] at sameRoot
      exact Nat.ne_of_lt plain.there (Value.table.inj sameRoot).symm
  · rw [values]
    exact unused other different

end EnsureRoot

/-! ## A new table of a module -/

/-- The objects after a new table was put in the place of a module. -/
def withModule (store : Store) (module : String) (table : Table) : Store :=
  let made := (store.newTable table).2
  (ensureRoot made).2.modifyTable (ensureRoot made).1 fun root =>
    root.set (.text module) (.table store.tables.size)

section WithModule

variable (tidy : Tidy store) (module : String) {table : Table}
include tidy

theorem moduleValue_withModule (other : String) :
    moduleValue (withModule store module table) other =
      if other = module then .table store.tables.size else moduleValue store other := by
  obtain ⟨tidyRoot, rooted, values⟩ := tidy_ensureRoot (tidy_newTable tidy table)
  rw [withModule, moduleValue_setModule tidyRoot rooted, values, moduleValue_newTable tidy]

theorem contents_withModule_of_ne {other : String} (different : other ≠ module) :
    contents (withModule store module table) other = contents store other := by
  have tidyMade := tidy_newTable tidy table
  obtain ⟨tidyRoot, rooted, _⟩ := tidy_ensureRoot tidyMade
  rw [withModule, contents_setModule_of_ne tidyRoot rooted different,
    contents_ensureRoot tidyMade, contents_newTable tidy]

variable (reads : table.readHandler = .nil) (writes : table.writeHandler = .nil)
include reads writes

theorem tidy_withModule : Tidy (withModule store module table) := by
  have tidyMade := tidy_newTable tidy table
  obtain ⟨tidyRoot, rooted, _⟩ := tidy_ensureRoot tidyMade
  have fits := fitsModule_newTable tidy table reads writes module
  exact tidy_setModule tidyRoot rooted (fitsModule_ensureRoot tidyMade fits)

theorem contents_withModule : contents (withModule store module table) module = table := by
  have tidyMade := tidy_newTable tidy table
  obtain ⟨_, rooted, _⟩ := tidy_ensureRoot tidyMade
  have fits := fitsModule_newTable tidy table reads writes module
  obtain ⟨plain, _⟩ := fits _ rfl
  obtain ⟨_, notRoot, _⟩ := fitsModule_ensureRoot tidyMade fits _ rfl
  have placed : moduleValue (withModule store module table) module = .table store.tables.size :=
    (moduleValue_withModule tidy module module).trans (if_pos rfl)
  rw [contents_of_table placed, withModule, Store.table_modifyTable_of_ne,
    table_ensureRoot plain, store.table_newTable_self]
  intro same
  exact notRoot (same ▸ rooted)

end WithModule

/-! ## The table of a module -/

/-- The table of a module, made anew if there is none. -/
def ensureModule (store : Store) (module : String) : Nat × Store :=
  let found := (ensureRoot store).2
  match moduleValue found module with
  | .table id => (id, found)
  | _ => (found.tables.size, withModule found module {})

theorem ensureModule_of_table {module : String}
    (placed : moduleValue (ensureRoot store).2 module = .table id) :
    ensureModule store module = (id, (ensureRoot store).2) := by
  rw [ensureModule, placed]

theorem ensureModule_of_no_table {module : String}
    (absent : ∀ id, moduleValue (ensureRoot store).2 module ≠ .table id) :
    ensureModule store module =
      ((ensureRoot store).2.tables.size, withModule (ensureRoot store).2 module {}) := by
  unfold ensureModule
  dsimp only
  split
  case h_1 id placed => exact absurd placed (absent id)
  case h_2 => rfl

theorem contents_of_no_table {module : String} (absent : ∀ id, moduleValue store module ≠ .table id) :
    contents store module = {} := by
  unfold contents
  split
  case h_1 id placed => exact absurd placed (absent id)
  case h_2 => rfl

/-- What scripts find stays the same when the table of a module is made anew. -/
structure Ensured (module : String) (before : Store) (id : Nat) (after : Store) : Prop where
  tidy : Tidy after
  root : ∀ root, rootValue before = .table root → rootValue after = .table root
  placed : moduleValue after module = .table id
  kept : ∀ old, moduleValue before module = .table old → id = old
  others : ∀ other, other ≠ module → moduleValue after other = moduleValue before other
  contents : ∀ other, contents after other = contents before other

theorem rootValue_withModule (tidy : Tidy store) (module : String) (table : Table) {root : Nat}
    (rooted : rootValue store = .table root) :
    rootValue (withModule store module table) = .table root := by
  have tidyMade := tidy_newTable tidy table
  have rootedMade := (rootValue_newTable tidy table).trans rooted
  rw [withModule, ensureRoot_of_root rootedMade]
  exact rootValue_setModule tidyMade rootedMade

theorem ensured_ensureModule (tidy : Tidy store) (module : String) :
    Ensured module store (ensureModule store module).1 (ensureModule store module).2 := by
  obtain ⟨tidyFound, rooted, values⟩ := tidy_ensureRoot tidy
  have sameContents := contents_ensureRoot tidy
  have sameRoot : ∀ root, rootValue store = .table root →
      rootValue (ensureRoot store).2 = .table root := by
    intro root before
    rw [ensureRoot_of_root before]
    exact before
  by_cases present : ∃ id, moduleValue (ensureRoot store).2 module = .table id
  · obtain ⟨id, placed⟩ := present
    rw [ensureModule_of_table placed]
    refine ⟨tidyFound, sameRoot, placed, fun old before => ?_, fun other _ => values other,
      sameContents⟩
    exact Value.table.inj (placed.symm.trans ((values module).trans before))
  · have absent : ∀ id, moduleValue (ensureRoot store).2 module ≠ .table id :=
      fun id placed => present ⟨id, placed⟩
    rw [ensureModule_of_no_table absent]
    refine ⟨tidy_withModule tidyFound module rfl rfl, ?_, ?_, ?_, ?_, ?_⟩
    · intro root before
      exact rootValue_withModule tidyFound module {} (sameRoot root before)
    · exact (moduleValue_withModule tidyFound module module).trans (if_pos rfl)
    · intro old before
      exact absurd ((values module).trans before) (absent old)
    · intro other different
      rw [moduleValue_withModule tidyFound, if_neg different, values]
    · intro other
      by_cases same : other = module
      · subst same
        rw [contents_withModule tidyFound other rfl rfl, ← sameContents,
          contents_of_no_table absent]
      · rw [contents_withModule_of_ne tidyFound module same, sameContents]

end ScriptedRobot.Capability
