import ScriptedRobot.Proofs.Configuration.PortFunctions

/-! # Two ways to the ports

The host reads the ports of the deployed configuration through its functions. With these taken out
it looks into the ports itself, and finds the same (`port_paths_agree`). Only a module that is
listed as its own ports has fewer of them by then. The count of the module is the same because a
table cannot say what iterating over it comes to: it has handlers for absent keys only. -/

namespace ScriptedRobot.Deployed

open Configuration.Global (Counts Finds asTable? category countOf globalValue noPort portOf
  start_category_of_unguarded start_function_of_absent start_function_of_function)
open Script
open Script.Run

variable {σ : Type} {module : Nat} {machine after : Machine σ} {name : String}

/-! ## Without the functions -/

/-- The machine with the two functions taken out of the module. -/
def withoutFunctions (module : Nat) (machine : Machine σ) : Machine σ :=
  setEntry module "num_ports" .nil (setEntry module "port" .nil machine)

theorem table_withoutFunctions_of_ne {id : Nat} (other : id ≠ module) :
    (withoutFunctions module machine).store.table id = machine.store.table id := by
  rw [withoutFunctions, table_setEntry_of_ne other, table_setEntry_of_ne other]

theorem handlers_withoutFunctions (id : Nat) :
    ((withoutFunctions module machine).store.table id).readHandler =
      (machine.store.table id).readHandler := by
  rw [withoutFunctions, (handlers_setEntry _ _ _ _ _).1, (handlers_setEntry _ _ _ _ _).1]

theorem leads_of_withoutFunctions {value reached : Value}
    (leads : Leads (withoutFunctions module machine).store.table value reached) :
    Leads machine.store.table value reached := by
  induction leads with
  | refl => exact .refl
  | handler _ ih =>
      rw [handlers_withoutFunctions]
      exact .handler ih

namespace IsDeployed

variable (isDeployed : IsDeployed module machine)
include isDeployed

theorem there : module < machine.store.tables.size := by
  obtain ⟨entry, _⟩ := isDeployed.port
  by_contra absent
  have empty : machine.store.table module = {} := by
    rw [Store.table, Array.getD_eq_getD_getElem?, Array.getElem?_eq_none (by omega)]
    rfl
  rw [empty] at entry
  cases entry

theorem get_withoutFunctions (name : String) :
    ((withoutFunctions module machine).store.table module).get (.text name) =
      if name = "port" ∨ name = "num_ports" then .nil
      else (machine.store.table module).get (.text name) := by
  have there : module < (setEntry module "port" .nil machine).store.tables.size := by
    rw [size_setEntry]
    exact isDeployed.there
  rw [withoutFunctions, get_setEntry there, get_setEntry isDeployed.there]
  by_cases count : name = "num_ports"
  · simp [count]
  · simp [count]

theorem unguarded_withoutFunctions :
    ((withoutFunctions module machine).store.table module).readHandler = .nil := by
  rw [handlers_withoutFunctions, isDeployed.unguarded]

theorem configured_withoutFunctions :
    globalValue (withoutFunctions module machine) = .table module := by
  have configured := isDeployed.configured
  unfold globalValue at *
  by_cases self : Store.globalsId = module
  · rw [self] at configured ⊢
    rw [isDeployed.get_withoutFunctions, if_neg (by decide), configured]
  · rw [table_withoutFunctions_of_ne self, configured]

theorem portsOf_withoutFunctions :
    portsOf module (withoutFunctions module machine) = portsOf module machine := by
  unfold portsOf
  rw [isDeployed.get_withoutFunctions, if_neg (by decide)]

theorem absent_withoutFunctions (removed : name = "port" ∨ name = "num_ports") :
    ((withoutFunctions module machine).store.table module).get (.text name) = .nil := by
  rw [isDeployed.get_withoutFunctions, if_pos removed]

theorem function_of_removed (removed : name = "port" ∨ name = "num_ports") :
    ∃ callable, (machine.store.table module).get (.text name) = .function callable := by
  rcases removed with rfl | rfl
  · obtain ⟨entry, _⟩ := isDeployed.port
    exact ⟨_, entry⟩
  · obtain ⟨entry, _⟩ := isDeployed.portCount
    exact ⟨_, entry⟩

/-- A function is no port, and neither is nothing. -/
theorem portThrough_withoutFunctions (name : String) (limit : Nat) (value : Value) :
    portThrough (withoutFunctions module machine).store.table name limit value =
      portThrough machine.store.table name limit value := by
  induction limit generalizing value with
  | zero => rfl
  | succ limit ih =>
      cases value with
      | table id =>
          by_cases self : id = module
          · subst self
            unfold portThrough
            rw [readThrough_of_unguarded isDeployed.unguarded_withoutFunctions,
              readThrough_of_unguarded isDeployed.unguarded, isDeployed.get_withoutFunctions]
            split
            case isTrue removed =>
              obtain ⟨callable, isFunction⟩ := isDeployed.function_of_removed removed
              rw [isFunction]
              rfl
            case isFalse => rfl
          · unfold portThrough readThrough
            rw [table_withoutFunctions_of_ne self]
            cases (machine.store.table id).get (.text name) with
            | nil =>
                cases (machine.store.table id).readHandler with
                | nil | function _ => rfl
                | boolean _ | integer _ | number _ | text _ | bytes _ | table _ | failure _ =>
                    exact ih _
            | boolean _ | integer _ | number _ | text _ | bytes _ | table _ | function _
            | failure _ => rfl
      | nil | boolean _ | integer _ | number _ | text _ | bytes _ | function _ | failure _ => rfl

end IsDeployed

/-! ## Ports -/

namespace IsDeployed

variable (isDeployed : IsDeployed module machine)
include isDeployed

/-- The port that the function for ports answers. -/
theorem exists_start_port {symbol : String} (named : symbol ≠ "")
    (raises : ∀ handler, Leads machine.store.table (portsOf module machine) (.function handler) →
      RaisesFor (callAt 199) symbol (addCell (.text symbol) machine) handler) :
    ∃ after, (Configuration.Global.port symbol).start machine =
      (.ok (portThrough machine.store.table symbol handlerLimit (portsOf module machine)),
        after) := by
  obtain ⟨callable, outcome, after, isFunction, called, answered⟩ :=
    isDeployed.exists_call_port symbol raises
  have finds := Finds.computed named
    (start_function_of_function isDeployed.configured isDeployed.unguarded isFunction) called
  exact ⟨after, by rw [finds.start_port, answered]⟩

end IsDeployed

/-- The port that is listed where there is no function for ports. -/
theorem exists_start_port_listed {symbol : String} (named : symbol ≠ "")
    (configured : globalValue machine = .table module)
    (unguarded : (machine.store.table module).readHandler = .nil)
    (absent : (machine.store.table module).get (.text "port") = .nil)
    (raises : ∀ handler, Leads machine.store.table (portsOf module machine) (.function handler) →
      RaisesFor (callAt callLimit) symbol machine handler) :
    ∃ after, (Configuration.Global.port symbol).start machine =
      (.ok (portThrough machine.store.table symbol handlerLimit (portsOf module machine)),
        after) := by
  have noFunction := start_function_of_absent configured unguarded absent
  have ports := start_category_of_unguarded configured unguarded "ports"
  have through := start_readIndex_through (callAt callLimit) handlerLimit (portsOf module machine)
    "" raises
  unfold portThrough
  change (category "ports").start machine = (.ok (asTable? (portsOf module machine)), _) at ports
  generalize portsOf module machine = value at through ports ⊢
  cases value with
  | table id =>
      cases found : readThrough machine.store.table symbol handlerLimit (.table id) with
      | none =>
          obtain ⟨raised, after, failed⟩ := found ▸ through
          exact ⟨after, (Finds.listed named noFunction ports failed).start_port⟩
      | some value =>
          rw [found] at through
          exact ⟨machine, (Finds.listed named noFunction ports through).start_port⟩
  | nil | boolean _ | integer _ | number _ | text _ | bytes _ | function _ | failure _ =>
      exact ⟨machine, (Finds.unlisted named noFunction ports).start_port⟩

/-! ## Numbers of ports -/

theorem countOf_length {length : Nat} (bounded : length < 2 ^ 31) :
    countOf (.integer (Int64.ofNat length)) = Int32.ofNat length := by
  apply Int32.toInt_inj.mp
  rw [Configuration.Global.toInt_countOf_integer, Int64.toInt_ofNat_of_lt (by omega),
    Int32.toInt_ofNat_of_lt bounded]
  unfold Number.int32Greatest
  omega

/-- The number of the entries of a value. -/
def entryCount (tables : Nat → Table) : Value → Nat
  | .table id => (tables id).entries.length
  | _ => 0

theorem IsDeployed.exists_start_portCount (isDeployed : IsDeployed module machine)
    (bounded : entryCount machine.store.table (portsOf module machine) < 2 ^ 31) :
    ∃ after, Configuration.Global.portCount.start machine =
      (.ok (Int32.ofNat (entryCount machine.store.table (portsOf module machine))), after) := by
  obtain ⟨callable, outcome, after, isFunction, called, answered⟩ :=
    isDeployed.exists_call_portCount
  have counts := Counts.computed
    (start_function_of_function isDeployed.configured isDeployed.unguarded isFunction) called
  refine ⟨after, ?_⟩
  rw [counts.start_portCount, answered]
  generalize portsOf module machine = value at bounded ⊢
  cases value with
  | table id => exact congrArg (fun count => (Except.ok count, after)) (countOf_length bounded)
  | nil | boolean _ | integer _ | number _ | text _ | bytes _ | function _ | failure _ => rfl

/-- The number of ports that are listed where there is no function that counts them. -/
theorem exists_start_portCount_listed (configured : globalValue machine = .table module)
    (unguarded : (machine.store.table module).readHandler = .nil)
    (absent : (machine.store.table module).get (.text "num_ports") = .nil) :
    ∃ after, Configuration.Global.portCount.start machine =
      (.ok (Int32.ofNat (entryCount machine.store.table (portsOf module machine))), after) := by
  have noFunction := start_function_of_absent configured unguarded absent
  have ports := start_category_of_unguarded configured unguarded "ports"
  change (category "ports").start machine = (.ok (asTable? (portsOf module machine)), _) at ports
  generalize portsOf module machine = value at ports ⊢
  cases value with
  | table id => exact ⟨machine, (Counts.listed noFunction ports).start_portCount⟩
  | nil | boolean _ | integer _ | number _ | text _ | bytes _ | function _ | failure _ =>
      exact ⟨machine, (Counts.unlisted noFunction ports).start_portCount⟩

/-- There are no more symbols with a port than ports are counted. -/
def CountsEnough (machine : Machine σ) : Prop :=
  ∀ symbols : Finset String,
    (∀ symbol ∈ symbols, ∃ port, 0 ≤ port ∧
      ((Configuration.Global.port symbol).start machine).1 = .ok port) →
    ∃ count, (Configuration.Global.portCount.start machine).1 = .ok count ∧
      (symbols.card : Int) ≤ count.toInt

theorem card_le_length {table : Table} {symbols : Finset String}
    (present : ∀ symbol ∈ symbols, table.get (.text symbol) ≠ .nil) :
    symbols.card ≤ table.entries.length := by
  have keys : symbols.image Key.text ⊆ (table.entries.map Prod.fst).toFinset := by
    intro key member
    obtain ⟨symbol, isSymbol, rfl⟩ := Finset.mem_image.mp member
    have entry := present symbol isSymbol
    unfold Table.get at entry
    cases found : table.entries.lookup (.text symbol) with
    | none => exact absurd (by rw [found]; rfl) entry
    | some value =>
        exact List.mem_toFinset.mpr (List.mem_map_of_mem (Text.mem_of_lookup_eq_some found))
  calc symbols.card
      = (symbols.image Key.text).card :=
        (Finset.card_image_of_injective _ fun _ _ => Key.text.inj).symm
    _ ≤ (table.entries.map Prod.fst).toFinset.card := Finset.card_le_card keys
    _ ≤ (table.entries.map Prod.fst).length := List.toFinset_card_le _
    _ = table.entries.length := List.length_map _

theorem start_port_unnamed (machine : Machine σ) :
    (Configuration.Global.port "").start machine = (.ok noPort, machine) :=
  (Finds.unnamed rfl).start_port

/-- Ports without handlers are counted by their entries, of which a symbol with a port has one. -/
theorem countsEnough_of_unguarded {id : Nat}
    (unguarded : (machine.store.table id).readHandler = .nil)
    (bounded : (machine.store.table id).entries.length < 2 ^ 31)
    (ports : ∀ symbol ≠ "", ∃ after, (Configuration.Global.port symbol).start machine =
      (.ok (portThrough machine.store.table symbol handlerLimit (.table id)), after))
    (count : ∃ after, Configuration.Global.portCount.start machine =
      (.ok (Int32.ofNat (machine.store.table id).entries.length), after)) :
    CountsEnough machine := by
  intro symbols reads
  have present : ∀ symbol ∈ symbols, (machine.store.table id).get (.text symbol) ≠ .nil := by
    intro symbol member absent
    obtain ⟨port, nonnegative, read⟩ := reads symbol member
    have none : port = noPort := by
      by_cases named : symbol = ""
      · rw [named, start_port_unnamed] at read
        exact (Except.ok.inj read).symm
      · obtain ⟨after, listed⟩ := ports symbol named
        unfold portThrough handlerLimit at listed
        rw [readThrough_of_unguarded unguarded, absent] at listed
        rw [listed] at read
        exact (Except.ok.inj read).symm
    rw [none] at nonnegative
    exact absurd nonnegative (by decide)
  obtain ⟨after, counted⟩ := count
  refine ⟨_, by rw [counted], ?_⟩
  rw [Int32.toInt_ofNat_of_lt bounded]
  exact_mod_cast card_le_length present

/-! ## Both ways -/

theorem entryCount_withoutFunctions {value : Value} (other : value ≠ .table module) :
    entryCount (withoutFunctions module machine).store.table value =
      entryCount machine.store.table value := by
  cases value with
  | table id =>
      unfold entryCount
      dsimp only
      rw [table_withoutFunctions_of_ne fun same => other (congrArg Value.table same)]
  | nil | boolean _ | integer _ | number _ | text _ | bytes _ | function _ | failure _ => rfl

/-- Entries that are taken out make a table no longer. -/
theorem length_withoutFunctions_le (id : Nat) :
    ((withoutFunctions module machine).store.table id).entries.length ≤
      (machine.store.table id).entries.length := by
  have shorter (name : String) (machine : Machine σ) :
      ((setEntry module name .nil machine).store.table id).entries.length ≤
        (machine.store.table id).entries.length := by
    rcases Store.table_modifyTable machine.store module id fun table =>
      table.set (.text name) .nil with same | changed
    · exact (congrArg (·.entries.length) same).le
    · exact (congrArg (·.entries.length) changed).le.trans (List.length_filter_le _ _)
  exact (shorter _ _).trans (shorter _ _)

/-- Functions that are handlers of the ports raise for a symbol: when the function for ports reads
them, which has a variable for the symbol, and when the host does. -/
def HandlersRaise (module : Nat) (symbol : String) (machine : Machine σ) : Prop :=
  ∀ handler, Leads machine.store.table (portsOf module machine) (.function handler) →
    RaisesFor (callAt 199) symbol (addCell (.text symbol) machine) handler ∧
      RaisesFor (callAt callLimit) symbol (withoutFunctions module machine) handler

theorem handlersRaise_of_unguarded {id : Nat} (ports : portsOf module machine = .table id)
    (unguarded : (machine.store.table id).readHandler = .nil) (symbol : String) :
    HandlersRaise module symbol machine := by
  intro handler leads
  rw [ports] at leads
  rcases leads.of_unguarded unguarded with same | same <;> cases same

namespace IsDeployed

variable (isDeployed : IsDeployed module machine) {symbol : String}
include isDeployed

/-- The port that is read where the functions are taken out. -/
theorem exists_start_port_withoutFunctions (named : symbol ≠ "")
    (raise : HandlersRaise module symbol machine) :
    ∃ after, (Configuration.Global.port symbol).start (withoutFunctions module machine) =
      (.ok (portThrough (withoutFunctions module machine).store.table symbol handlerLimit
        (portsOf module machine)), after) := by
  rw [← isDeployed.portsOf_withoutFunctions]
  refine exists_start_port_listed named isDeployed.configured_withoutFunctions
    isDeployed.unguarded_withoutFunctions (isDeployed.absent_withoutFunctions (.inl rfl)) ?_
  intro handler leads
  rw [isDeployed.portsOf_withoutFunctions] at leads
  exact (raise handler (leads_of_withoutFunctions leads)).2

/-- The number of ports where the functions are taken out. -/
theorem exists_start_portCount_withoutFunctions :
    ∃ after, Configuration.Global.portCount.start (withoutFunctions module machine) =
      (.ok (Int32.ofNat (entryCount (withoutFunctions module machine).store.table
        (portsOf module machine))), after) := by
  rw [← isDeployed.portsOf_withoutFunctions]
  exact exists_start_portCount_listed isDeployed.configured_withoutFunctions
    isDeployed.unguarded_withoutFunctions (isDeployed.absent_withoutFunctions (.inr rfl))

end IsDeployed

/-- The deployed configuration has the same ports with its functions and without them where handlers
that are functions raise, and it has as many unless it is listed as its own ports. With ports that
have no handler there are no more symbols with a port than ports are counted. -/
theorem port_paths_agree (module : Nat) (machine : Machine σ)
    (isDeployed : IsDeployed module machine) :
    (∀ symbol, HandlersRaise module symbol machine → ∃ port,
      ((Configuration.Global.port symbol).start machine).1 = .ok port ∧
      ((Configuration.Global.port symbol).start (withoutFunctions module machine)).1 = .ok port) ∧
    (entryCount machine.store.table (portsOf module machine) < 2 ^ 31 →
      (portsOf module machine ≠ .table module → ∃ count,
        (Configuration.Global.portCount.start machine).1 = .ok count ∧
        (Configuration.Global.portCount.start (withoutFunctions module machine)).1 = .ok count) ∧
      ∀ id, portsOf module machine = .table id → (machine.store.table id).readHandler = .nil →
        CountsEnough machine ∧ CountsEnough (withoutFunctions module machine)) := by
  have port {symbol : String} (named : symbol ≠ "") (raise : HandlersRaise module symbol machine) :=
    isDeployed.exists_start_port named fun handler leads => (raise handler leads).1
  have portListed {symbol : String} (named : symbol ≠ "") :=
    @IsDeployed.exists_start_port_withoutFunctions σ module machine isDeployed symbol named
  refine ⟨?_, ?_⟩
  · intro symbol raise
    by_cases named : symbol = ""
    · rw [named, start_port_unnamed, start_port_unnamed]
      exact ⟨noPort, rfl, rfl⟩
    · obtain ⟨after, answered⟩ := port named raise
      obtain ⟨afterListed, listed⟩ := portListed named raise
      rw [answered, listed, isDeployed.portThrough_withoutFunctions]
      exact ⟨_, rfl, rfl⟩
  intro bounded
  obtain ⟨afterCount, counts⟩ := isDeployed.exists_start_portCount bounded
  obtain ⟨afterCountListed, countsListed⟩ := isDeployed.exists_start_portCount_withoutFunctions
  refine ⟨?_, ?_⟩
  · intro other
    rw [counts, countsListed, entryCount_withoutFunctions other]
    exact ⟨_, rfl, rfl⟩
  · intro id ports unguarded
    have raise := handlersRaise_of_unguarded ports unguarded
    rw [ports] at counts countsListed port portListed bounded
    have boundedListed :
        ((withoutFunctions module machine).store.table id).entries.length < 2 ^ 31 :=
      (length_withoutFunctions_le id).trans_lt bounded
    have unguardedListed :
        ((withoutFunctions module machine).store.table id).readHandler = .nil := by
      rw [handlers_withoutFunctions, unguarded]
    exact ⟨countsEnough_of_unguarded unguarded bounded
        (fun symbol named => port named (raise symbol)) ⟨afterCount, counts⟩,
      countsEnough_of_unguarded unguardedListed boundedListed
        (fun symbol named => portListed named (raise symbol)) ⟨afterCountListed, countsListed⟩⟩

namespace NewMachine

/-! The module is loaded on a machine with a table of ports whose handler raises. -/

def ports : Table where
  entries := [(.text "arm", .integer 5), (.text "lamp", .text "6")]
  readHandler := .function (.builtin .error)

def started : Machine Unit where
  store := { tables := #[Store.initialGlobals, Store.initialPackage, {}, ports] }
  native := ()

/-- The module is the fifth table. -/
def listing (value : Value) : Machine Unit :=
  deploy 4 value ((Run.chunk configuration []).start started).2

theorem isDeployed_listing (value : Value) :
    IsDeployed 4 (listing value) ∧ portsOf 4 (listing value) = value ∧
      (listing value).store.table 3 = ports := by
  obtain ⟨after, ran, isModule, kept, port, portCount⟩ := exists_start_configuration started rfl
  rw [listing, ran]
  refine ⟨isDeployed_deploy isModule port portCount value, get_deploy isModule value, ?_⟩
  exact (table_deploy (by decide) (by decide) value).trans (kept 3 (by decide))

theorem leads_ports {value reached : Value}
    (leads : Leads (listing value).store.table (.table 3) reached) :
    reached = .table 3 ∨ reached = .function (.builtin .error) := by
  induction leads with
  | refl => exact .inl rfl
  | handler _ ih =>
      rcases ih with same | other
      · cases same
        rw [(isDeployed_listing value).2.2]
        exact .inr rfl
      · cases other

theorem handlersRaise_listing (symbol : String) : HandlersRaise 4 symbol (listing (.table 3)) := by
  intro handler leads
  rw [(isDeployed_listing _).2.1] at leads
  rcases leads_ports leads with same | same
  · cases same
  · cases same
    exact ⟨fun id => ⟨_, _, rfl⟩, fun id => ⟨_, _, rfl⟩⟩

end NewMachine

open NewMachine in
theorem port_paths_agree_with_raising_handler :
    (∀ symbol, ∃ port,
      ((Configuration.Global.port symbol).start (listing (.table 3))).1 = .ok port ∧
      ((Configuration.Global.port symbol).start
        (withoutFunctions 4 (listing (.table 3)))).1 = .ok port) ∧
    ∃ count, (Configuration.Global.portCount.start (listing (.table 3))).1 = .ok count ∧
      (Configuration.Global.portCount.start
        (withoutFunctions 4 (listing (.table 3)))).1 = .ok count := by
  obtain ⟨isDeployed, isListed, isKept⟩ := isDeployed_listing (.table 3)
  obtain ⟨samePort, bound⟩ := port_paths_agree 4 _ isDeployed
  have bounded : entryCount (listing (.table 3)).store.table
      (portsOf 4 (listing (.table 3))) < 2 ^ 31 := by
    rw [isListed, entryCount, isKept]
    decide
  have other : portsOf 4 (listing (.table 3)) ≠ .table 4 := by
    rw [isListed]
    nofun
  exact ⟨fun symbol => samePort symbol (handlersRaise_listing symbol), (bound bounded).1 other⟩

open NewMachine in
theorem self_listed_module_loses_two_ports :
    IsDeployed 4 (listing (.table 4)) ∧ portsOf 4 (listing (.table 4)) = .table 4 ∧
      (Configuration.Global.portCount.start (listing (.table 4))).1.toOption = some 8 ∧
      (Configuration.Global.portCount.start
        (withoutFunctions 4 (listing (.table 4)))).1.toOption = some 6 :=
  ⟨(isDeployed_listing _).1, (isDeployed_listing _).2.1, by decide +kernel, by decide +kernel⟩

end ScriptedRobot.Deployed
