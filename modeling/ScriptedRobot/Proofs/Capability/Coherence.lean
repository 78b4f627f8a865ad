import ScriptedRobot.Capability.Publication
import ScriptedRobot.Proofs.Script.Tables
import ScriptedRobot.Proofs.Text.Alphabetical
import Mathlib.Data.List.Nodup

/-! # Coherent registries

The registry keeps every function it ever handed out, and for every module the functions of the
latest publication. It is *coherent* if what it records is true and a live function is never
forgotten: then whatever a publication or a retraction switches off is all there is to switch
off. Both keep a registry coherent as long as a module has one function for a symbol. -/

namespace ScriptedRobot

namespace Capability

open Text

theorem get_moduleEntries (grants : List (String × Nat)) (symbol : String) :
    (moduleEntries grants).get (.text symbol) =
      match grants.reverse.lookup symbol with
      | some grant => .function (.capability grant)
      | none => .nil := by
  refine (Script.Table.get_setFunctions .capability {} grants symbol).trans ?_
  cases grants.reverse.lookup symbol with
  | some grant => rfl
  | none => rfl

theorem lookup_foldl_insertSorted (grants sorted : List (String × Nat)) (symbol : String) :
    (grants.foldl (fun sorted (symbol, grant) => insertSorted symbol grant sorted)
      sorted).lookup symbol = (grants.reverse.lookup symbol).or (sorted.lookup symbol) := by
  induction grants generalizing sorted with
  | nil => rfl
  | cons head rest ih =>
      rw [List.foldl_cons, ih, lookup_insertSorted, List.reverse_cons, List.lookup_append,
        Option.or_assoc]
      congr 1
      rw [lookup_cons_eq_ite, List.lookup_nil]
      by_cases same : symbol = head.1
      · simp only [same, ↓reduceIte, Option.some_or]
      · simp only [same, ↓reduceIte, Option.none_or]

/-- What is recorded for a symbol is what the table holds for it. -/
theorem lookup_sortGrants (grants : List (String × Nat)) (symbol : String) :
    (sortGrants grants).lookup symbol = grants.reverse.lookup symbol := by
  rw [sortGrants, lookup_foldl_insertSorted]
  exact Option.or_none

theorem lookup_reverse_of_nodup {grants : List (String × Nat)}
    (distinct : (grants.map Prod.fst).Nodup) (symbol : String) :
    grants.reverse.lookup symbol = grants.lookup symbol := by
  have distinctReverse : (grants.reverse.map Prod.fst).Nodup := by
    rw [List.map_reverse, List.nodup_reverse]
    exact distinct
  refine Option.ext fun grant => ⟨fun found => ?_, fun found => ?_⟩
  · exact lookup_eq_some_of_mem distinct (List.mem_reverse.mp (mem_of_lookup_eq_some found))
  · exact lookup_eq_some_of_mem distinctReverse
      (List.mem_reverse.mpr (mem_of_lookup_eq_some found))

theorem lookup_sortGrants_of_nodup {grants : List (String × Nat)}
    (distinct : (grants.map Prod.fst).Nodup) (symbol : String) :
    (sortGrants grants).lookup symbol = grants.lookup symbol :=
  (lookup_sortGrants grants symbol).trans (lookup_reverse_of_nodup distinct symbol)

theorem exists_lookup_reverse {α : Type} {entries : List (String × α)} {name : String}
    (member : name ∈ entries.map Prod.fst) :
    ∃ value, entries.reverse.lookup name = some value ∧ (name, value) ∈ entries := by
  have present : (entries.reverse.lookup name).isSome = true := by
    rw [Text.isSome_lookup_iff, List.map_reverse, List.mem_reverse]
    exact member
  obtain ⟨value, found⟩ := Option.isSome_iff_exists.mp present
  exact ⟨value, found, List.mem_reverse.mp (Text.mem_of_lookup_eq_some found)⟩

theorem mem_foldl_insertSorted {grants sorted : List (String × Nat)} {entry : String × Nat}
    (member : entry ∈ grants.foldl (fun sorted (symbol, grant) =>
      insertSorted symbol grant sorted) sorted) : entry ∈ grants ∨ entry ∈ sorted := by
  induction grants generalizing sorted with
  | nil => exact .inr member
  | cons head rest ih =>
      rcases ih member with later | earlier
      · exact .inl (List.mem_cons_of_mem _ later)
      · rcases mem_insertSorted earlier with rfl | kept
        · exact .inl List.mem_cons_self
        · exact .inr kept

theorem mem_of_mem_sortGrants {grants : List (String × Nat)} {entry : String × Nat}
    (member : entry ∈ sortGrants grants) : entry ∈ grants :=
  (mem_foldl_insertSorted member).resolve_right List.not_mem_nil

namespace Registry

variable {σ : Type}

/-- Switch off several functions. -/
def switchOffAll (registry : Registry σ) (grants : List Nat) : Registry σ :=
  grants.foldl switchOff registry

@[simp] theorem modules_switchOffAll (registry : Registry σ) (grants : List Nat) :
    (registry.switchOffAll grants).modules = registry.modules := by
  induction grants generalizing registry with
  | nil => rfl
  | cons grant rest ih => exact ih (registry.switchOff grant)

@[simp] theorem symbolsOf_switchOffAll (registry : Registry σ) (grants : List Nat)
    (module : String) : (registry.switchOffAll grants).symbolsOf module =
      registry.symbolsOf module := by
  unfold symbolsOf
  rw [modules_switchOffAll]

@[simp] theorem size_switchOffAll (registry : Registry σ) (grants : List Nat) :
    (registry.switchOffAll grants).grants.size = registry.grants.size := by
  induction grants generalizing registry with
  | nil => rfl
  | cons grant rest ih =>
      refine (ih (registry.switchOff grant)).trans ?_
      exact Array.size_modify

/-- Switching off only takes the life from the functions it names. -/
theorem getElem?_switchOffAll (registry : Registry σ) (grants : List Nat) (id : Nat) :
    (registry.switchOffAll grants).grants[id]? =
      registry.grants[id]?.map fun entry =>
        { entry with live := entry.live && !grants.contains id } := by
  induction grants generalizing registry with
  | nil =>
      change registry.grants[id]? = _
      simp only [List.contains_nil, Bool.not_false, Bool.and_true, Option.map_id']
  | cons grant rest ih =>
      refine (ih (registry.switchOff grant)).trans ?_
      simp only [switchOff, Array.getElem?_modify, List.contains_cons]
      by_cases same : grant = id
      · simp only [same, ↓reduceIte, Option.map_map, beq_self_eq_true, Bool.true_or,
          Bool.not_true, Bool.and_false]
        congr 1
      · have different : (id == grant) = false := beq_eq_false_iff_ne.mpr (Ne.symm same)
        simp only [same, ↓reduceIte, different, Bool.false_or]

theorem retire_eq (registry : Registry σ) (module : String) :
    registry.retire module =
      (registry.switchOffAll ((registry.symbolsOf module).map Prod.snd)).withdraw module := by
  unfold retire switchOffAll
  rw [List.foldl_map]

@[simp] theorem grants_retire (registry : Registry σ) (module : String) :
    (registry.retire module).grants =
      (registry.switchOffAll ((registry.symbolsOf module).map Prod.snd)).grants := by
  rw [retire_eq]
  rfl

@[simp] theorem size_retire (registry : Registry σ) (module : String) :
    (registry.retire module).grants.size = registry.grants.size := by
  rw [grants_retire, size_switchOffAll]

theorem symbolsOf_retire {registry : Registry σ} {module other : String} (different : other ≠ module) :
    (registry.retire module).symbolsOf other = registry.symbolsOf other := by
  rw [retire_eq]
  unfold symbolsOf withdraw
  rw [modules_switchOffAll, lookup_filter_ne, if_neg different]

theorem symbolsOf_record (registry : Registry σ) (module other : String)
    (symbols : List (String × Nat)) :
    (registry.record module symbols).symbolsOf other =
      if other = module then symbols else registry.symbolsOf other := by
  unfold symbolsOf record
  rw [lookup_insertSorted]
  split <;> rfl

theorem symbolsOf_of_not_isPublished {registry : Registry σ} {module : String}
    (unknown : ¬ registry.isPublished module = true) : registry.symbolsOf module = [] := by
  unfold isPublished at unknown
  unfold symbolsOf
  cases found : registry.modules.lookup module with
  | none => rfl
  | some symbols => exact (unknown (by rw [found]; rfl)).elim

theorem isLive_of_lookup {registry : Registry σ} {module symbol : String} {grant : Nat}
    (looked : (registry.symbolsOf module).lookup symbol = some grant) :
    registry.isLive module symbol = registry.isLiveGrant grant := by
  rw [isLive, looked]
  rfl

theorem isLive_of_lookup_none {registry : Registry σ} {module symbol : String}
    (looked : (registry.symbolsOf module).lookup symbol = none) :
    registry.isLive module symbol = false := by
  rw [isLive, looked]
  rfl

theorem isLiveGrant_of_getElem? {registry : Registry σ} {grant : Nat} {entry : Grant σ}
    (found : registry.grants[grant]? = some entry) : registry.isLiveGrant grant = entry.live := by
  rw [isLiveGrant, found]
  rfl

/-- The functions handed out are numbered on from those there are. -/
theorem handOutAll_fst (module : String) (capabilities : List (Capability σ))
    (registry : Registry σ) :
    (handOutAll module capabilities registry).1 =
      (capabilities.zipIdx registry.grants.size).map fun (capability, grant) =>
        (capability.symbol, grant) := by
  induction capabilities generalizing registry with
  | nil => rfl
  | cons capability rest ih =>
      simp only [handOutAll, handOut, ih, Array.size_push, List.zipIdx_cons, List.map_cons]

theorem handOutAll_snd (module : String) (capabilities : List (Capability σ))
    (registry : Registry σ) :
    (handOutAll module capabilities registry).2 =
      { registry with
        grants := registry.grants ++
          (capabilities.map fun capability => (⟨module, capability, true⟩ : Grant σ)).toArray } := by
  induction capabilities generalizing registry with
  | nil => simp only [handOutAll, List.map_nil, Array.append_empty]
  | cons capability rest ih =>
      simp only [handOutAll, handOut, ih, List.map_cons]
      congr 1
      simp

theorem mem_handOutAll {module symbol : String} {capabilities : List (Capability σ)}
    {registry : Registry σ} {grant : Nat} :
    (symbol, grant) ∈ (handOutAll module capabilities registry).1 ↔
      ∃ position capability, capabilities[position]? = some capability ∧
        capability.symbol = symbol ∧ registry.grants.size + position = grant := by
  rw [handOutAll_fst, List.mem_map]
  constructor
  · rintro ⟨⟨capability, index⟩, member, same⟩
    obtain ⟨reached, found⟩ := List.mk_mem_zipIdx_iff_le_and_getElem?_sub.mp member
    obtain ⟨rfl, rfl⟩ := Prod.mk.inj same
    exact ⟨index - registry.grants.size, capability, found, rfl, Nat.add_sub_cancel' reached⟩
  · rintro ⟨position, capability, found, rfl, rfl⟩
    exact ⟨(capability, registry.grants.size + position),
      List.mk_add_mem_zipIdx_iff_getElem?.mpr found, rfl⟩

theorem map_fst_handOutAll (module : String) (capabilities : List (Capability σ))
    (registry : Registry σ) :
    (handOutAll module capabilities registry).1.map Prod.fst =
      capabilities.map Capability.symbol := by
  induction capabilities generalizing registry with
  | nil => rfl
  | cons capability rest ih => simp only [handOutAll, List.map_cons, ih]

/-- The functions that a publication hands out. -/
def handedOut (registry : Registry σ) (module : String) (capabilities : List (Capability σ)) :
    List (String × Nat) :=
  ((registry.retire module).handOutAll module capabilities).1

/-- The table that a publication makes for the module. -/
def offered (registry : Registry σ) (module : String) (capabilities : List (Capability σ)) :
    Script.Table :=
  moduleEntries (registry.handedOut module capabilities)

/-- The registry after a publication. -/
def published (registry : Registry σ) (module : String) (capabilities : List (Capability σ)) :
    Registry σ :=
  (handOutAll module capabilities (registry.retire module)).2.record module
    (sortGrants (registry.handedOut module capabilities))

/-- The registry after a retraction. -/
def retracted (registry : Registry σ) (module : String) (symbols : List String) : Registry σ :=
  registry.switchOffAll (symbols.filterMap fun symbol => (registry.symbolsOf module).lookup symbol)

theorem mem_handedOut {registry : Registry σ} {module symbol : String}
    {capabilities : List (Capability σ)} {grant : Nat} :
    (symbol, grant) ∈ registry.handedOut module capabilities ↔
      ∃ position capability, capabilities[position]? = some capability ∧
        capability.symbol = symbol ∧ registry.grants.size + position = grant := by
  unfold handedOut
  rw [mem_handOutAll, size_retire]

theorem map_fst_handedOut (registry : Registry σ) (module : String)
    (capabilities : List (Capability σ)) :
    (registry.handedOut module capabilities).map Prod.fst =
      capabilities.map Capability.symbol :=
  map_fst_handOutAll module capabilities _

theorem nodup_handedOut {registry : Registry σ} {module : String}
    {capabilities : List (Capability σ)} (distinct : (capabilities.map Capability.symbol).Nodup) :
    ((registry.handedOut module capabilities).map Prod.fst).Nodup := by
  rw [map_fst_handedOut]
  exact distinct

/-- The new table holds for every symbol the function that was handed out for it. -/
theorem get_offered {registry : Registry σ} {module : String} {capabilities : List (Capability σ)}
    (distinct : (capabilities.map Capability.symbol).Nodup) {symbol : String} {grant : Nat}
    (handed : (symbol, grant) ∈ registry.handedOut module capabilities) :
    (registry.offered module capabilities).get (.text symbol) = .function (.capability grant) := by
  rw [offered, get_moduleEntries, lookup_reverse_of_nodup (nodup_handedOut distinct),
    lookup_eq_some_of_mem (nodup_handedOut distinct) handed]

theorem symbolsOf_published (registry : Registry σ) (module other : String)
    (capabilities : List (Capability σ)) :
    (registry.published module capabilities).symbolsOf other =
      if other = module then sortGrants (registry.handedOut module capabilities)
      else registry.symbolsOf other := by
  unfold published
  rw [symbolsOf_record, handOutAll_snd]
  split
  · rfl
  · rename_i different
    exact symbolsOf_retire different

/-- A publication switches the functions of the module off and adds live ones. -/
theorem getElem?_published (registry : Registry σ) (module : String)
    (capabilities : List (Capability σ)) (id : Nat) :
    (registry.published module capabilities).grants[id]? =
      if id < registry.grants.size then
        registry.grants[id]?.map fun entry =>
          { entry with
            live := entry.live && !((registry.symbolsOf module).map Prod.snd).contains id }
      else capabilities[id - registry.grants.size]?.map fun capability =>
        ⟨module, capability, true⟩ := by
  unfold published record
  rw [handOutAll_snd]
  dsimp only
  rw [Array.getElem?_append, size_retire, grants_retire, getElem?_switchOffAll]
  split
  · rfl
  · rw [List.getElem?_toArray, List.getElem?_map]

section Recorded

variable {registry : Registry σ} {module : String} {capabilities : List (Capability σ)}

/-- What is recorded was handed out for that symbol of that module. -/
def Recorded (registry : Registry σ) : Prop :=
  ∀ module symbol grant, (symbol, grant) ∈ registry.symbolsOf module →
    ∃ entry, registry.grants[grant]? = some entry ∧ entry.module = module ∧
      entry.capability.symbol = symbol

theorem recorded_empty : Recorded ({} : Registry σ) := by
  intro _ _ _ member
  cases member

/-- A function handed out by a publication is live and knows its module and symbol. -/
theorem getElem?_of_handedOut {symbol : String} {grant : Nat}
    (handed : (symbol, grant) ∈ registry.handedOut module capabilities) :
    ∃ capability ∈ capabilities, capability.symbol = symbol ∧
      (registry.published module capabilities).grants[grant]? =
        some ⟨module, capability, true⟩ := by
  obtain ⟨position, capability, placed, named, rfl⟩ := mem_handedOut.mp handed
  refine ⟨capability, List.mem_of_getElem? placed, named, ?_⟩
  rw [getElem?_published, if_neg (Nat.not_lt.mpr (Nat.le_add_right _ _)),
    Nat.add_sub_cancel_left, placed]
  rfl

theorem getElem?_published_of_getElem? {grant : Nat} {entry : Grant σ}
    (found : registry.grants[grant]? = some entry) :
    (registry.published module capabilities).grants[grant]? =
      some { entry with
        live := entry.live && !((registry.symbolsOf module).map Prod.snd).contains grant } := by
  obtain ⟨inside, _⟩ := Array.getElem?_eq_some_iff.mp found
  rw [getElem?_published, if_pos inside, found]
  rfl

theorem getElem?_retracted_of_getElem? {symbols : List String} {grant : Nat} {entry : Grant σ}
    (found : registry.grants[grant]? = some entry) :
    (registry.retracted module symbols).grants[grant]? =
      some { entry with
        live := entry.live && !(symbols.filterMap fun symbol =>
          (registry.symbolsOf module).lookup symbol).contains grant } := by
  rw [retracted, getElem?_switchOffAll, found]
  rfl

theorem symbolsOf_retracted (registry : Registry σ) (module other : String)
    (symbols : List String) :
    (registry.retracted module symbols).symbolsOf other = registry.symbolsOf other :=
  symbolsOf_switchOffAll registry _ other

theorem Recorded.published (recorded : registry.Recorded) (module : String)
    (capabilities : List (Capability σ)) : (registry.published module capabilities).Recorded := by
  intro owner symbol grant member
  rw [symbolsOf_published] at member
  split at member
  case isTrue same =>
    obtain ⟨capability, _, named, found⟩ := getElem?_of_handedOut (mem_of_mem_sortGrants member)
    exact ⟨_, found, same.symm, named⟩
  case isFalse =>
    obtain ⟨entry, found, owned, named⟩ := recorded owner symbol grant member
    exact ⟨_, getElem?_published_of_getElem? found, owned, named⟩

theorem Recorded.retracted (recorded : registry.Recorded) (module : String)
    (symbols : List String) : (registry.retracted module symbols).Recorded := by
  intro owner symbol grant member
  rw [symbolsOf_retracted] at member
  obtain ⟨entry, found, owned, named⟩ := recorded owner symbol grant member
  exact ⟨_, getElem?_retracted_of_getElem? found, owned, named⟩

/-- A function that is recorded for one module is not recorded for another. -/
theorem Recorded.not_mem_of_ne (recorded : registry.Recorded) {owner symbol other : String}
    {grant : Nat} (different : owner ≠ module)
    (member : (symbol, grant) ∈ registry.symbolsOf owner) :
    (other, grant) ∉ registry.symbolsOf module := by
  intro memberOther
  obtain ⟨entry, found, owned, _⟩ := recorded owner symbol grant member
  obtain ⟨entryOther, foundOther, ownedOther, _⟩ := recorded module other grant memberOther
  rw [found, Option.some.injEq] at foundOther
  subst foundOther
  exact different (owned.symm.trans ownedOther)

/-- Functions of one module stay as they are when functions of another are switched off. -/
theorem Recorded.not_contains (recorded : registry.Recorded) {owner symbol : String} {grant : Nat}
    (different : owner ≠ module) (member : (symbol, grant) ∈ registry.symbolsOf owner)
    {retired : List Nat} (owned : ∀ id ∈ retired, ∃ other, (other, id) ∈ registry.symbolsOf module) :
    retired.contains grant = false := by
  rw [← Bool.not_eq_true, List.contains_iff_mem]
  intro switched
  obtain ⟨other, memberOther⟩ := owned grant switched
  exact recorded.not_mem_of_ne different member memberOther

theorem isPublished_published (registry : Registry σ) (module other : String)
    (capabilities : List (Capability σ)) :
    (registry.published module capabilities).isPublished other = true ↔
      other = module ∨ registry.isPublished other = true := by
  unfold isPublished published record
  rw [Text.lookup_insertSorted, handOutAll_snd, retire_eq]
  dsimp only [withdraw]
  rw [modules_switchOffAll, Text.lookup_filter_ne]
  by_cases same : other = module
  · simp only [same, ↓reduceIte, Option.isSome_some, true_or]
  · simp only [same, ↓reduceIte, false_or]

theorem isPublished_retracted (registry : Registry σ) (module other : String)
    (symbols : List String) :
    (registry.retracted module symbols).isPublished other = registry.isPublished other := by
  unfold isPublished retracted
  rw [modules_switchOffAll]

theorem mem_symbols_iff {symbol : String} :
    symbol ∈ registry.symbols module ↔
      ∃ grant, (registry.symbolsOf module).lookup symbol = some grant := by
  rw [symbols, ← Text.isSome_lookup_iff, Option.isSome_iff_exists]

end Recorded

/-- What is recorded was handed out for that symbol of that module, and what is live is
recorded. -/
structure Coherent (registry : Registry σ) : Prop where
  recorded : ∀ module symbol grant, (symbol, grant) ∈ registry.symbolsOf module →
    ∃ entry, registry.grants[grant]? = some entry ∧ entry.module = module ∧
      entry.capability.symbol = symbol
  live : ∀ (grant : Nat) (entry : Grant σ), registry.grants[grant]? = some entry →
    entry.live = true →
    (registry.symbolsOf entry.module).lookup entry.capability.symbol = some grant

theorem coherent_empty : Coherent ({} : Registry σ) where
  recorded _ _ _ member := by cases member
  live _ _ found := by cases found

namespace Coherent

variable {registry : Registry σ} (coherent : Coherent registry)
include coherent

/-- A live function of a module is among those that the next publication switches off. -/
theorem mem_symbolsOf {grant : Nat} {entry : Grant σ} (found : registry.grants[grant]? = some entry)
    (live : entry.live = true) :
    (entry.capability.symbol, grant) ∈ registry.symbolsOf entry.module :=
  mem_of_lookup_eq_some (coherent.live grant entry found live)

/-- Only functions of the module are switched off by its publication. -/
theorem contains_symbolsOf {module : String} {grant : Nat} {entry : Grant σ}
    (found : registry.grants[grant]? = some entry) :
    (entry.live && !((registry.symbolsOf module).map Prod.snd).contains grant) =
      (entry.live && !(module == entry.module)) := by
  by_cases live : entry.live = true
  · congr 2
    rw [Bool.eq_iff_iff, List.contains_iff_mem, beq_iff_eq]
    constructor
    · intro member
      obtain ⟨⟨symbol, _⟩, recorded, rfl⟩ := List.mem_map.mp member
      obtain ⟨other, sameGrant, owned, _⟩ := coherent.recorded _ _ _ recorded
      rw [found, Option.some.injEq] at sameGrant
      rw [sameGrant, owned]
    · rintro rfl
      exact List.mem_map_of_mem (coherent.mem_symbolsOf found live)
  · rw [Bool.not_eq_true] at live
    simp only [live, Bool.false_and]

/-- Only the named functions of the module are switched off by a retraction. -/
theorem contains_lookup {module : String} {symbols : List String} {grant : Nat} {entry : Grant σ}
    (found : registry.grants[grant]? = some entry) :
    (entry.live && !(symbols.filterMap fun symbol =>
        (registry.symbolsOf module).lookup symbol).contains grant) =
      (entry.live && !(module == entry.module && symbols.contains entry.capability.symbol)) := by
  by_cases live : entry.live = true
  · congr 2
    rw [Bool.eq_iff_iff, List.contains_iff_mem, Bool.and_eq_true, beq_iff_eq, List.contains_iff_mem,
      List.mem_filterMap]
    constructor
    · rintro ⟨symbol, named, looked⟩
      obtain ⟨other, sameGrant, owned, symbolIs⟩ :=
        coherent.recorded _ _ _ (mem_of_lookup_eq_some looked)
      rw [found, Option.some.injEq] at sameGrant
      subst sameGrant
      exact ⟨owned.symm, symbolIs ▸ named⟩
    · rintro ⟨rfl, named⟩
      exact ⟨entry.capability.symbol, named, coherent.live grant entry found live⟩
  · rw [Bool.not_eq_true] at live
    simp only [live, Bool.false_and]

theorem getElem?_published {module : String} {capabilities : List (Capability σ)} {grant : Nat}
    {entry : Grant σ} (found : registry.grants[grant]? = some entry) :
    (registry.published module capabilities).grants[grant]? =
      some { entry with live := entry.live && !(module == entry.module) } := by
  rw [getElem?_published_of_getElem? found, coherent.contains_symbolsOf found]

theorem getElem?_retracted {module : String} {symbols : List String} {grant : Nat}
    {entry : Grant σ} (found : registry.grants[grant]? = some entry) :
    (registry.retracted module symbols).grants[grant]? =
      some { entry with
        live := entry.live &&
          !(module == entry.module && symbols.contains entry.capability.symbol) } := by
  rw [getElem?_retracted_of_getElem? found, coherent.contains_lookup found]

/-- A publication keeps a registry coherent if it has one function for a symbol. -/
theorem published {module : String} {capabilities : List (Capability σ)}
    (distinct : (capabilities.map Capability.symbol).Nodup) :
    Coherent (registry.published module capabilities) where
  recorded := Recorded.published coherent.recorded module capabilities
  live grant entry found live := by
    rw [symbolsOf_published]
    by_cases old : grant < registry.grants.size
    · have before : registry.grants[grant]? = some registry.grants[grant] :=
        Array.getElem?_eq_getElem old
      rw [coherent.getElem?_published before, Option.some.injEq] at found
      subst found
      simp only [Bool.and_eq_true, Bool.not_eq_true', beq_eq_false_iff_ne] at live
      -- An older function that is still live belongs to another module.
      rw [if_neg (Ne.symm live.2)]
      exact coherent.live grant registry.grants[grant] before live.1
    · rw [Registry.getElem?_published, if_neg old, Option.map_eq_some_iff] at found
      obtain ⟨capability, placed, rfl⟩ := found
      have handed : (capability.symbol, grant) ∈ registry.handedOut module capabilities :=
        mem_handedOut.mpr ⟨_, capability, placed, rfl, Nat.add_sub_cancel' (Nat.not_lt.mp old)⟩
      simp only [↓reduceIte]
      rw [lookup_sortGrants_of_nodup (nodup_handedOut distinct)]
      exact lookup_eq_some_of_mem (nodup_handedOut distinct) handed

theorem retracted {module : String} {symbols : List String} :
    Coherent (registry.retracted module symbols) where
  recorded := Recorded.retracted coherent.recorded module symbols
  live grant entry found live := by
    rw [Registry.retracted, symbolsOf_switchOffAll]
    have inside : grant < registry.grants.size := by
      have reached := (Array.getElem?_eq_some_iff.mp found).1
      rwa [Registry.retracted, size_switchOffAll] at reached
    have before : registry.grants[grant]? = some registry.grants[grant] :=
      Array.getElem?_eq_getElem inside
    rw [coherent.getElem?_retracted before, Option.some.injEq] at found
    subst found
    exact coherent.live grant registry.grants[grant] before (Bool.and_eq_true_iff.mp live).1

end Coherent

end Registry

end Capability

end ScriptedRobot
