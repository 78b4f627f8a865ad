import ScriptedRobot.Capability.Publication
import ScriptedRobot.Proofs.Script.Preservation

/-! # What publishing keeps

Publishing and retracting run scripts where tables have handlers. What passes from steps to scripts
passes to them, if the elementary changes of the registry have it too. In particular, a relation
that scripts stay within, and that also allows reports and the changes of the registry, holds
between the machines before and after them, whether they end well or raise. -/

namespace ScriptedRobot

open Script (Failure Run ScriptClosed Tracking Value Vettable)
open Script.Run (Keeps)
open Script.Vettable (IsVetted)

variable {σ : Type}

namespace Script

namespace Tracking

variable {allowed : Failure → Prop} {holds : ∀ {α : Type} [Vettable α], Run σ α → Prop}
  (tracking : Tracking allowed holds)
include tracking

theorem holds_rootTable : holds (Capability.rootTable : Run σ Value) := by
  refine tracking.bind (tracking.holds_getIndex trivial trivial) fun root _ => ?_
  split
  · exact tracking.pure trivial
  · refine tracking.bind (tracking.holds_newTable isVetted_empty) fun table vetted => ?_
    refine tracking.bind (tracking.holds_setIndex trivial trivial vetted) fun _ _ => ?_
    exact tracking.pure vetted

theorem holds_moduleTable (module : String) :
    holds (Capability.moduleTable module : Run σ Value) := by
  refine tracking.bind tracking.holds_rootTable fun root rootVetted => ?_
  refine tracking.bind (tracking.holds_getIndex rootVetted trivial) fun found _ => ?_
  split
  · exact tracking.pure trivial
  · refine tracking.bind (tracking.holds_newTable isVetted_empty) fun table vetted => ?_
    refine tracking.bind (tracking.holds_setIndex rootVetted trivial vetted) fun _ _ => ?_
    exact tracking.pure vetted

end Tracking

namespace ScriptClosed

variable {relation : Machine σ → Machine σ → Prop} (closed : ScriptClosed relation)
include closed

theorem keeps_rootTable : Keeps relation (Capability.rootTable : Run σ Value) :=
  closed.compositional.tracking.holds_rootTable

theorem keeps_moduleTable (module : String) :
    Keeps relation (Capability.moduleTable module : Run σ Value) :=
  closed.compositional.tracking.holds_moduleTable module

end ScriptClosed

end Script

namespace Capability

theorem vetted_setFunctions {allowed : Failure → Prop} {table : Script.Table}
    (vetted : IsVetted allowed table) (grants : List (String × Nat)) :
    IsVetted allowed (table.setFunctions .capability grants) := by
  induction grants generalizing table with
  | nil => exact vetted
  | cons grant rest ih => exact ih (Script.Table.isVetted_set vetted trivial trivial)

theorem vetted_moduleEntries {allowed : Failure → Prop} (grants : List (String × Nat)) :
    IsVetted allowed (moduleEntries grants) :=
  vetted_setFunctions Script.isVetted_empty grants

/-- A property that passes from steps to scripts, and that steps of the host have too: it looks at
the machine, reports, hands out functions for some capabilities, switches functions off, and
records or forgets modules. -/
structure HostTracked (allowed : Failure → Prop) (admitted : Capability σ → Prop)
    (holds : ∀ {α : Type} [Vettable α], Run σ α → Prop) : Prop
    extends Tracking allowed holds where
  machine : holds (get : Run σ (Script.Machine σ))
  note : ∀ severity message, holds (note severity message : Run σ Unit)
  handOutAll : ∀ module {capabilities}, (∀ capability ∈ capabilities, admitted capability) →
    holds (modifyGet fun machine =>
      let (grants, registry) := machine.registry.handOutAll module capabilities
      (grants, { machine with registry }) : Run σ (List (String × Nat)))
  switchOff : ∀ grant,
    holds (changeRegistry fun registry => registry.switchOff grant : Run σ Unit)
  retire : ∀ module, holds (changeRegistry fun registry => registry.retire module : Run σ Unit)
  record : ∀ module symbols,
    holds (changeRegistry fun registry => registry.record module symbols : Run σ Unit)

namespace HostTracked

variable {allowed : Failure → Prop} {admitted : Capability σ → Prop}
  {holds : ∀ {α : Type} [Vettable α], Run σ α → Prop}
  (tracked : HostTracked allowed admitted holds)
include tracked

theorem holds_publish {capabilities : List (Capability σ)}
    (admittedAll : ∀ capability ∈ capabilities, admitted capability) (module : String) :
    holds (publish module capabilities) := by
  unfold publish
  refine tracked.bind (tracked.retire module) fun _ _ => ?_
  refine tracked.bind (tracked.handOutAll module admittedAll) fun grants _ => ?_
  refine tracked.bind (tracked.holds_newTable (vetted_moduleEntries grants)) fun table vetted => ?_
  refine tracked.bind tracked.holds_rootTable fun root rootVetted => ?_
  refine tracked.bind (tracked.holds_setIndex rootVetted trivial vetted) fun _ _ => ?_
  refine tracked.bind (tracked.note _ _) fun _ _ => ?_
  exact tracked.record _ _

theorem holds_retractGrant {table : Value} (vetted : IsVetted allowed table) (symbol : String)
    (grant : Nat) : holds (retractGrant table symbol grant : Run σ Unit) := by
  unfold retractGrant
  refine tracked.bind (tracked.switchOff grant) fun _ _ => ?_
  refine tracked.bind tracked.machine fun machine _ => ?_
  split
  · exact tracked.holds_setIndex vetted trivial trivial
  · exact tracked.pure trivial

theorem holds_retractEach {table : Value} (vetted : IsVetted allowed table)
    (published : List (String × Nat)) (symbols : List String) :
    holds (retractEach table published symbols : Run σ Nat) := by
  induction symbols with
  | nil => exact tracked.pure trivial
  | cons symbol rest ih =>
      unfold retractEach
      split
      · exact ih
      · refine tracked.bind (tracked.holds_retractGrant vetted _ _) fun _ _ => ?_
        exact tracked.bind ih fun _ _ => tracked.pure trivial

theorem holds_retract (module : String) (symbols : List String) :
    holds (retract module symbols : Run σ Unit) := by
  unfold retract
  refine tracked.bind tracked.machine fun machine _ => ?_
  dsimp only
  split
  · refine tracked.bind (tracked.holds_moduleTable _) fun table vetted => ?_
    refine tracked.bind (tracked.holds_retractEach vetted _ _) fun count _ => ?_
    exact tracked.note _ _
  · exact tracked.note _ _

end HostTracked

/-- A relation that scripts stay within, and the host too while it hands out functions for some
capabilities, switches functions off, and records or forgets modules. -/
structure HostClosed (admitted : Capability σ → Prop)
    (relation : Script.Machine σ → Script.Machine σ → Prop) : Prop
    extends ScriptClosed relation where
  journal : ∀ machine journal, relation machine { machine with journal }
  handOut : ∀ machine module capability, admitted capability →
    relation machine { machine with registry := (machine.registry.handOut module capability).2 }
  switchOff : ∀ machine grant,
    relation machine { machine with registry := machine.registry.switchOff grant }
  modules : ∀ machine modules,
    relation machine { machine with registry := { machine.registry with modules } }

namespace HostClosed

variable {admitted : Capability σ → Prop}
  {relation : Script.Machine σ → Script.Machine σ → Prop} (closed : HostClosed admitted relation)
include closed

theorem keeps_switchOffAll (grants : List (String × Nat)) (machine : Script.Machine σ) :
    relation machine { machine with
      registry := grants.foldl (fun registry symbol => registry.switchOff symbol.2)
        machine.registry } := by
  induction grants generalizing machine with
  | nil => exact closed.refl machine
  | cons symbol rest ih => exact closed.trans (closed.switchOff machine symbol.2) (ih _)

theorem keeps_retire (module : String) :
    Keeps relation (changeRegistry fun registry => registry.retire module : Run σ Unit) := by
  intro machine
  have switched := closed.keeps_switchOffAll (machine.registry.symbolsOf module) machine
  exact closed.trans switched (closed.modules _ _)

theorem keeps_handOutAll {capabilities : List (Capability σ)}
    (admittedAll : ∀ capability ∈ capabilities, admitted capability) (module : String)
    (machine : Script.Machine σ) :
    relation machine { machine with
      registry := (machine.registry.handOutAll module capabilities).2 } := by
  induction capabilities generalizing machine with
  | nil => exact closed.refl machine
  | cons capability rest ih =>
      have first := closed.handOut machine module capability (admittedAll _ List.mem_cons_self)
      exact closed.trans first
        (ih (fun other member => admittedAll other (List.mem_cons_of_mem _ member)) _)

theorem tracked :
    HostTracked (fun _ => True) admitted fun step : Run σ _ => Keeps relation step where
  toTracking := closed.compositional.tracking
  machine machine := closed.refl machine
  note _ _ machine := closed.journal machine _
  handOutAll module _ admittedAll := closed.keeps_handOutAll admittedAll module
  switchOff grant machine := closed.switchOff machine grant
  retire := closed.keeps_retire
  record _ _ machine := closed.modules machine _

end HostClosed

/-! ## Functions that are handed out -/

namespace Registry

variable {admitted : Capability σ → Prop} {registry : Registry σ}

theorem only_switchOff (only : registry.Only admitted) (retired : Nat) :
    (registry.switchOff retired).Only admitted := by
  intro grant entry found
  simp only [switchOff, Array.getElem?_modify] at found
  split at found
  · obtain ⟨before, foundBefore, rfl⟩ := Option.map_eq_some_iff.mp found
    exact only grant before foundBefore
  · exact only grant entry found

theorem only_handOut (only : registry.Only admitted) (module : String)
    {capability : Capability σ} (isAdmitted : admitted capability) :
    (registry.handOut module capability).2.Only admitted := by
  intro grant entry found
  simp only [handOut, Array.getElem?_push] at found
  split at found
  · obtain rfl := Option.some.inj found
    exact isAdmitted
  · exact only grant entry found

end Registry

/-- Functions are handed out only for the capabilities that are admitted. -/
theorem only_closed (admitted : Capability σ → Prop) :
    HostClosed admitted fun before after : Script.Machine σ =>
      before.registry.Only admitted → after.registry.Only admitted where
  refl _ only := only
  trans first second only := second (first only)
  objects _ _ only := only
  shown _ _ only := only
  perform _ _ _ _ _ _ only := only
  journal _ _ only := only
  handOut _ module _ isAdmitted only := Registry.only_handOut only module isAdmitted
  switchOff _ grant only := Registry.only_switchOff only grant
  modules _ _ only := only

end Capability

end ScriptedRobot
