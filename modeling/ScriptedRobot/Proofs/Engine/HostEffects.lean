import ScriptedRobot.Proofs.Capability.RigEffects
import ScriptedRobot.Proofs.Engine.Composition
import ScriptedRobot.Proofs.Engine.Machine

/-! # What the engine can do to a host

The engine works on a host by running steps on the machine of its scripts; otherwise it reports, and
keeps notes of its own that no script sees. A relation between hosts that allows these and can be
chained holds over whatever the engine is asked to do. In particular, the engine reaches the rig
only through its scripts: as long as nothing but capabilities of the rig is handed out, the rig
stays within every relation that the commands of scripts stay within. -/

namespace ScriptedRobot

open Capability (HostTracked IsOfRig)
open Script (ArgumentFault Callable Failure Run Value Vettable)
open Script.Run (Keeps)

namespace Engine

/-- A relation between hosts that notes, and the runs that loading and running a program consist of,
stay within. -/
structure LoadClosed (relation : Host → Host → Prop) : Prop where
  refl : ∀ host, relation host host
  trans : ∀ {first second third}, relation first second → relation second third →
    relation first third
  note : ∀ (host : Host) severity source message, relation host (host.note severity source message)
  call : ∀ callable host, relation host (Engine.run (Run.call callable []) host).2
  script : ∀ chunk host, relation host (Engine.run (captureProgram chunk) host).2

namespace LoadClosed

variable {relation : Host → Host → Prop} (closed : LoadClosed relation)
include closed

theorem over_runCallback (callable : Callable) (host : Host) :
    relation host (runCallback callable host).2 := by
  have kept := closed.call callable host
  unfold Engine.runCallback
  generalize Engine.run (Run.call callable []) host = ran at kept ⊢
  rcases ran with ⟨_ | _, after⟩
  · exact kept
  · exact kept

theorem over_capture (path : String) (host : Host) : relation host (capture path host).2 := by
  unfold Engine.capture
  cases readProgram host.scripts.files path with
  | error error => exact closed.refl host
  | ok chunk =>
      have kept := closed.script chunk host
      dsimp only
      generalize Engine.run (captureProgram chunk) host = ran at kept ⊢
      rcases ran with ⟨_ | _, after⟩
      · exact kept
      · exact kept

theorem over_loadAs (name path : String) (host : Host) : relation host (loadAs name path host).2 := by
  have kept := closed.over_capture path host
  unfold Engine.loadAs
  generalize Engine.capture path host = ran at kept ⊢
  rcases ran with ⟨_ | _, after⟩
  · exact kept
  · exact closed.trans kept (closed.note after _ _ _)

theorem over_load (program : String) (host : Host) : relation host (load program host).2 := by
  unfold Engine.load
  dsimp only
  split
  · exact closed.trans (closed.over_loadAs _ _ host) (closed.note _ _ _ _)
  · exact closed.over_loadAs _ _ host

end LoadClosed

/-- A relation between hosts that every run of certain steps stays within. What passes to these
steps passes from steps to scripts, and the steps of the host are among them. What neither scripts
nor the rig see may change freely. -/
structure EngineClosed (allowed : Failure → Prop)
    (holds : ∀ {α : Type} [Vettable α], Run Rig α → Prop) (relation : Host → Host → Prop) : Prop
    extends HostTracked allowed IsOfRig holds where
  refusal : ∀ fault : ArgumentFault, allowed (.cause fault.message)
  trans : ∀ {first second third}, relation first second → relation second third →
    relation first third
  run : ∀ {α : Type} [Vettable α] {step : Run Rig α}, holds step →
    ∀ host, relation host (run step host).2
  unseen : ∀ {before after : Host}, after.scripts.store = before.scripts.store →
    after.scripts.registry = before.scripts.registry → after.rig = before.rig →
    relation before after

namespace EngineClosed

variable {allowed : Failure → Prop} {holds : ∀ {α : Type} [Vettable α], Run Rig α → Prop}
  {relation : Host → Host → Prop} (closed : EngineClosed allowed holds relation)
include closed

theorem refl (host : Host) : relation host host :=
  closed.unseen rfl rfl rfl

theorem over_note (host : Host) (severity : Severity) (source : Source) (message : String) :
    relation host (host.note severity source message) :=
  closed.unseen rfl rfl rfl

/-- A new engine is made of nothing but the files. -/
theorem over_start (host : Host) :
    relation { host with scripts := { files := host.scripts.files } } (start host) := by
  have asked : holds version :=
    closed.bind (closed.holds_getGlobal _) fun _ _ => closed.pure trivial
  exact closed.trans (closed.run asked _) (closed.unseen rfl rfl rfl)

theorem over_execute (chunk : Script.Chunk) (host : Host) : relation host (execute chunk host).2 :=
  closed.run (closed.holds_map (closed.holds_chunk chunk Script.isVetted_nil) fun _ _ => trivial)
    host

theorem over_bind (subsystem : Subsystem) (host : Host) : relation host (bind subsystem host).2 :=
  closed.run (closed.holds_publish (fun _ member => ⟨subsystem, member⟩) _) host

theorem over_unbind (subsystem : Subsystem) (host : Host) : relation host (unbind subsystem host).2 :=
  closed.run (closed.holds_retract _ _) host

theorem loadClosed : LoadClosed relation where
  refl := closed.refl
  trans := closed.trans
  note := closed.over_note
  call callable host := closed.run (closed.holds_call callable Script.isVetted_nil) host
  script chunk host := closed.run (holds_captureProgram closed.toTracking chunk) host

theorem over_runCallback (callable : Callable) (host : Host) :
    relation host (runCallback callable host).2 :=
  closed.loadClosed.over_runCallback callable host

theorem over_loadAs (name path : String) (host : Host) : relation host (loadAs name path host).2 :=
  closed.loadClosed.over_loadAs name path host

theorem over_load (program : String) (host : Host) : relation host (load program host).2 :=
  closed.loadClosed.over_load program host

theorem over_setSearchPath (directory : String) (host : Host) :
    relation host (setSearchPath directory host).2 := by
  unfold Engine.setSearchPath
  split
  · exact closed.refl host
  · have kept := closed.run (holds_pointTemplates closed.toTracking closed.refusal directory) host
    generalize Engine.run (pointTemplates directory) host = ran at kept ⊢
    rcases ran with ⟨_ | _, after⟩
    · exact kept
    · exact closed.trans kept (closed.unseen rfl rfl rfl)

theorem over_chooseRoot (candidates : List String) (marker : String) (host : Host) :
    relation host (chooseRoot candidates marker host).2 := by
  have noted : ∀ host : Host, relation host (candidates.foldl (fun host directory =>
      host.note .debug .scripts ("  tried " ++ directory)) host) := by
    induction candidates with
    | nil => exact closed.refl
    | cons directory rest ih =>
        exact fun host => closed.trans (closed.over_note host _ _ _) (ih _)
  unfold Engine.chooseRoot
  split
  · exact closed.refl host
  · split
    · exact closed.trans (closed.over_note host _ _ _) (noted _)
    · rename_i root _
      have kept := closed.over_setSearchPath root host
      generalize Engine.setSearchPath root host = ran at kept ⊢
      rcases ran with ⟨_ | _, after⟩
      · exact closed.trans kept (closed.over_note after _ _ _)
      · exact kept

theorem over_bootstrap (candidates : List String) (marker : String) (host : Host) :
    relation host (bootstrap candidates marker host).2 := by
  unfold Engine.bootstrap
  split
  · exact closed.refl host
  have chosen := closed.over_chooseRoot candidates marker host
  generalize Engine.chooseRoot candidates marker host = ran at chosen ⊢
  rcases ran with ⟨_ | _, root⟩
  · exact chosen
  dsimp only
  have loaded := closed.run (holds_loadConfiguration closed.toTracking root.scripts.files) root
  generalize Engine.run (loadConfiguration root.scripts.files) root = ran at loaded ⊢
  rcases ran with ⟨_ | _, ready⟩
  · exact closed.trans chosen (closed.trans loaded (closed.over_note ready _ _ _))
  · have reported := closed.run (holds_configurationReport closed.toTracking) ready
    exact closed.trans chosen (closed.trans loaded
      (closed.trans reported (closed.unseen rfl rfl rfl)))

theorem over_settings (host : Host) : relation host (scripting.settings host).2 :=
  closed.run (closed.holds_shooterSettings closed.holds_lookup) host

end EngineClosed

/-! ## The rig -/

/-- While nothing but capabilities of the rig is handed out, the rig of a host stays within a
relation. -/
def Within (relation : Rig → Rig → Prop) (before after : Host) : Prop :=
  before.scripts.registry.OfRig → after.scripts.registry.OfRig ∧ relation before.rig after.rig

theorem within_run {relation : Rig → Rig → Prop} {α : Type} {step : Run Rig α}
    (kept : Keeps (Capability.Within relation) step) (host : Host) :
    Within relation host (run step host).2 :=
  fun ofRig => kept ⟨host.scripts.store, host.scripts.registry, host.rig, host.scripts.shown,
    host.journal⟩ ofRig

/-- Whatever the engine is asked to do, the rig stays within the relation. -/
theorem within_closed {relation : Rig → Rig → Prop} (closed : Capability.RigClosed relation) :
    EngineClosed (fun _ => True) (fun step => Keeps (Capability.Within relation) step)
      (Within relation) where
  toHostTracked := closed.within.tracked
  refusal _ := trivial
  trans reached further ofRig := by
    obtain ⟨ofRigMiddle, held⟩ := reached ofRig
    obtain ⟨ofRigAfter, heldFurther⟩ := further ofRigMiddle
    exact ⟨ofRigAfter, closed.trans held heldFurther⟩
  run kept := within_run kept
  unseen _ registry rig ofRig := by
    rw [registry, rig]
    exact ⟨ofRig, closed.refl _⟩

end Engine

end ScriptedRobot
