import ScriptedRobot.Proofs.Capability.Complaints
import ScriptedRobot.Proofs.Engine.HostRuns

/-! # Hosts whose failures say something

On every host the failures that scripts may come across have messages. A new engine holds no
failures at all, and whatever the host does later, its capabilities are those of the rig. Only what
is put directly into the objects of the scripts could be anything, and has to be vetted. -/

namespace ScriptedRobot.Engine

open Capability (machineOf)
open Control (ControlClosed Session)
open Script (Callable Failure Run Value)
open Script.Run (Vets)
open Script.Vettable (IsVetted)

/-- All failures among the objects of the scripts have messages, and so have those of the functions
that were handed out. -/
def IsCandid (host : Host) : Prop :=
  IsVetted Failure.HasMessage (machineOf host)

/-- Whatever the engine is asked to do, the host remains candid. -/
theorem candid_closed : EngineClosed Failure.HasMessage
    (fun step => Vets Failure.HasMessage step)
    (fun before after => IsCandid before → IsCandid after) where
  toHostTracked :=
    Capability.tracked_vets Script.hasMessage_wrap Capability.isFaithful_of_isOfRig
  refusal := Script.message_ne
  trans first second candid := second (first candid)
  run vets host candid := (vets (machineOf host) candid).2
  unseen store registry _ candid := by
    unfold IsCandid machineOf at *
    rw [store, registry]
    exact candid

theorem candid_controlClosed :
    ControlClosed scripting fun before after => IsCandid before → IsCandid after where
  toActivationClosed := candid_closed.activationClosed scripting.settings
    (fun _ candid => candid) (fun _ candid => candid) (fun _ candid => candid)
  settings := candid_closed.over_settings
  reset _ _ _ candid := candid

theorem isVetted_initial (allowed : Failure → Prop) :
    IsVetted allowed Script.Store.initial := by
  have plain : ∀ table ∈ Script.Store.initial.tables, IsVetted allowed table := by
    intro table member
    simp only [Script.Store.initial, List.mem_toArray, List.mem_cons, List.not_mem_nil, or_false]
      at member
    rcases member with rfl | rfl | rfl
    · refine ⟨fun entry member => ?_, trivial, trivial⟩
      simp only [Script.Store.initialGlobals, List.mem_cons, List.not_mem_nil, or_false] at member
      rcases member with rfl | rfl | rfl | rfl | rfl | rfl <;> exact ⟨trivial, trivial⟩
    · refine ⟨fun entry member => ?_, trivial, trivial⟩
      simp only [Script.Store.initialPackage, List.mem_singleton] at member
      obtain rfl := member
      exact ⟨trivial, trivial⟩
    · exact Script.isVetted_empty
  refine ⟨fun id => ?_, fun id => trivial⟩
  unfold Script.Store.table
  rw [Array.getD_eq_getD_getElem?]
  cases found : Script.Store.initial.tables[id]? with
  | none => exact Script.isVetted_empty
  | some table => exact plain table (Array.mem_of_getElem? found)

theorem candid_start (host : Host) : IsCandid (start host) :=
  candid_closed.over_start host ⟨isVetted_initial _, nofun⟩

/-- A move that puts only vetted values directly into the objects of the scripts. -/
def HostMove.IsCandid : HostMove → Prop
  | .overwrite change => ∀ store, IsVetted Failure.HasMessage store →
    IsVetted Failure.HasMessage (change store)
  | _ => True

/-- A host that is candid remains so over every such move. -/
theorem candid_step {move : HostMove} (vetted : move.IsCandid) {session : Session Engine Callable}
    (candid : IsCandid session.world) :
    IsCandid (session.step scripting move.move).world := by
  cases move with
  | enter mode programName => exact candid_controlClosed.enter mode programName session candid
  | tick => exact candid_controlClosed.tick (fun _ candid => candid) session candid
  | exit => exact candid_controlClosed.exit session candid
  | overwrite change =>
      exact candid_closed.outside (.overwrite change) session.world
        (fun candid => ⟨vetted _ candid.1, candid.2⟩) candid
  | operate change =>
      exact candid_closed.outside (.operate change) session.world (fun candid => candid) candid
  | bind _ | unbind _ | execute _ | call _ | setSearchPath _ | bootstrap _ _ | replaceFiles _ =>
      exact candid_closed.outside _ session.world trivial candid

theorem candid_hostRun (period : Int32) (host : Host) {moves : List HostMove}
    (vetted : ∀ move ∈ moves, move.IsCandid) : IsCandid (hostRun period host moves).world := by
  refine Session.run_induction (fun session : Session Engine Callable => IsCandid session.world)
    (fun move => ∃ made : HostMove, made.move = move ∧ made.IsCandid) ?_ (fun move member => ?_)
    (candid_start host)
  · rintro session _ ⟨move, rfl, vetted⟩ candid
    exact candid_step vetted candid
  · obtain ⟨made, member, same⟩ := List.mem_map.mp member
    exact ⟨made, same, vetted made member⟩

/-- What a callback raises on a candid host says something. -/
theorem errorMessage_of_call {callable : Callable} {host after : Host} {raised : Value}
    (candid : IsCandid host) (raises : run (Run.call callable []) host = (.error raised, after)) :
    raised.errorMessage ≠ "" := by
  have vets : Vets Failure.HasMessage (Run.call callable [] : Run Rig (List Value)) :=
    candid_closed.holds_call callable Script.isVetted_nil
  have outcome := (vets (machineOf host) candid).1
  rw [show (Run.start (Run.call callable []) (machineOf host)).1 = .error raised from
    congrArg Prod.fst raises] at outcome
  exact Script.errorMessage_ne outcome

end ScriptedRobot.Engine
