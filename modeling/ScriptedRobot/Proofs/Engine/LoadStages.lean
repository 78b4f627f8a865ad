import ScriptedRobot.Engine.Loader
import ScriptedRobot.Proofs.Engine.HostEffects

/-! # The stages of a load

A load passes through stages: the file is found, read and compiled, the script is run, its factory
is called, and the hooks are looked up in the descriptor. Either there is a first stage that fails,
and the load ends there, or all hooks are looked up, and the functions among what was found are
captured. -/

namespace ScriptedRobot.Engine

open Script (Run Value Callable)

/-! ## Ends of a load -/

/-- Why a load failed: something is not there or not what it should be, or the program raised. -/
inductive LoadFault where
  | missing
  | unreadable
  | uncompiled
  | chunkRaised (raised : Value)
  | notAFactory
  | factoryRaised (raised : Value)
  | notADescriptor
  | lookupRaised (raised : Value)

namespace LoadFault

/-- The error that a fault is reported as. -/
def error (path : String) : LoadFault → ScriptError
  | .missing => ⟨.fileNotFound, "file does not exist: " ++ path⟩
  | .unreadable => ⟨.io, "could not read " ++ path ++ ": Input/output error (os error 5)"⟩
  | .uncompiled => ⟨.syntaxError, "syntax error"⟩
  | .notAFactory => ⟨.notAFactory, "did not get a factory function"⟩
  | .notADescriptor => ⟨.notADescriptor, "did not get a descriptor table"⟩
  | .chunkRaised raised | .factoryRaised raised | .lookupRaised raised => failureOf raised

/-- Whether the program raised. -/
def isRaise : LoadFault → Bool
  | .chunkRaised _ | .factoryRaised _ | .lookupRaised _ => true
  | _ => false

/-- The faults that make a program unusable are those at which it did not raise. -/
theorem isLoadError_error (path : String) (fault : LoadFault) :
    (fault.error path).kind.isLoadError = !fault.isRaise := by
  have raising (raised : Value) : (failureOf raised).kind.isLoadError = false := by
    unfold failureOf
    cases raised.isNative <;> rfl
  cases fault with
  | chunkRaised raised | factoryRaised raised | lookupRaised raised => exact raising raised
  | missing | unreadable | uncompiled | notAFactory | notADescriptor => rfl

end LoadFault

/-- The file at a path was compiled, and the script ended in an outcome. -/
def ChunkEnds (path : String) (host : Host) (outcome : Except Value (List Value)) (after : Host) :
    Prop :=
  ∃ content chunk, host.scripts.files.content? path = some content ∧
    scriptOf? content = some chunk ∧ run (Run.chunk chunk []) host = (outcome, after)

/-- The script returned a factory, and that ended in an outcome. -/
def FactoryEnds (path : String) (host : Host) (outcome : Except Value (List Value))
    (after : Host) : Prop :=
  ∃ values factory made, ChunkEnds path host (.ok values) made ∧
    Value.first values = .function factory ∧ run (Run.call factory []) made = (outcome, after)

/-- Looking up hooks in a descriptor, one after the other, raises. -/
inductive LookupRaises (descriptor : Value) : List Hook → Host → Value → Host → Prop where
  | here {hook : Hook} {rest : List Hook} {host after : Host} {raised : Value}
      (lookup : run (Run.getIndex descriptor (.text hook.name)) host = (.error raised, after)) :
      LookupRaises descriptor (hook :: rest) host raised after
  | later {hook : Hook} {rest : List Hook} {host between after : Host} {found raised : Value}
      (lookup : run (Run.getIndex descriptor (.text hook.name)) host = (.ok found, between))
      (raises : LookupRaises descriptor rest between raised after) :
      LookupRaises descriptor (hook :: rest) host raised after

/-- A load of the file at a path passes all stages before a fault. -/
inductive LoadFails (path : String) (host : Host) : LoadFault → Host → Prop where
  | missing (absent : host.scripts.files.content? path = none) :
      LoadFails path host .missing host
  | unreadable (broken : host.scripts.files.content? path = some .unreadable) :
      LoadFails path host .unreadable host
  | uncompiled {content : FileContent}
      (there : host.scripts.files.content? path = some content)
      (readable : content ≠ .unreadable) (invalid : scriptOf? content = none) :
      LoadFails path host .uncompiled host
  | chunkRaised {raised : Value} {after : Host}
      (raises : ChunkEnds path host (.error raised) after) :
      LoadFails path host (.chunkRaised raised) after
  | notAFactory {values : List Value} {after : Host}
      (returns : ChunkEnds path host (.ok values) after)
      (other : ∀ factory, Value.first values ≠ .function factory) :
      LoadFails path host .notAFactory after
  | factoryRaised {raised : Value} {after : Host}
      (raises : FactoryEnds path host (.error raised) after) :
      LoadFails path host (.factoryRaised raised) after
  | notADescriptor {values : List Value} {after : Host}
      (returns : FactoryEnds path host (.ok values) after)
      (other : ∀ table, Value.first values ≠ .table table) :
      LoadFails path host .notADescriptor after
  | lookupRaised {values : List Value} {made after : Host} {table : Nat}
      {raised : Value} (returns : FactoryEnds path host (.ok values) made)
      (descriptor : Value.first values = .table table)
      (raises : LookupRaises (.table table) Hook.all made raised after) :
      LoadFails path host (.lookupRaised raised) after

/-- Looking up hooks in a descriptor, one after the other, finds values. -/
inductive LookupsFind (descriptor : Value) :
    List Hook → Host → List (Hook × Value) → Host → Prop where
  | none {host : Host} : LookupsFind descriptor [] host [] host
  | next {hook : Hook} {rest : List Hook} {host between after : Host} {value : Value}
      {found : List (Hook × Value)}
      (lookup : run (Run.getIndex descriptor (.text hook.name)) host = (.ok value, between))
      (others : LookupsFind descriptor rest between found after) :
      LookupsFind descriptor (hook :: rest) host ((hook, value) :: found) after

/-- A load of the file at a path passes all stages: the factory returned a descriptor, and these
values were found in it. -/
def LoadFinds (path : String) (host : Host) (found : List (Hook × Value)) (after : Host) : Prop :=
  ∃ values table made, FactoryEnds path host (.ok values) made ∧
    Value.first values = .table table ∧ LookupsFind (.table table) Hook.all made found after

/-! ## What the ends of a load come to -/

/-- The functions among the values that were found. -/
def functionsOf : List (Hook × Value) → List (Hook × Callable)
  | [] => []
  | (hook, .function callable) :: rest => (hook, callable) :: functionsOf rest
  | _ :: rest => functionsOf rest

section Stages

variable {path : String} {host after : Host}

/-- Lookups find values, unless one of them raises. -/
theorem lookupsFind_or_raises (descriptor : Value) (hooks : List Hook) (host : Host) :
    (∃ found after, LookupsFind descriptor hooks host found after) ∨
      ∃ raised after, LookupRaises descriptor hooks host raised after := by
  induction hooks generalizing host with
  | nil => exact .inl ⟨[], host, .none⟩
  | cons hook rest ih =>
      cases lookup : run (Run.getIndex descriptor (.text hook.name)) host with
      | mk outcome between =>
          cases outcome with
          | error raised => exact .inr ⟨raised, between, .here lookup⟩
          | ok value =>
              obtain ⟨found, after, others⟩ | ⟨raised, after, raises⟩ := ih between
              · exact .inl ⟨_, after, .next lookup others⟩
              · exact .inr ⟨raised, after, .later lookup raises⟩

theorem LookupsFind.run_captureHooks {descriptor : Value} {hooks : List Hook}
    {found : List (Hook × Value)} (finds : LookupsFind descriptor hooks host found after) :
    run (captureHooks descriptor hooks) host = (.ok (functionsOf found), after) := by
  induction finds with
  | none => rfl
  | @next hook rest host between after value found lookup _ ih =>
      unfold captureHooks
      rw [run_bind_of_ok lookup]
      cases value with
      | function callable =>
          dsimp only
          rw [run_bind_of_ok ih]
          rfl
      | nil | boolean _ | integer _ | number _ | text _ | bytes _ | table _ | failure _ => exact ih

theorem LookupRaises.run_captureHooks {descriptor raised : Value} {hooks : List Hook}
    (raises : LookupRaises descriptor hooks host raised after) :
    run (captureHooks descriptor hooks) host = (.error raised, after) := by
  induction raises with
  | here lookup => exact run_bind_of_error lookup _
  | @later hook rest host between after found raised lookup _ ih =>
      unfold captureHooks
      rw [run_bind_of_ok lookup]
      cases found with
      | function callable => exact run_bind_of_error ih _
      | _ => exact ih

/-- What a load makes of its script: what was raised is the error. -/
def settled {α : Type} : Except Value (Except ScriptError α) × Host → Except ScriptError α × Host
  | (.error raised, host) => (.error (failureOf raised), host)
  | (.ok outcome, host) => (outcome, host)

/-- The stages from the descriptor on. -/
def captureDescriptor (values : List Value) :
    Run Rig (Except ScriptError (List (Hook × Callable))) :=
  match Value.first values with
  | .table id => do return .ok (← captureHooks (.table id) Hook.all)
  | _ => return .error ⟨.notADescriptor, "did not get a descriptor table"⟩

/-- The stages from the factory on. -/
def captureFactory (values : List Value) :
    Run Rig (Except ScriptError (List (Hook × Callable))) :=
  match Value.first values with
  | .function factory => Run.call factory [] >>= captureDescriptor
  | _ => return .error ⟨.notAFactory, "did not get a factory function"⟩

theorem captureProgram_eq (chunk : Script.Chunk) :
    captureProgram chunk = Run.chunk chunk [] >>= captureFactory := rfl

/-- What a file that compiles comes to is what its script comes to. -/
theorem capture_of_script {content : FileContent} {chunk : Script.Chunk}
    (there : host.scripts.files.content? path = some content)
    (compiled : scriptOf? content = some chunk) :
    capture path host = settled (run (captureProgram chunk) host) := by
  have read : readProgram host.scripts.files path = .ok chunk := by
    unfold readProgram
    rw [there]
    cases content with
    | unreadable => cases compiled
    | text _ _ | script _ => simp only [compiled]
  unfold capture
  rw [read]
  dsimp only
  rcases run (captureProgram chunk) host with ⟨_ | _, _⟩ <;> rfl

theorem ChunkEnds.capture_eq {outcome : Except Value (List Value)}
    (ends : ChunkEnds path host outcome after) :
    capture path host = settled (match outcome with
      | .ok values => run (captureFactory values) after
      | .error raised => (.error raised, after)) := by
  obtain ⟨content, chunk, there, compiled, ran⟩ := ends
  rw [capture_of_script there compiled, captureProgram_eq, run_bind, ran]
  cases outcome <;> rfl

theorem FactoryEnds.capture_eq {outcome : Except Value (List Value)}
    (ends : FactoryEnds path host outcome after) :
    capture path host = settled (match outcome with
      | .ok values => run (captureDescriptor values) after
      | .error raised => (.error raised, after)) := by
  obtain ⟨values, factory, made, returns, isFactory, ran⟩ := ends
  have called : captureFactory values = Run.call factory [] >>= captureDescriptor := by
    unfold captureFactory
    rw [isFactory]
  rw [returns.capture_eq]
  dsimp only
  rw [called, run_bind, ran]
  cases outcome <;> rfl

/-- A load that fails at a stage has the error of that stage. -/
theorem LoadFails.capture_eq {fault : LoadFault} (fails : LoadFails path host fault after) :
    capture path host = (.error (fault.error path), after) := by
  cases fails with
  | missing absent =>
      unfold capture readProgram
      rw [absent]
      rfl
  | unreadable broken =>
      unfold capture readProgram
      rw [broken]
      rfl
  | @uncompiled content there readable invalid =>
      unfold capture readProgram
      rw [there]
      cases content with
      | unreadable => exact (readable rfl).elim
      | text _ | script _ => simp only [invalid, LoadFault.error]
  | chunkRaised raises => exact raises.capture_eq
  | factoryRaised raises => exact raises.capture_eq
  | @notAFactory values _ returns other =>
      rw [returns.capture_eq]
      dsimp only
      unfold captureFactory
      split
      next factory isFactory => exact (other factory isFactory).elim
      next => rfl
  | @notADescriptor values _ returns other =>
      rw [returns.capture_eq]
      dsimp only
      unfold captureDescriptor
      split
      next table isTable => exact (other table isTable).elim
      next => rfl
  | lookupRaised returns isTable raises =>
      rw [returns.capture_eq]
      dsimp only
      unfold captureDescriptor
      rw [isTable]
      dsimp only
      rw [run_bind_of_error raises.run_captureHooks]
      rfl

/-- A load that passes all stages captures the functions that were found. -/
theorem LoadFinds.capture_eq {found : List (Hook × Value)}
    (finds : LoadFinds path host found after) :
    capture path host = (.ok (functionsOf found), after) := by
  obtain ⟨values, table, made, returns, descriptor, lookups⟩ := finds
  have described : captureDescriptor values =
      (captureHooks (.table table) Hook.all >>= fun callbacks => pure (.ok callbacks)) := by
    unfold captureDescriptor
    rw [descriptor]
  rw [returns.capture_eq]
  dsimp only
  rw [described, run_bind_of_ok lookups.run_captureHooks]
  rfl

/-- A load passes all stages, or fails at one. -/
def IsSettled (path : String) (host : Host) : Prop :=
  (∃ found after, LoadFinds path host found after) ∨ ∃ fault after, LoadFails path host fault after

theorem FactoryEnds.isSettled {outcome : Except Value (List Value)}
    (ends : FactoryEnds path host outcome after) : IsSettled path host := by
  cases outcome with
  | error raised => exact .inr ⟨_, _, .factoryRaised ends⟩
  | ok values =>
      by_cases isTable : ∃ table, Value.first values = .table table
      · obtain ⟨table, isTable⟩ := isTable
        obtain ⟨found, last, finds⟩ | ⟨raised, last, raises⟩ :=
          lookupsFind_or_raises (.table table) Hook.all after
        · exact .inl ⟨found, last, values, table, after, ends, isTable, finds⟩
        · exact .inr ⟨_, _, .lookupRaised ends isTable raises⟩
      · exact .inr ⟨_, _, .notADescriptor ends (not_exists.mp isTable)⟩

theorem ChunkEnds.isSettled {outcome : Except Value (List Value)}
    (ends : ChunkEnds path host outcome after) : IsSettled path host := by
  cases outcome with
  | error raised => exact .inr ⟨_, _, .chunkRaised ends⟩
  | ok values =>
      by_cases isFactory : ∃ factory, Value.first values = .function factory
      · obtain ⟨factory, isFactory⟩ := isFactory
        have factoryEnds : FactoryEnds path host (run (Run.call factory []) after).1
            (run (Run.call factory []) after).2 :=
          ⟨values, factory, after, ends, isFactory, rfl⟩
        exact factoryEnds.isSettled
      · exact .inr ⟨_, _, .notAFactory ends (not_exists.mp isFactory)⟩

theorem isSettled (path : String) (host : Host) : IsSettled path host := by
  cases found : host.scripts.files.content? path with
  | none => exact .inr ⟨_, _, .missing found⟩
  | some content =>
      by_cases unreadable : content = .unreadable
      · exact .inr ⟨_, _, .unreadable (unreadable ▸ found)⟩
      · cases compiled : scriptOf? content with
        | none => exact .inr ⟨_, _, .uncompiled found unreadable compiled⟩
        | some chunk =>
            have chunkEnds : ChunkEnds path host (run (Run.chunk chunk []) host).1
                (run (Run.chunk chunk []) host).2 :=
              ⟨content, chunk, found, compiled, rfl⟩
            exact chunkEnds.isSettled

end Stages

end ScriptedRobot.Engine
