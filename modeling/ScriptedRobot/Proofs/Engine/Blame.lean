import ScriptedRobot.Proofs.Engine.Capture
import ScriptedRobot.Proofs.Script.Settling

/-! # Whose fault an error is

The error of a program is reported as the fault of the host if a function of the host raised it
first, and as the fault of the program otherwise. This is so for callbacks, and for all parts of a
program that are run when it is loaded. -/

namespace ScriptedRobot.Engine

open Capability (machineOf)
open Control (Program)
open Script (Callable Ends Origin Run Scope Step Task Tracked Value)

/-- The machine of a host when nothing has been caught. -/
def trackedOf (host : Host) : Tracked Rig := { machine := machineOf host }

theorem isFaithful_trackedOf (host : Host) : (trackedOf host).IsFaithful := nofun

/-- The error of a program is reported as that of an origin. -/
def Reports (program : Program Callable) (origin : Origin) : Prop :=
  program.kind = some origin.error.kind ∧ program.error = origin.error.message

theorem failureOf_value (origin : Origin) : failureOf origin.value = origin.error := by
  have plain {value : Value} (plain : value.isNative = false) :
      failureOf value = ⟨.runtime, "runtime error: " ++ value.display⟩ := by
    cases value with
    | failure _ => cases plain
    | nil | boolean _ | integer _ | number _ | text _ | bytes _ | table _ | function _ => rfl
  cases origin with
  | script _ isPlain => exact plain isPlain
  | language _ => rfl
  | host cause layers =>
      exact congrArg (ScriptError.mk .native) (Script.Failure.rootMessage_wrapped cause layers)

section Boundaries

variable {host : Host} {outcome : Option Origin} {after : Tracked Rig}

theorem fst_run {α : Type} {step : Run Rig α} {result : Except Value α × Script.Machine Rig}
    (started : step.start (machineOf host) = result) : (run step host).1 = result.1 :=
  congrArg Prod.fst started

theorem fst_run_call {callable : Callable} {arguments : List Value}
    (ends : Ends Script.callLimit (.call callable arguments) (trackedOf host) outcome after) :
    ∃ values, (run (Run.call callable arguments) host).1 =
      (outcome.map Origin.value).elim (.ok values) .error := by
  obtain ⟨⟨values, ran, _⟩, _⟩ := ends.evaluates (isFaithful_trackedOf host)
  exact ⟨values, fst_run ran⟩

theorem fst_run_chunk {body : List Step}
    (ends : Ends Script.callLimit (.body {} body) (trackedOf host) outcome after) :
    (run (Run.chunk (Step.statements body) []) host).1 =
      (outcome.map Origin.value).elim (.ok []) .error := by
  have ran := (ends.evaluates (isFaithful_trackedOf host)).1
  refine (fst_run (Run.start_bind _ _ _)).trans ?_
  rw [show Run.start _ (machineOf host) = _ from ran]
  cases outcome <;> rfl

theorem fst_run_getIndex {table : Value} {name : String}
    (ends : Ends Script.callLimit (.read Script.handlerLimit ⟨table, ""⟩ name) (trackedOf host)
      outcome after) :
    ∃ value, (run (Run.getIndex table (.text name)) host).1 =
      (outcome.map Origin.value).elim (.ok value) .error := by
  obtain ⟨⟨value, ran⟩, _⟩ := ends.evaluates (isFaithful_trackedOf host)
  exact ⟨value, fst_run ran⟩

end Boundaries

section Loads

variable {name path : String} {host after : Host} {origin : Origin}

theorem reports_of_fails {fault : LoadFault} (fails : LoadFails path host fault after)
    (error : fault.error path = origin.error) : Reports (loadAs name path host).1 origin := by
  rw [fails.loadAs_eq]
  exact ⟨congrArg (fun error => some error.kind) error, congrArg ScriptError.message error⟩

theorem eq_of_fst_run {α : Type} {step : Run Rig α} {raised : Value}
    (raises : (run step host).1 = .error raised) :
    run step host = (.error raised, (run step host).2) :=
  Prod.ext raises rfl

variable {tracked : Tracked Rig}

/-- A script that raises when it is run. -/
theorem reports_of_chunk {content : FileContent} {body : List Step}
    (there : host.scripts.files.content? path = some content)
    (compiled : scriptOf? content = some (Step.statements body))
    (ends : Ends Script.callLimit (.body {} body) (trackedOf host) (some origin) tracked) :
    Reports (loadAs name path host).1 origin := by
  have ran := eq_of_fst_run (fst_run_chunk ends)
  have fails : LoadFails path host (.chunkRaised origin.value) _ :=
    .chunkRaised ⟨content, _, there, compiled, ran⟩
  exact reports_of_fails fails (failureOf_value origin)

/-- A factory that raises when it is called. -/
theorem reports_of_factory {values : List Value} {factory : Callable} {made : Host}
    (returns : ChunkEnds path host (.ok values) made)
    (isFactory : Value.first values = .function factory)
    (ends : Ends Script.callLimit (.call factory []) (trackedOf made) (some origin) tracked) :
    Reports (loadAs name path host).1 origin := by
  obtain ⟨_, raises⟩ := fst_run_call ends
  have fails : LoadFails path host (.factoryRaised origin.value) _ :=
    .factoryRaised ⟨values, factory, made, returns, isFactory, eq_of_fst_run raises⟩
  exact reports_of_fails fails (failureOf_value origin)

theorem lookupRaises_append {descriptor raised : Value} {earlier later : List Hook}
    {between : Host} {found : List (Hook × Value)}
    (finds : LookupsFind descriptor earlier host found between)
    (raises : LookupRaises descriptor later between raised after) :
    LookupRaises descriptor (earlier ++ later) host raised after := by
  induction finds with
  | none => exact raises
  | next lookup _ ih => exact .later lookup (ih raises)

/-- A handler of a descriptor that raises when a hook is looked up. -/
theorem reports_of_lookup {values : List Value} {table : Nat} {described between : Host}
    {earlier later : List Hook} {hook : Hook} {found : List (Hook × Value)}
    (returns : FactoryEnds path host (.ok values) described)
    (isTable : Value.first values = .table table) (split : Hook.all = earlier ++ hook :: later)
    (finds : LookupsFind (.table table) earlier described found between)
    (ends : Ends Script.callLimit (.read Script.handlerLimit ⟨.table table, ""⟩ hook.name)
      (trackedOf between) (some origin) tracked) :
    Reports (loadAs name path host).1 origin := by
  obtain ⟨_, raises⟩ := fst_run_getIndex ends
  have here : LookupRaises (.table table) (hook :: later) between origin.value _ :=
    .here (eq_of_fst_run raises)
  have lookups := lookupRaises_append finds here
  rw [← split] at lookups
  exact reports_of_fails (.lookupRaised returns isTable lookups) (failureOf_value origin)

end Loads

/-- What is reported of an origin: an error of the host is native, with the message of its innermost
cause, and any other is one of the program. -/
structure Classified (origin : Origin) : Prop where
  native : origin.IsHost → origin.error.kind = .native
  runtime : ¬ origin.IsHost → origin.error.kind = .runtime
  innermost : ∀ cause layers, origin = .host cause layers → origin.error.message = cause

theorem classified (origin : Origin) : Classified origin where
  native := origin.kind_error.mpr
  runtime script := by
    cases origin with
    | host _ _ => exact (script trivial).elim
    | script _ _ | language _ => rfl
  innermost cause layers same := by
    rw [same]
    rfl

/-- A callback that ends with an outcome completes, or its error is reported as that of its
origin. -/
structure CallAttributed (program : Program Callable) (hook : Hook) (host : Host)
    (outcome : Option Origin) : Prop where
  answer : (program.invoke scripting hook host).1 =
    (outcome.map Origin.error).elim (.ok .completed) .error
  reports : ∀ origin, outcome = some origin →
    Reports (program.invoke scripting hook host).2.1 origin

/-- An error that comes up while a program is loaded is reported as that of its origin, in whatever
part of the program it does. -/
structure LoadAttributed (name path : String) (host : Host) : Prop where
  script : ∀ content body origin after, host.scripts.files.content? path = some content →
    scriptOf? content = some (Step.statements body) →
    Ends Script.callLimit (.body {} body) (trackedOf host) (some origin) after →
    Reports (loadAs name path host).1 origin
  factory : ∀ values factory made origin after, ChunkEnds path host (.ok values) made →
    Value.first values = .function factory →
    Ends Script.callLimit (.call factory []) (trackedOf made) (some origin) after →
    Reports (loadAs name path host).1 origin
  lookup : ∀ values table described earlier hook later found between origin after,
    FactoryEnds path host (.ok values) described → Value.first values = .table table →
    Hook.all = earlier ++ hook :: later →
    LookupsFind (.table table) earlier described found between →
    Ends Script.callLimit (.read Script.handlerLimit ⟨.table table, ""⟩ hook.name)
      (trackedOf between) (some origin) after →
    Reports (loadAs name path host).1 origin

/-- The bodies of scripts and of functions have an outcome on a host. -/
structure Settles (host : Host) : Prop where
  bodies : ∀ body, ∃ outcome after,
    Ends Script.callLimit (.body {} body) (trackedOf host) outcome after
  functions : ∀ id parameters body captured arguments,
    host.scripts.store.closures[id]? = some ⟨parameters, Step.statements body, captured⟩ →
    "raised" ∉ parameters → captured.lookup "raised" = none →
    ∃ outcome after,
      Ends Script.callLimit (.call (.closure id) arguments) (trackedOf host) outcome after

theorem callAttributed {program : Program Callable} (usable : program.isUnusable = false)
    {hook : Hook} {callback : Callable} (present : program.callbacks.lookup hook = some callback)
    {host : Host} {outcome : Option Origin} {after : Tracked Rig}
    (ends : Ends Script.callLimit (.call callback []) (trackedOf host) outcome after) :
    CallAttributed program hook host outcome := by
  obtain ⟨values, ran⟩ := fst_run_call ends
  have invoked := invoked_of_usable usable hook host
  cases outcome with
  | none =>
      refine ⟨?_, nofun⟩
      generalize program.invoke scripting hook host = answered at invoked
      cases invoked with
      | skipped absent => cases absent.symm.trans present
      | completed _ _ => rfl
      | @failed other raised last again failed =>
          obtain rfl := Option.some.inj (present.symm.trans again)
          rw [failed] at ran
          cases ran
  | some origin =>
      have raises : Raises program.callbacks hook host origin.value := ⟨callback, present, ran⟩
      have error := (invoked.error_iff origin.error).mpr ⟨_, raises, failureOf_value origin⟩
      refine ⟨error, ?_⟩
      rintro _ ⟨⟩
      obtain ⟨message, kind⟩ := invoked.error_of_raises raises
      have same := failureOf_value origin
      exact ⟨kind.trans (congrArg (fun error => some error.kind) same),
        message.trans (congrArg ScriptError.message same)⟩

theorem loadAttributed (name path : String) (host : Host) : LoadAttributed name path host where
  script _ _ _ _ there compiled ends := reports_of_chunk there compiled ends
  factory _ _ _ _ _ returns isFactory ends := reports_of_factory returns isFactory ends
  lookup _ _ _ _ _ _ _ _ _ _ returns isTable split finds ends :=
    reports_of_lookup returns isTable split finds ends

theorem settles {host : Host} (plain : (machineOf host).IsPlain) : Settles host where
  bodies body := Script.exists_ends_body body _ _ _ plain nofun
  functions _ _ _ _ arguments isBody fresh absent :=
    Script.exists_ends_closure plain isBody fresh absent arguments _

/-- An error of a program is reported as native if a function of the host raised it first, with the
message of the innermost cause, however often it was wrapped, and as one of the program otherwise.
This holds of callbacks, and when a program is loaded of the script, of the factory and of lookups
in the descriptor. Bodies have ends with origins wherever no other code gets in the way. -/
theorem errors_are_attributed :
    (∀ origin, Classified origin) ∧
    (∀ (program : Program Callable) hook callback host outcome after,
      program.isUnusable = false → program.callbacks.lookup hook = some callback →
      Ends Script.callLimit (.call callback []) (trackedOf host) outcome after →
      CallAttributed program hook host outcome) ∧
    (∀ name path host, LoadAttributed name path host) ∧
    ∀ host : Host, (machineOf host).IsPlain → Settles host := by
  refine ⟨classified, ?_, loadAttributed, fun host => settles⟩
  intro program hook callback host outcome after usable present ends
  exact callAttributed usable present ends

namespace Outage

/-! A module has a function that fails and one that calls its argument. -/

def failing : Capability Rig where
  symbol := "fail"
  neutral := .nothing
  perform _ rig := (.fails "offline", rig, [])

def applying : Capability Rig where
  symbol := "apply"
  neutral := .nothing
  perform arguments rig :=
    match arguments with
    | .function callee :: _ => (.delegates callee, rig, [])
    | _ => (.returns [], rig, [])

/-- The failure is caught and raised again within a call and around it. -/
def passing : List Step :=
  [.repeated 2 [.protect
    [.call (.symbol "m" "apply") [.function [.protect [.call (.held "fail") []] [.raiseAgain]]]]
    [.raiseAgain]]]

/-- The failure is caught, and another error is raised instead. -/
def replacing : List Step :=
  [.protect [.call (.symbol "m" "fail") []] [.raise (.constant (.text "gave up"))]]

def store : Script.Store where
  tables := #[Script.Store.initialGlobals.set (.text "bot") (.table 3),
    Script.Store.initialPackage,
    { entries := [(.text "held:fail", .function (.capability 0))] },
    { entries := [(.text "m", .table 4)] },
    { entries := [(.text "fail", .function (.capability 0)),
      (.text "apply", .function (.capability 1))] }]
  closures := #[⟨[], Step.statements passing, []⟩, ⟨[], Step.statements replacing, []⟩]

def host : Host :=
  { scripts := { store, registry := { grants := #[⟨"m", failing, true⟩, ⟨"m", applying, true⟩] } } }

def program : Program Callable :=
  { name := "p", callbacks := [(.init, .closure 0), (.run, .closure 1)] }

theorem module_eq {name : String} {module : Nat}
    (isModule : ((machineOf host).store.table 3).get (.text name) = .table module) :
    module = 4 := by
  change (List.lookup (Script.Key.text name) [(.text "m", Value.table 4)]).getD .nil = _
    at isModule
  rw [Text.lookup_cons_eq_ite] at isModule
  split at isModule
  · exact (Value.table.inj isModule).symm
  · cases isModule

theorem isOfHost_symbol {symbol : String} {callable : Callable}
    (isSymbol : ((machineOf host).store.table 4).get (.text symbol) = .function callable) :
    callable.IsOfHost := by
  change (List.lookup (Script.Key.text symbol) [(.text "fail", Value.function (.capability 0)),
    (.text "apply", .function (.capability 1))]).getD .nil = _ at isSymbol
  rw [Text.lookup_cons_eq_ite, Text.lookup_cons_eq_ite] at isSymbol
  split at isSymbol
  · cases isSymbol
    trivial
  split at isSymbol
  · cases isSymbol
    trivial
  · cases isSymbol

theorem isOfHost_held {name : String} {callable : Callable}
    (isHeld : ((machineOf host).store.table 2).get (.text name) = .function callable) :
    callable.IsOfHost := by
  change (List.lookup (Script.Key.text name)
    [(.text "held:fail", Value.function (.capability 0))]).getD .nil = _ at isHeld
  rw [Text.lookup_cons_eq_ite] at isHeld
  split at isHeld
  · cases isHeld
    trivial
  · cases isHeld

theorem mem_of_applying {arguments : List Value} {rig : Rig} {callee : Callable}
    (delegates : (applying.perform arguments rig).1 = .delegates callee) :
    Value.function callee ∈ arguments := by
  match arguments with
  | .function given :: rest =>
      obtain rfl := Capability.Reply.delegates.inj delegates
      exact List.mem_cons_self
  | [] => cases delegates

theorem isPlain : (machineOf host).IsPlain := by
  have root : ∀ id, ((machineOf host).store.table 0).get (.text "bot") = .table id → id = 3 :=
    fun id isRoot => (Value.table.inj isRoot).symm
  refine ⟨?_, ?_, ?_, rfl, fun _ _ => isOfHost_held, ?_⟩
  · intro id isRoot
    obtain rfl := root id isRoot
    rfl
  · intro id name module isRoot isModule
    obtain rfl := root id isRoot
    obtain rfl := module_eq isModule
    rfl
  · intro id name module symbol callable isRoot isModule isSymbol
    obtain rfl := root id isRoot
    obtain rfl := module_eq isModule
    exact isOfHost_symbol isSymbol
  · intro grant entry there arguments rig callee delegates
    match grant with
    | 0 =>
        obtain rfl := Option.some.inj there
        cases delegates
    | 1 =>
        obtain rfl := Option.some.inj there
        exact mem_of_applying delegates
    | grant + 2 => cases there

/-- What a call of a hook comes to. -/
def answer (hook : Hook) : Option ScriptError :=
  match (program.invoke scripting hook host).1 with
  | .error error => some error
  | .ok _ => none

end Outage

open Outage in
/-- A failure that is caught and raised again, within a call and around it, stays that of the host;
an error that takes its place is not. -/
theorem failure_passes_unchanged :
    (∃ origin after,
      Ends Script.callLimit (.call (.closure 0) []) (trackedOf host) (some origin) after ∧
        origin.IsHost ∧ (program.invoke scripting .init host).1 = .error ⟨.native, "offline"⟩) ∧
    ∃ origin after,
      Ends Script.callLimit (.call (.closure 1) []) (trackedOf host) (some origin) after ∧
        ¬ origin.IsHost ∧
        (program.invoke scripting .run host).1 = .error ⟨.runtime, "runtime error: gave up"⟩ := by
  obtain ⟨_, callbacks, _, settle⟩ := errors_are_attributed
  have reported {hook : Hook} {id : Nat} (body : List Step) {error : ScriptError}
      (present : program.callbacks.lookup hook = some (.closure id))
      (isBody : host.scripts.store.closures[id]? = some ⟨[], Step.statements body, []⟩)
      (answers : answer hook = some error) : ∃ origin after,
        Ends Script.callLimit (.call (.closure id) []) (trackedOf host) (some origin) after ∧
          origin.error = error ∧ (program.invoke scripting hook host).1 = .error error := by
    obtain ⟨outcome, after, ends⟩ :=
      (settle host isPlain).functions id [] body [] [] isBody List.not_mem_nil rfl
    have ⟨answered, _⟩ := callbacks program hook (.closure id) host outcome after rfl present ends
    unfold answer at answers
    rw [answered] at answers
    cases outcome with
    | none => cases answers
    | some origin =>
        obtain rfl := Option.some.inj answers
        exact ⟨origin, after, ends, rfl, answered⟩
  have native : answer .init = some ⟨.native, "offline"⟩ := by decide +kernel
  have runtime : answer .run = some ⟨.runtime, "runtime error: gave up"⟩ := by decide +kernel
  constructor
  · obtain ⟨origin, after, ends, error, answered⟩ := reported passing rfl rfl native
    exact ⟨origin, after, ends, origin.kind_error.mp (congrArg ScriptError.kind error), answered⟩
  · obtain ⟨origin, after, ends, error, answered⟩ := reported replacing rfl rfl runtime
    refine ⟨origin, after, ends, fun isHost => ?_, answered⟩
    have kind := origin.kind_error.mpr isHost
    rw [error] at kind
    cases kind

end ScriptedRobot.Engine
