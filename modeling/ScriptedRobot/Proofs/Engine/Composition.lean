import ScriptedRobot.Engine.Loader
import ScriptedRobot.Proofs.Configuration.Readings
import ScriptedRobot.Proofs.Script.Composition

/-! # Properties that pass to what the engine runs

Besides chunks and calls the engine runs steps of its own on the machine of the scripts: it looks
configured values up, loads the configuration, and captures the callbacks of a program. They are
put together as scripts are, so that what passes from steps to scripts passes to them. -/

namespace ScriptedRobot

open Script (ArgumentFault Failure Run Tracking Value Vettable)
open Script.Vettable (IsVetted)

theorem Configuration.Global.isVetted_asTable? {allowed : Failure → Prop} (value : Script.Value) :
    IsVetted allowed (asTable? value) := by
  cases value with
  | table id =>
      rintro _ ⟨⟩
      trivial
  | _ => exact nofun

namespace Script.Tracking

variable {σ : Type} {allowed : Failure → Prop} {holds : ∀ {α : Type} [Vettable α], Run σ α → Prop}
  (tracking : Tracking allowed holds)
include tracking

open ScriptedRobot.Configuration in
theorem holds_attempt {step : Run σ Value} (held : holds step) :
    holds (Global.attempt step) := by
  refine tracking.tryCatch (tracking.holds_map held ?_) fun _ _ => tracking.pure nofun
  rintro value vetted _ ⟨⟩
  exact vetted

open ScriptedRobot.Configuration in
theorem holds_lookup (category symbol : String) :
    holds (Global.lookup category symbol : Run σ (Option Configuration.Value)) := by
  have holdsTable : holds (Global.configTable : Run σ (Option Value)) :=
    tracking.bind (tracking.holds_getGlobal _) fun value _ =>
      tracking.pure (Global.isVetted_asTable? value)
  have holdsEntry : holds (Global.entry category : Run σ (Option Value)) := by
    refine tracking.bind holdsTable fun table vetted => ?_
    cases table with
    | none => exact tracking.pure nofun
    | some table =>
        exact tracking.holds_attempt (tracking.holds_getIndex (vetted table rfl) trivial)
  have holdsCategory : holds (Global.category category : Run σ (Option Value)) := by
    refine tracking.bind holdsEntry fun found _ => ?_
    cases found with
    | none => exact tracking.pure nofun
    | some value => exact tracking.pure (Global.isVetted_asTable? value)
  unfold Global.lookup
  split
  · exact tracking.pure trivial
  · refine tracking.bind holdsCategory fun table vetted => ?_
    cases table with
    | none => exact tracking.pure trivial
    | some table =>
        have indexed : holds (Run.getIndex table (.text symbol) : Run σ Value) :=
          tracking.holds_getIndex (vetted table rfl) trivial
        exact tracking.bind (tracking.holds_attempt indexed) fun _ _ => tracking.pure trivial

section Reading

variable {lookup : Configuration.Lookup (Run σ)}
  (held : ∀ category symbol, holds (lookup category symbol))
include held

theorem holds_integer (category symbol : String) (fallback : Int32) :
    holds (lookup.integer category symbol fallback) :=
  tracking.bind (held category symbol) fun _ _ => tracking.pure trivial

theorem holds_text (category symbol fallback : String) :
    holds (lookup.text category symbol fallback) :=
  tracking.bind (held category symbol) fun _ _ => tracking.pure trivial

theorem holds_shooterSettings : holds lookup.shooterSettings := by
  have taken : holds (Configuration.Readings.take lookup) :=
    Configuration.Readings.take_related (fun step (_ : Run σ _) => holds step)
      (fun _ => tracking.pure trivial)
      (fun first second => tracking.bind first fun value _ => second value) lookup lookup held
  rw [Configuration.Readings.shooterSettings_eq]
  exact tracking.holds_map taken fun _ _ => trivial

end Reading

end Script.Tracking

namespace Engine

variable {allowed : Failure → Prop} {holds : ∀ {α : Type} [Vettable α], Run Rig α → Prop}
  (tracking : Tracking allowed holds)
include tracking

theorem holds_pointTemplates (refusal : ∀ fault : ArgumentFault, allowed (.cause fault.message))
    (directory : String) : holds (pointTemplates directory) := by
  refine tracking.bind (tracking.holds_getGlobal _) fun package _ => ?_
  split
  · exact tracking.holds_setIndex trivial trivial trivial
  · exact tracking.throw (refusal _)

theorem holds_requireModule (files : Files) (place name : String) :
    holds (requireModule files place name) := by
  have holdsTemplates : holds templates := by
    refine tracking.bind (tracking.holds_readStore fun _ vetted =>
      Script.Table.isVetted_get (vetted.1 _) _) fun found _ => ?_
    split
    · exact tracking.pure trivial
    · exact tracking.holds_complaint rfl
  refine tracking.bind holdsTemplates fun paths _ => ?_
  split
  · exact tracking.holds_complaint rfl
  · rename_i path _
    split
    · exact tracking.holds_complaint rfl
    · have arguments : IsVetted allowed [Value.text name, Value.text path] :=
        Script.isVetted_cons trivial (Script.isVetted_singleton trivial)
      refine tracking.bind (tracking.holds_chunk _ arguments) fun values vetted => ?_
      refine tracking.pure ?_
      split
      · trivial
      · exact Script.isVetted_first vetted

theorem holds_loadConfiguration (files : Files) : holds (loadConfiguration files) :=
  tracking.bind (holds_requireModule tracking files _ _) fun _ vetted =>
    tracking.holds_setGlobal _ vetted

theorem holds_configurationReport : holds configurationReport := by
  refine tracking.bind (tracking.holds_text tracking.holds_lookup _ _ _) fun name _ => ?_
  refine tracking.bind (tracking.holds_integer tracking.holds_lookup _ _ _) fun number _ => ?_
  exact tracking.pure trivial

theorem holds_captureHooks {descriptor : Value} (vetted : IsVetted allowed descriptor)
    (hooks : List Hook) : holds (captureHooks descriptor hooks) := by
  induction hooks with
  | nil => exact tracking.pure trivial
  | cons hook rest ih =>
      refine tracking.bind (tracking.holds_getIndex vetted trivial) fun found _ => ?_
      split
      · exact tracking.bind ih fun _ _ => tracking.pure trivial
      · exact ih

theorem holds_captureProgram (chunk : Script.Chunk) : holds (captureProgram chunk) := by
  refine tracking.bind (tracking.holds_chunk _ Script.isVetted_nil) fun values _ => ?_
  split
  · refine tracking.bind (tracking.holds_call _ Script.isVetted_nil) fun descriptor _ => ?_
    split
    · rename_i id _
      have held := @holds_captureHooks _ _ tracking (.table id) trivial Hook.all
      exact tracking.bind held fun _ _ => tracking.pure trivial
    · exact tracking.pure trivial
  · exact tracking.pure trivial

end Engine

end ScriptedRobot
