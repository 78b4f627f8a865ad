import ScriptedRobot.Journal
import ScriptedRobot.Script.Value
import ScriptedRobot.Text.Alphabetical

/-! # Capabilities

A capability is a function of the host under a name. Publishing a capability makes a *grant*: the
one function a script can hold, keep and call. A grant that is no longer live answers the neutral
value fixed when it was published, whatever it is called with. -/

namespace ScriptedRobot

open Script (Value Callable Neutral)

namespace Capability

/-- What a function of the host answers. -/
inductive Reply where
  | returns (values : List Value)
  | fails (message : String)
  /-- Call a function of the script without arguments and answer what it returns. -/
  | delegates (callee : Callable)

/-- A function of the host, over the state `σ` of the subsystems behind it. -/
abbrev Native (σ : Type) : Type :=
  List Value → σ → Reply × σ × List Event

end Capability

/-- A function of the host under a name, with the value it answers after it was retracted. -/
structure Capability (σ : Type) where
  symbol : String
  neutral : Neutral
  perform : Capability.Native σ

namespace Capability

/-- A function handed out to scripts. -/
structure Grant (σ : Type) where
  module : String
  capability : Capability σ
  live : Bool

/-- Everything published: all grants ever made, and for every module the grants of its symbols.
Modules and symbols are kept in alphabetical order. -/
structure Registry (σ : Type) where
  grants : Array (Grant σ) := #[]
  modules : List (String × List (String × Nat)) := []

instance {σ : Type} : Inhabited (Registry σ) := ⟨{}⟩

namespace Registry

variable {σ : Type}

/-- The grants of the symbols of a module. -/
def symbolsOf (registry : Registry σ) (module : String) : List (String × Nat) :=
  (registry.modules.lookup module).getD []

/-- Whether a module is published. -/
def isPublished (registry : Registry σ) (module : String) : Bool :=
  (registry.modules.lookup module).isSome

/-- Whether a grant is live. -/
def isLiveGrant (registry : Registry σ) (grant : Nat) : Bool :=
  (registry.grants[grant]?.map Grant.live).getD false

/-- Whether a symbol is published and not retracted. -/
def isLive (registry : Registry σ) (module symbol : String) : Bool :=
  ((registry.symbolsOf module).lookup symbol).any registry.isLiveGrant

/-- The symbols of a module, in alphabetical order. -/
def symbols (registry : Registry σ) (module : String) : List String :=
  (registry.symbolsOf module).map Prod.fst

/-- The published modules, in alphabetical order. -/
def moduleNames (registry : Registry σ) : List String :=
  registry.modules.map Prod.fst

/-- Switch a grant off for good. -/
def switchOff (registry : Registry σ) (grant : Nat) : Registry σ :=
  { registry with grants := registry.grants.modify grant fun old => { old with live := false } }

/-- Make a live grant. -/
def handOut (registry : Registry σ) (module : String) (capability : Capability σ) :
    Nat × Registry σ :=
  (registry.grants.size,
    { registry with grants := registry.grants.push ⟨module, capability, true⟩ })

/-- Forget a module. -/
def withdraw (registry : Registry σ) (module : String) : Registry σ :=
  { registry with modules := registry.modules.filter fun entry => entry.1 ≠ module }

/-- Record the symbols of a module. -/
def record (registry : Registry σ) (module : String) (symbols : List (String × Nat)) :
    Registry σ :=
  { registry with modules := Text.insertSorted module symbols registry.modules }

end Registry

end Capability

end ScriptedRobot
