import ScriptedRobot.Number.Decimal
import ScriptedRobot.Text.Utf8

/-! # Script values

The values of the scripting language. Tables and functions written in a script are kept in the
store and known by number; so are the functions that the host hands out, each known by the number
of its grant. An error is an ordinary value that is raised; a failure inside a function of the
host is a value of its own that a script can catch and raise again, but not look into. -/

namespace ScriptedRobot.Script

/-- What a retired function of the host still answers. -/
inductive Neutral where
  | nothing
  | zero
  | no
  deriving Repr, DecidableEq

/-- The functions that are part of the language. -/
inductive Builtin where
  /-- Raise a value. -/
  | error
  /-- Call a function and catch what it raises. -/
  | protectedCall
  /-- The name of the type of a value. -/
  | type
  /-- Raise a message unless a condition holds. -/
  | assert
  /-- Show values to the host. -/
  | report
  deriving Repr, DecidableEq

/-- Whatever can be called. -/
inductive Callable where
  /-- A function written in a script. -/
  | closure (id : Nat)
  | builtin (builtin : Builtin)
  /-- A function of the host, handed out as a grant. -/
  | capability (grant : Nat)
  /-- What takes the place of a retracted function of the host. -/
  | standIn (neutral : Neutral)
  deriving Repr, DecidableEq

/-- A failure inside a function of the host. A failure that passes through another function of
the host is wrapped once more. -/
inductive Failure where
  | cause (message : String)
  | within (inner : Failure)
  deriving Repr, DecidableEq

/-- The message of the innermost cause. -/
def Failure.rootMessage : Failure → String
  | .cause message => message
  | .within inner => inner.rootMessage

/-- A script value. A string is kept as a text if its bytes are UTF-8, and as bytes otherwise. -/
inductive Value where
  | nil
  | boolean (value : Bool)
  | integer (value : Int64)
  | number (value : Float)
  | text (value : String)
  | bytes (value : List UInt8)
  | table (id : Nat)
  | function (callable : Callable)
  | failure (cause : Failure)
  deriving Repr

namespace Value

instance : Inhabited Value := ⟨.nil⟩

/-- Every value but nil and false counts as true. -/
def isTruthy : Value → Bool
  | .nil => false
  | .boolean value => value
  | _ => true

/-- Whether the value is nil. -/
def isNil : Value → Bool
  | .nil => true
  | _ => false

/-- The string with the given bytes. -/
def ofBytes (bytes : List UInt8) : Value :=
  match Text.decodeUtf8 bytes with
  | .ok decoded => .text decoded
  | .error _ => .bytes bytes

/-- The name of the type. -/
def typeName : Value → String
  | .nil => "nil"
  | .boolean _ => "boolean"
  | .integer _ | .number _ => "number"
  | .text _ | .bytes _ => "string"
  | .table _ => "table"
  | .function _ => "function"
  | .failure _ => "userdata"

/-- A floating-point number as a text: fourteen significant digits, and a fraction if the text
would otherwise read as an integer. -/
def numberText (value : Float) : String :=
  let text := Number.significant 14 value
  if text.toList.all fun character => character == '-' || character.isDigit then text ++ ".0"
  else text

/-- The value as a text. -/
def display : Value → String
  | .nil => "nil"
  | .boolean value => if value then "true" else "false"
  | .integer value => toString value.toInt
  | .number value => numberText value
  | .text value => value
  | .bytes value => Text.decodeForgiving value
  | .table _ => "table"
  | .function _ => "function"
  | .failure cause => cause.rootMessage

/-- The first of several values, or nil. -/
def first : List Value → Value
  | [] => .nil
  | value :: _ => value

end Value

namespace Neutral

/-- The values a retired function returns. -/
def values : Neutral → List Value
  | .nothing => []
  | .zero => [.number 0.0]
  | .no => [.boolean false]

end Neutral

/-- A raised value as a failure of the host function it passes through. -/
def Failure.wrap : Value → Failure
  | .failure inner => .within inner
  | value => .within (.cause ("runtime error: " ++ value.display))

/-- Whether a raised value comes from a function of the host. -/
def Value.isNative : Value → Bool
  | .failure _ => true
  | _ => false

/-- What the host reports about a raised value. -/
def Value.errorMessage : Value → String
  | .failure cause => cause.rootMessage
  | value => "runtime error: " ++ value.display

end ScriptedRobot.Script
