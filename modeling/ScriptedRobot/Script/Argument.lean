import ScriptedRobot.Script.Numeral

/-! # Arguments

How functions of the host take script values as arguments. A numeral is as good as a number, a
number as good as a text, and any value as a truth value; what remains is refused with a reason.
Arguments that are missing count as nil, and extra ones are ignored. -/

namespace ScriptedRobot.Script

/-- Why a value cannot be used as an argument. -/
inductive ArgumentFault where
  /-- Neither a number nor a numeral. -/
  | notNumeric (typeName wanted : String)
  /-- A number, but no 64-bit integer is near it. -/
  | outOfRange (typeName : String)
  | notText (typeName : String)
  | notUtf8 (fault : Text.Utf8Fault)
  | notFunction (typeName : String)
  | notTable (typeName : String)

/-- The complaint about an argument. -/
def ArgumentFault.message : ArgumentFault → String
  | .notNumeric typeName wanted =>
    "error converting Lua " ++ typeName ++ " to " ++ wanted ++
      " (expected number or string coercible to number)"
  | .outOfRange typeName => "error converting Lua " ++ typeName ++ " to i64 (out of range)"
  | .notText typeName =>
    "error converting Lua " ++ typeName ++ " to String (expected string or number)"
  | .notUtf8 fault => "error converting Lua string to &str (" ++ fault.message ++ ")"
  | .notFunction typeName => "error converting Lua " ++ typeName ++ " to function"
  | .notTable typeName => "error converting Lua " ++ typeName ++ " to table"

namespace Value

/-- The name of the type as the host sees it: integers are told apart from other numbers. -/
def hostTypeName : Value → String
  | .integer _ => "integer"
  | .failure _ => "error"
  | value => value.typeName

/-- A value as a floating-point number. -/
def toFloat (value : Value) : Except ArgumentFault Float :=
  match value.numeral? with
  | some (.integer whole) => .ok (Number.ofInt64 whole)
  | some (.number fraction) => .ok fraction
  | _ => .error (.notNumeric value.hostTypeName "f64")

/-- A value as an integer; a fraction is dropped. -/
def toInteger (value : Value) : Except ArgumentFault Int64 :=
  match value.numeral? with
  | some (.integer whole) => .ok whole
  | some (.number fraction) =>
    match Number.truncateToInt64? fraction with
    | some whole => .ok whole
    | none => .error (.outOfRange value.hostTypeName)
  | _ => .error (.notNumeric value.hostTypeName "i64")

/-- A value as a text. -/
def toText (value : Value) : Except ArgumentFault String :=
  match value with
  | .text content => .ok content
  | .bytes content =>
    match Text.decodeUtf8 content with
    | .ok decoded => .ok decoded
    | .error fault => .error (.notUtf8 fault)
  | .integer _ | .number _ => .ok value.display
  | _ => .error (.notText value.hostTypeName)

/-- A value as something to call. -/
def toCallable (value : Value) : Except ArgumentFault Callable :=
  match value with
  | .function callable => .ok callable
  | _ => .error (.notFunction value.hostTypeName)

/-- A value that may be absent. -/
def toOption {α : Type} (convert : Value → Except ArgumentFault α) (value : Value) :
    Except ArgumentFault (Option α) :=
  if value.isNil then .ok none else some <$> convert value

/-- The argument at a position; a missing one is nil. -/
def argument (arguments : List Value) (position : Nat) : Value :=
  arguments.getD position .nil

end Value

end ScriptedRobot.Script
