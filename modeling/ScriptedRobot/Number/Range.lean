/-! # Ranges of integers

The ends of the ranges of machine integers. -/

namespace ScriptedRobot.Number

/-- The least 32-bit integer. -/
def int32Least : Int := -2147483648

/-- The greatest 32-bit integer. -/
def int32Greatest : Int := 2147483647

/-- The least 64-bit integer. -/
def int64Least : Int := -9223372036854775808

/-- The greatest 64-bit integer. -/
def int64Greatest : Int := 9223372036854775807

/-- The number of 32-bit words. -/
def wordCount : Nat := 4294967296

/-- The number of 64-bit words. -/
def longWordCount : Nat := 18446744073709551616

/-- Whether an integer has 32 bits. -/
def isInt32 (value : Int) : Bool :=
  int32Least ≤ value && value ≤ int32Greatest

/-- Whether an integer has 64 bits. -/
def isInt64 (value : Int) : Bool :=
  int64Least ≤ value && value ≤ int64Greatest

/-- The integer with 32 bits, if it fits. -/
def toInt32? (value : Int) : Option Int32 :=
  if isInt32 value then some (Int32.ofInt value) else none

/-- The integer with 64 bits, if it fits. -/
def toInt64? (value : Int) : Option Int64 :=
  if isInt64 value then some (Int64.ofInt value) else none

end ScriptedRobot.Number
