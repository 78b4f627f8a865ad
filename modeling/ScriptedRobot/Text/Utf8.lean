/-! # UTF-8

Decoding bytes with the exact place of the first fault, as strict and as forgiving readers need
it. A fault is the longest beginning of a sequence that could still have become a character. -/

namespace ScriptedRobot.Text

/-- The first fault of a sequence of bytes: where it starts, and how long it is. A fault without a
length is a sequence cut off by the end. -/
structure Utf8Fault where
  start : Nat
  length : Option Nat
  deriving Repr, DecidableEq

/-- The complaint about bytes that are not a text. -/
def Utf8Fault.message (fault : Utf8Fault) : String :=
  match fault.length with
  | some length =>
    "invalid utf-8 sequence of " ++ toString length ++ " bytes from index " ++
      toString fault.start
  | none => "incomplete utf-8 byte sequence from index " ++ toString fault.start

/-- How many bytes follow a first byte, and the range of the second byte. Overlong forms,
surrogates and code points beyond the last are excluded by that range. -/
def sequenceShape? (first : Nat) : Option (Nat × Nat × Nat) :=
  if 0xC2 ≤ first ∧ first ≤ 0xDF then some (1, 0x80, 0xBF)
  else if first = 0xE0 then some (2, 0xA0, 0xBF)
  else if first = 0xED then some (2, 0x80, 0x9F)
  else if 0xE1 ≤ first ∧ first ≤ 0xEF then some (2, 0x80, 0xBF)
  else if first = 0xF0 then some (3, 0x90, 0xBF)
  else if 0xF1 ≤ first ∧ first ≤ 0xF3 then some (3, 0x80, 0xBF)
  else if first = 0xF4 then some (3, 0x80, 0x8F)
  else none

/-- What a sequence of bytes starts with. -/
inductive Utf8Step where
  /-- A character of this many bytes. -/
  | character (value : Char) (width : Nat)
  /-- A fault of this many bytes, or one that reaches to the end. -/
  | fault (length : Option Nat)

/-- Read the bytes after the first; each lies in its range, and only the second has its own. -/
def continueSequence (remaining low high value width : Nat) : List UInt8 → Utf8Step
  | bytes =>
    match remaining, bytes with
    | 0, _ => .character (Char.ofNat value) width
    | _ + 1, [] => .fault none
    | remaining + 1, byte :: rest =>
      if low ≤ byte.toNat ∧ byte.toNat ≤ high then
        continueSequence remaining 0x80 0xBF (value * 64 + byte.toNat % 64) (width + 1) rest
      else .fault (some width)

/-- Read the character at the start of some bytes. -/
def readCharacter : List UInt8 → Option Utf8Step
  | [] => none
  | first :: rest =>
    if first.toNat < 0x80 then some (.character (Char.ofNat first.toNat) 1)
    else
      match sequenceShape? first.toNat with
      | none => some (.fault (some 1))
      | some (following, low, high) =>
        some (continueSequence following low high (first.toNat % Nat.pow 2 (6 - following)) 1 rest)

/-- Decode bytes, or find the first fault. The count bounds the number of characters. -/
def decodeFrom : Nat → Nat → List UInt8 → Except Utf8Fault (List Char)
  | 0, _, _ => .ok []
  | count + 1, position, bytes =>
    match readCharacter bytes with
    | none => .ok []
    | some (.fault length) => .error ⟨position, length⟩
    | some (.character value width) => do
      return value :: (← decodeFrom count (position + width) (bytes.drop width))

/-- Decode bytes to a text, or find the first fault. -/
def decodeUtf8 (bytes : List UInt8) : Except Utf8Fault String :=
  (decodeFrom bytes.length 0 bytes).map String.ofList

/-- Decode bytes and put the replacement character for every fault. -/
def decodeForgivingFrom : Nat → List UInt8 → List Char
  | 0, _ => []
  | count + 1, bytes =>
    match readCharacter bytes with
    | none => []
    | some (.character value width) => value :: decodeForgivingFrom count (bytes.drop width)
    | some (.fault (some length)) => '\ufffd' :: decodeForgivingFrom count (bytes.drop length)
    | some (.fault none) => ['\ufffd']

/-- Decode bytes and put the replacement character for every fault. -/
def decodeForgiving (bytes : List UInt8) : String :=
  String.ofList (decodeForgivingFrom bytes.length bytes)

/-- The bytes of a text. -/
def encodeUtf8 (text : String) : List UInt8 :=
  text.toUTF8.data.toList

/-- The text that has some bytes, if there is one. -/
def textOf? (bytes : List UInt8) : Option String :=
  String.fromUTF8? bytes.toByteArray

end ScriptedRobot.Text
