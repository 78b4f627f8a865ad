import ScriptedRobot.Text.Visible

/-! # Quoted texts

A text between quotation marks, written so that every character shows: a quotation mark and a
backslash follow a backslash, the common controls have a letter, and any other character that does
not show is given by its number. -/

namespace ScriptedRobot.Text

/-- One character of a quoted text. -/
def quotedCharacter (character : Char) : String :=
  match character with
  | '"' => "\\\""
  | '\\' => "\\\\"
  | '\n' => "\\n"
  | '\r' => "\\r"
  | '\t' => "\\t"
  | '\x00' => "\\0"
  | _ =>
    if isVisible character then character.toString
    else "\\u\x7b" ++ String.ofList (Nat.toDigits 16 character.toNat) ++ "\x7d"

/-- A text between quotation marks. -/
def quoted (text : String) : String :=
  "\"" ++ String.join (text.toList.map quotedCharacter) ++ "\""

end ScriptedRobot.Text
