/-! # Blank space and lines of text

Which characters count as blank, trimming them, and cutting a text into lines. -/

namespace ScriptedRobot.Text

/-- The characters with the Unicode property White_Space, by their ranges of code points. -/
def blankRanges : List (Nat × Nat) :=
  [(0x9, 0xD), (0x20, 0x20), (0x85, 0x85), (0xA0, 0xA0), (0x1680, 0x1680), (0x2000, 0x200A),
    (0x2028, 0x2029), (0x202F, 0x202F), (0x205F, 0x205F), (0x3000, 0x3000)]

/-- Whether a character is blank. -/
def isBlank (character : Char) : Bool :=
  blankRanges.any fun (first, last) =>
    first ≤ character.toNat && character.toNat ≤ last

theorem isBlank_of_isWhitespace {character : Char} (h : character.isWhitespace = true) :
    isBlank character = true := by
  simp only [Char.isWhitespace, Bool.or_eq_true, decide_eq_true_eq] at h
  rcases h with ((rfl | rfl) | rfl) | rfl <;> decide

/-- Drop blank characters at the start. -/
def trimStart (text : String) : String :=
  String.ofList (text.toList.dropWhile isBlank)

/-- Drop blank characters at both ends. -/
def trim (text : String) : String :=
  String.ofList ((text.toList.dropWhile isBlank).reverse.dropWhile isBlank).reverse

/-- Cut a text after every line feed. The pieces join to the text. -/
def cutAfterLineFeeds : List Char → List (List Char)
  | [] => []
  | '\n' :: rest => ['\n'] :: cutAfterLineFeeds rest
  | character :: rest =>
    match cutAfterLineFeeds rest with
    | [] => [[character]]
    | line :: lines => (character :: line) :: lines

/-- A line without its ending: a line feed, or a carriage return and a line feed. -/
def withoutEnding (line : List Char) : List Char :=
  match line.reverse with
  | '\n' :: '\r' :: rest => rest.reverse
  | '\n' :: rest => rest.reverse
  | _ => line

/-- The lines of a text without their endings. A line feed at the end of the text does not start
another line. -/
def lines (text : String) : List String :=
  (cutAfterLineFeeds text.toList).map fun line => String.ofList (withoutEnding line)

/-- Put a word before every line. -/
def indent (word text : String) : String :=
  "\n".intercalate ((lines text).map (word ++ ·))

/-- Copies of one character as a text. -/
def repeated (count : Nat) (character : Char) : String :=
  String.ofList (List.replicate count character)

/-- Fill a text with spaces on the right to a width counted in characters. -/
def padRight (width : Nat) (text : String) : String :=
  text ++ repeated (width - text.length) ' '

/-- Centre a text in a width counted in characters; an odd space goes to the right. -/
def center (width : Nat) (text : String) : String :=
  let space := width - text.length
  repeated (space / 2) ' ' ++ text ++ repeated (space - space / 2) ' '

end ScriptedRobot.Text
