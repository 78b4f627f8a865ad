import ScriptedRobot.Text.Alphabetical

/-! # Settings

A setting is a constant, a list, or a table of settings in alphabetical order. Layers of settings
are merged key by key: tables are merged with each other, and anything else is replaced. -/

namespace ScriptedRobot.Setup

/-- A value in a source of settings. Whole numbers keep whether they were written for a signed
place. -/
inductive Setting where
  | text (value : String)
  | boolean (value : Bool)
  | unsigned (value : Nat)
  | signed (value : Int)
  | number (value : Float)
  | list (values : List Setting)
  | table (entries : List (String × Setting))
  deriving Repr

instance : Inhabited Setting := ⟨.table []⟩

/-- The entries of a table. -/
abbrev Settings : Type := List (String × Setting)

mutual

/-- A newer setting over an older one. -/
def Setting.over (older : Setting) : Setting → Setting
  | .table entries =>
    match older with
    | .table olderEntries => .table (overEntries olderEntries entries)
    | _ => .table entries
  | newer => newer

/-- Newer entries over older ones. -/
def overEntries (older : Settings) : Settings → Settings
  | [] => older
  | (key, newer) :: rest =>
    let value := match older.lookup key with
      | some setting => Setting.over setting newer
      | none => newer
    overEntries (Text.insertSorted key value older) rest

end

/-- A setting under a path of keys. -/
def nested (value : Setting) : List String → Setting
  | [] => value
  | key :: rest => .table [(key, nested value rest)]

end ScriptedRobot.Setup
