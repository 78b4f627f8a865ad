/-! # Paths

Paths are texts with parts between slashes. Joining and taking apart work on the text alone; what
a path leads to is a matter of the files. -/

namespace ScriptedRobot.Path

/-- Whether a path starts at the root of all files. -/
def isAbsolute (path : String) : Bool :=
  path.startsWith "/"

/-- What lies between the slashes, empty parts included. -/
def parts (path : String) : List String :=
  (path.toList.splitOn '/').map String.ofList

/-- A path seen from a directory. An absolute path stays as it is. -/
def join (directory path : String) : String :=
  if isAbsolute path || directory.isEmpty then path
  else if directory.endsWith "/" then directory ++ path
  else directory ++ "/" ++ path

/-- The parts of a path that lead somewhere else. -/
def steps (path : String) : List String :=
  (parts path).filter fun part => part ≠ "" ∧ part ≠ "."

/-- The name at the end of a path. The way up is not a name. -/
def fileName? (path : String) : Option String :=
  match (steps path).getLast? with
  | some ".." => none
  | name => name

/-- The path without its last step. -/
def parent (path : String) : String :=
  (if isAbsolute path then "/" else "./") ++ "/".intercalate (steps path).dropLast

/-- How many steps a relative path takes: its parts, not counting empty ones and points, save a
point at the very start. -/
def stepCount (path : String) : Nat :=
  match parts path with
  | [] => 0
  | first :: rest =>
    ((first :: rest.filter (· != ".")).filter (· != "")).length

/-- What follows the last point of a name, if there is something before the point. -/
def extension? (name : String) : Option String :=
  match (name.toList.splitOn '.').reverse with
  | last :: before :: others =>
    if others.isEmpty && before.isEmpty then none else some (String.ofList last)
  | _ => none

end ScriptedRobot.Path
