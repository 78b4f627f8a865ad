import ScriptedRobot.Path
import ScriptedRobot.Script.Syntax
import ScriptedRobot.Text.Utf8

/-! # Files

The files a run can see: a tree given by the paths of its files and of its empty directories. A
path is seen from the working directory unless it starts at the root. It may pass through
directories only, and one that ends in a slash or a point leads to a directory. -/

namespace ScriptedRobot

/-- What is in a file. -/
inductive FileContent where
  /-- A text, and the statements that it is compiled to if it is a script. -/
  | text (content : String) (chunk? : Option Script.Chunk)
  /-- A script, given by its statements. -/
  | script (chunk : Script.Chunk)
  /-- Reading the file fails. -/
  | unreadable

/-- What a path leads to. -/
inductive Entry where
  | file (content : FileContent)
  | directory

/-- The files of a run. Places are lists of names from the root. -/
structure Files where
  /-- The path of the working directory. -/
  workingDirectory : String := "/"
  entries : List (List String × Entry) := []
  /-- Files whose names are not text: the directories that they are in, and the bytes of their
  names. No path names them. -/
  unnameable : List (List String × {name : List UInt8 // Text.textOf? name = none}) := []
  /-- Directories that can be gone through, but whose files cannot be listed. -/
  unlistable : List (List String) := []

instance : Inhabited Files := ⟨{}⟩

namespace Files

/-- What is at a place. Directories are there as soon as something is below them, and the working
directory always is. -/
def entry? (files : Files) (place : List String) : Option Entry :=
  match files.entries.lookup place with
  | some entry => some entry
  | none =>
    if place.isPrefixOf (Path.steps files.workingDirectory) ||
        files.entries.any (fun entry => place.isPrefixOf entry.1) ||
        files.unnameable.any (fun file => place.isPrefixOf file.1) then
      some .directory
    else none

/-- Whether a directory is at a place. -/
def isDirectoryAt (files : Files) (place : List String) : Bool :=
  match files.entry? place with
  | some .directory => true
  | _ => false

/-- Follow the parts of a path from a place, if every step starts in a directory. The way up from
the root leads to the root. -/
def follow (files : Files) : List String → List String → Option (List String)
  | place, [] => some place
  | place, part :: rest =>
    if files.isDirectoryAt place then
      if part = "" ∨ part = "." then follow files place rest
      else if part = ".." then follow files place.dropLast rest
      else
        let next := place ++ [part]
        if (files.entry? next).isSome then follow files next rest else none
    else none

/-- A path seen from the root. One that starts with the working directory is taken as it is, and
an empty one leads nowhere. -/
def fromRoot? (files : Files) (path : String) : Option String :=
  let directory := files.workingDirectory
  if path.isEmpty then none
  else if Path.isAbsolute path || path == directory || path.startsWith (directory ++ "/") then
    some path
  else some (Path.join directory path)

/-- The place that a path leads to. -/
def place? (files : Files) (path : String) : Option (List String) := do
  files.follow [] (Path.parts (← files.fromRoot? path))

/-- What a path leads to. -/
def find? (files : Files) (path : String) : Option Entry := do
  files.entry? (← files.place? path)

/-- Whether a path leads to anything. -/
def contains (files : Files) (path : String) : Bool :=
  (files.find? path).isSome

/-- The content of the file that a path leads to. -/
def content? (files : Files) (path : String) : Option FileContent :=
  match files.find? path with
  | some (.file content) => some content
  | _ => none

/-- Whether a path leads to a file. -/
def isFile (files : Files) (path : String) : Bool :=
  (files.content? path).isSome

/-- The place of the directory that a path leads to, if its files can be listed. -/
def listable? (files : Files) (path : String) : Option (List String) :=
  (files.place? path).filter fun place =>
    files.isDirectoryAt place && !files.unlistable.contains place

/-- The names of the files directly in a place, as bytes. -/
def rawNames (files : Files) (place : List String) : List (List UInt8) :=
  (files.entries.filterMap fun
    | (names, .file _) =>
      if names.dropLast = place then names.getLast?.map Text.encodeUtf8 else none
    | _ => none) ++
  files.unnameable.filterMap fun file => if file.1 = place then some file.2.val else none

/-- The names of the files directly in a place, as far as they are text, in alphabetical order. -/
def fileNames (files : Files) (place : List String) : List String :=
  ((files.rawNames place).filterMap Text.textOf?).mergeSort fun left right => decide (left ≤ right)

/-- The place that a path without ways up names, whether something is there or not. -/
def namedPlace (files : Files) (path : String) : List String :=
  Path.steps ((files.fromRoot? path).getD path)

/-- Remove what a path names. The directory it was in stays. -/
def remove (files : Files) (path : String) : Files :=
  let place := files.namedPlace path
  let kept := files.entries.filter fun entry => !place.isPrefixOf entry.1
  { files with
    entries :=
      if (kept.map Prod.fst).contains place.dropLast then kept
      else kept ++ [(place.dropLast, .directory)]
    unnameable := files.unnameable.filter fun file => !place.isPrefixOf file.1 }

/-- Put a file or a directory at the place that a path names. -/
def write (files : Files) (path : String) (entry : Entry) : Files :=
  let place := files.namedPlace path
  { files with
    entries := files.entries.filter (fun old => old.1 ≠ place) ++ [(place, entry)] }

/-- Follow the steps of a path from a place as if missing directories were made on the way. A file
may not be in the way. -/
def wayFrom? (files : Files) : List String → List String → Option (List String)
  | place, [] => some place
  | place, step :: rest =>
    if step = ".." then wayFrom? files place.dropLast rest
    else
      match files.entry? (place ++ [step]) with
      | some (.file _) => none
      | _ => wayFrom? files (place ++ [step]) rest

/-- Make sure that there is a file at a path, an empty one if there was none. A directory in its
place or a file in the way prevents that. -/
def touch? (files : Files) (path : String) : Option Files := do
  let steps := Path.steps (← files.fromRoot? path)
  let place := (← files.wayFrom? [] steps.dropLast) ++ [← steps.getLast?]
  match files.entry? place with
  | some .directory => none
  | some (.file _) => some files
  | none => some { files with entries := files.entries ++ [(place, .file (.text "" (some [])))] }

end Files

end ScriptedRobot
