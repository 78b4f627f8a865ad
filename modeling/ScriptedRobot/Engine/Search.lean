import ScriptedRobot.Configuration.Global
import ScriptedRobot.Engine.Host

/-! # Search path

Modules are searched for by templates: every question mark in a template stands for the name of
the module. The engine points the templates at one directory. Unless one was set, it takes the
first candidate that holds a marker file, and then loads the configuration module. -/

namespace ScriptedRobot.Engine

open Script (Run Value ArgumentFault)

/-- The templates for a directory. -/
def searchTemplates (directory : String) : String :=
  directory ++ "/?.lua;" ++ directory ++ "/?/init.lua"

/-- The marker that is looked for unless another one is configured. -/
def defaultMarker : String := "config.lua"

/-- Point the templates that scripts see at a directory. -/
def pointTemplates (directory : String) : Run Rig Unit := do
  match ← Run.getGlobal "package" with
  | .table id =>
    Run.setIndex (.table id) (.text "path") (.text (searchTemplates directory))
  | other => throw (.failure (.cause (ArgumentFault.notTable other.hostTypeName).message))

/-- Search in a directory. An empty path is passed over. -/
def setSearchPath (directory : String) (host : Host) : Except Value Unit × Host :=
  if directory.isEmpty then (.ok (), host)
  else
    match run (pointTemplates directory) host with
    | (.error raised, host) => (.error raised, host)
    | (.ok (), host) =>
      let host := { host with
        scripts := { host.scripts with searchDirectory := some directory } }
      (.ok (), host.note .debug .scripts ("search path: " ++ directory))

/-- The files that a module may be in. -/
def moduleFiles (templates name : String) : List String :=
  let named := templates.toList.flatMap fun letter => if letter = '?' then name.toList else [letter]
  (named.splitOn ';').map String.ofList

/-- The statements of a script file, if it can be read and compiled. -/
def scriptOf? : FileContent → Option Script.Chunk
  | .text _ chunk? => chunk?
  | .script chunk => some chunk
  | .unreadable => none

/-- The templates that modules are searched by. -/
def templates : Run Rig String := do
  match ← Run.readStore fun store => (store.table Script.Store.packageId).get (.text "path") with
  | .text templates => return templates
  | _ => Run.fail "'package.path' must be a string"

/-- The templates as scripts see them. -/
def packagePath : Run Rig Value := do
  Run.getIndex (← Run.getGlobal "package") (.text "path")

/-- Load a module: run the first file that exists. A module that returns nothing counts as
true. Modules are not remembered, so that a module is run again when it is asked for again. -/
def requireModule (files : Files) (place name : String) : Run Rig Value := do
  match (moduleFiles (← templates) name).find? files.contains with
  | none => Run.fail (place ++ "module '" ++ name ++ "' not found")
  | some path =>
    match (files.content? path).bind scriptOf? with
    | none => Run.fail ("error loading module '" ++ name ++ "' from file '" ++ path ++ "':")
    | some chunk =>
      let value := Value.first (← Run.chunk chunk [.text name, .text path])
      return if value.isNil then .boolean true else value

/-- Load the configuration module. -/
def loadConfiguration (files : Files) : Run Rig Unit := do
  let name := Configuration.Global.globalName
  Run.setGlobal name (← requireModule files "bootstrap:1: " name)

/-- The first candidate that holds a marker file. -/
def findRoot? (files : Files) (candidates : List String) (marker : String) : Option String :=
  candidates.find? fun directory => files.isFile (Path.join directory marker)

/-- Take the first candidate that holds a marker file as the search path, unless one is set. -/
def chooseRoot (candidates : List String) (marker : String) (host : Host) : Bool × Host :=
  match host.scripts.searchDirectory with
  | some _ => (true, host)
  | none =>
    match findRoot? host.scripts.files candidates marker with
    | none =>
      let host := host.note .error .scripts ("could not find " ++ marker ++ " in any script directory")
      (false, candidates.foldl (fun host directory =>
        host.note .debug .scripts ("  tried " ++ directory)) host)
    | some root =>
      match setSearchPath root host with
      | (.ok (), host) => (true, host)
      | (.error raised, host) =>
        (false, host.note .error .scripts ("could not set search path: " ++ complaint raised))

/-- The report of a loaded configuration. It asks the configuration whether or not anyone listens to
reports. -/
def configurationReport : Run Rig String := do
  let lookup : Configuration.Lookup (Run Rig) := Configuration.Global.lookup
  let name ← lookup.teamName
  let number ← lookup.teamNumber
  return "config loaded for " ++ name ++ " (" ++ toString number.toInt ++ ")"

/-- Choose the search path and load the configuration. Once it is loaded nothing is done. -/
def bootstrap (candidates : List String) (marker : String) (host : Host) : Bool × Host :=
  if host.scripts.bootstrapped then (true, host)
  else
    match chooseRoot candidates marker host with
    | (false, host) => (false, host)
    | (true, host) =>
      match run (loadConfiguration host.scripts.files) host with
      | (.error raised, host) =>
        (false, host.note .error .scripts ("could not load config: " ++ raised.errorMessage))
      | (.ok (), host) =>
        let (report, host) := ask configurationReport "" host
        let host := host.note .info .scripts report
        (true, { host with scripts := { host.scripts with bootstrapped := true } })

/-- The extension of programs. -/
def programExtension : String := "bot"

/-- Where a program is: a plain name is seen from the search directory. -/
def resolveProgram (searchDirectory : Option String) (program : String) : String :=
  if Path.isAbsolute program || 1 < Path.stepCount program then program
  else
    match searchDirectory with
    | some directory => Path.join directory program
    | none => program

/-- The programs in a place. -/
def programsAt (files : Files) (place : List String) : List String :=
  (files.fileNames place).filter fun name => Path.extension? name == some programExtension

/-- Why the files in a directory cannot be listed. -/
def listingFault (files : Files) (directory : String) : String :=
  match files.find? directory with
  | some .directory => "Permission denied (os error 13)"
  | some (.file _) => "Not a directory (os error 20)"
  | none => "No such file or directory (os error 2)"

/-- The programs in the search directory, in alphabetical order. -/
def listPrograms (host : Host) : List String × Host :=
  let files := host.scripts.files
  match host.scripts.searchDirectory with
  | none => ([], host)
  | some directory =>
    match files.listable? directory with
    | some place => (programsAt files place, host)
    | none => ([], host.note .warning .scripts
        ("cannot list " ++ directory ++ ": " ++ listingFault files directory))

end ScriptedRobot.Engine
