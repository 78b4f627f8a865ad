import ScriptedRobot.Lifecycle.Mode
import ScriptedRobot.Number.Decimal
import ScriptedRobot.Text.Blank

/-! # Console output

The texts that the command line prints: the banner at the start of a run, the summary at its end,
the list of programs and the list of configuration sources. -/

namespace ScriptedRobot.Console

/-- How a piece of text stands out. -/
inductive Style where
  | heading
  | failure
  | success
  | rule
  | title
  | faint
  deriving Repr, DecidableEq

/-- The terminal attributes of a style. -/
def Style.attributes : Style → String
  | .heading => "1;36"
  | .failure => "1;31"
  | .success => "32"
  | .rule => "36"
  | .title => "1"
  | .faint => "2"

/-- The terminal sequence that ends every style. -/
def resetSequence : String := "\u001b[0m"

/-- The terminal sequence that starts a style. -/
def Style.sequence (style : Style) : String :=
  "\u001b[" ++ style.attributes ++ "m"

/-- Style a text, if colours are on. Where the text itself ends a style, the style starts anew. -/
def styled (color : Bool) (style : Style) (text : String) : String :=
  if color then
    style.sequence ++ text.replace resetSequence (resetSequence ++ style.sequence) ++ resetSequence
  else text

/-- The width of the rules around the title. -/
def ruleWidth : Nat := 60

/-- A rule across the page. -/
def rule (color : Bool) : String :=
  styled color .rule (Text.repeated ruleWidth '=')

/-- A title between two rules. -/
def header (color : Bool) (title : String) : String :=
  rule color ++ "\n" ++ styled color .title (Text.center ruleWidth title) ++ "\n" ++ rule color

/-- The heading of a section. -/
def sectionHeader (color : Bool) (title : String) : String :=
  "\n" ++ styled color .heading title ++ "\n" ++ Text.repeated 40 '-' ++ "\n"

/-- A labelled line. -/
def labelled (color : Bool) (label content : String) : String :=
  styled color .heading label ++ " " ++ content ++ "\n"

/-- What the banner tells. -/
structure Banner where
  version : String
  runtime : String
  teamName : String
  teamNumber : Int
  searchDirectory : Option String
  period : Int

/-- The text of the banner. -/
def Banner.text (banner : Banner) (color : Bool) : String :=
  let team := if banner.teamName.isEmpty then "(unnamed)" else banner.teamName
  header color ("luabot " ++ banner.version) ++ "\n" ++
  labelled color "Team:" (team ++ " #" ++ toString banner.teamNumber) ++
  labelled color "Runtime:" banner.runtime ++
  labelled color "Scripts:" (banner.searchDirectory.getD "(none)") ++
  labelled color "Period:" (toString banner.period ++ " ms")

/-- What happened during one activation of a mode. -/
structure Summary where
  mode : Mode
  program : Option String
  ticks : Nat
  allStopTicks : Nat
  error : Option String
  shooter : String
  driveSpeed : Float
  driveRotation : Float
  primaryVolts : Float
  secondaryVolts : Float

/-- The text of the summary. Ticks that were not stopped were scripted. -/
def Summary.text (summary : Summary) (color : Bool) : String :=
  sectionHeader color (summary.mode.name ++ " summary") ++
  labelled color "Program:" (summary.program.getD "(none)") ++
  labelled color "Ticks:"
    (toString summary.ticks ++ " (" ++ toString (summary.ticks - summary.allStopTicks) ++
      " scripted, " ++ toString summary.allStopTicks ++ " all-stop)") ++
  labelled color "Drive:"
    ("speed=" ++ Number.fixed 2 summary.driveSpeed ++
      " rotation=" ++ Number.fixed 2 summary.driveRotation) ++
  labelled color "Shooter:"
    (summary.shooter ++ " (primary " ++ Number.fixed 1 summary.primaryVolts ++
      " V, secondary " ++ Number.fixed 1 summary.secondaryVolts ++ " V)") ++
  (match summary.error with
    | some error =>
      styled color .failure "Script error:" ++ " " ++
        Text.trimStart (Text.indent "  " error) ++ "\n"
    | none => styled color .success "No script errors" ++ "\n") ++
  rule color ++ "\n"

/-- The list of programs in a directory. -/
def programList (color : Bool) (directory : Option String) (programs : List String) : String :=
  sectionHeader color "Bot programs" ++
  (match directory with
    | some directory => styled color .faint directory ++ "\n"
    | none => "") ++
  (if programs.isEmpty then "  (none found)\n" else "") ++
  String.join (programs.map fun program => "  * " ++ program ++ "\n")

/-- A file that may configure the host. -/
structure ConfigurationSource where
  label : String
  path : String
  found : Bool
  deriving Repr, DecidableEq

/-- One line about a source of configuration. -/
def ConfigurationSource.line (source : ConfigurationSource) : String :=
  "  [" ++ (if source.found then "FOUND" else "     ") ++ "] " ++
    Text.padRight 8 (source.label ++ ":") ++ " " ++ source.path ++ "\n"

/-- The list of configuration sources, in order of priority. -/
def configurationSources (sources : List ConfigurationSource) : String :=
  "Configuration sources (in priority order):\n" ++
  "  [     ] Env:     LUABOT_<SECTION>__<KEY>\n" ++
  String.join (sources.map ConfigurationSource.line) ++
  "  [     ] Default: built-in defaults\n"

end ScriptedRobot.Console
