/-! # Journal

What the host reports while it runs: events with a severity, the part of the host that reports,
and a text. The journal is data, so that a run can be compared event by event. -/

namespace ScriptedRobot

/-- How important an event is. -/
inductive Severity where
  | trace
  | debug
  | info
  | warning
  | error
  deriving Repr, DecidableEq

/-- The severity as it is written in a log. -/
def Severity.label : Severity → String
  | .trace => "TRACE"
  | .debug => "DEBUG"
  | .info => "INFO"
  | .warning => "WARN"
  | .error => "ERROR"

/-- How many requests for more detail it takes to see events of a severity. -/
def Severity.verbosity : Severity → Nat
  | .error | .warning => 0
  | .info => 1
  | .debug => 2
  | .trace => 3

/-- The part of the host that reports an event. -/
inductive Source where
  /-- The control loop and the simulated hardware. -/
  | bot
  /-- The script engine. -/
  | scripts
  /-- The shooter. -/
  | shooter
  /-- The registry of capabilities. -/
  | bindings
  deriving Repr, DecidableEq

/-- The source as it is written in a log. -/
def Source.label : Source → String
  | .bot => "bot"
  | .scripts => "lua"
  | .shooter => "shooter"
  | .bindings => "bindings"

/-- Something the host reports. -/
structure Event where
  severity : Severity
  source : Source
  message : String
  deriving Repr, DecidableEq

/-- An event as a line of a log. -/
def Event.line (event : Event) : String :=
  event.severity.label ++ " " ++ event.source.label ++ ": " ++ event.message

/-- The lines of a log that shows events up to a verbosity. -/
def logLines (verbosity : Nat) (events : Array Event) : List String :=
  (events.toList.filter fun event => decide (event.severity.verbosity ≤ verbosity)).map Event.line

end ScriptedRobot
