/-! # Failures of robot programs

Why a program could not be loaded or why one of its callbacks failed. -/

namespace ScriptedRobot

/-- What went wrong with a program. The first five causes arise while the program is loaded. -/
inductive ErrorKind where
  | fileNotFound
  | io
  | syntaxError
  | notAFactory
  | notADescriptor
  /-- The program raised an error. -/
  | runtime
  /-- A function of the host failed. -/
  | native
  deriving Repr, DecidableEq

namespace ErrorKind

/-- The written name of the cause. -/
def text : ErrorKind → String
  | .fileNotFound => "file not found"
  | .io => "io"
  | .syntaxError => "syntax"
  | .notAFactory => "not a factory"
  | .notADescriptor => "not a descriptor"
  | .runtime => "runtime"
  | .native => "native"

/-- Every cause, in the order of the stages of a load. -/
def all : List ErrorKind :=
  [.fileNotFound, .io, .syntaxError, .notAFactory, .notADescriptor, .runtime, .native]

/-- The cause as one capitalised word. -/
def label : ErrorKind → String
  | .fileNotFound => "FileNotFound"
  | .io => "Io"
  | .syntaxError => "Syntax"
  | .notAFactory => "NotAFactory"
  | .notADescriptor => "NotADescriptor"
  | .runtime => "Runtime"
  | .native => "Native"

/-- Whether the cause prevents a program from being used at all. -/
def isLoadError : ErrorKind → Bool
  | .runtime | .native => false
  | _ => true

end ErrorKind

/-- A failure with its cause. -/
structure ScriptError where
  kind : ErrorKind
  message : String
  deriving Repr, DecidableEq

/-- The failure as one line of text. -/
def ScriptError.text (error : ScriptError) : String :=
  "script error (" ++ error.kind.text ++ "): " ++ error.message

end ScriptedRobot
