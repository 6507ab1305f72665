/-
  CodeFigure/Log.lean
  ===================
  **What the library reports beside its results.**

  Rendering never stops at a failure that it can work around, so such failures
  are reported on the side.  A log entry is a value: every operation that may
  report something returns its entries, in the order in which they arose, and
  the command line decides what to do with them.
-/
namespace CodeFigure

inductive LogLevel where
  | debug
  | info
  | warn
  | error
deriving DecidableEq, Repr

def LogLevel.name : LogLevel → String
  | .debug => "DEBUG"
  | .info => "INFO"
  | .warn => "WARN"
  | .error => "ERROR"

/-- One report: a fixed message, and what it is about as named texts. -/
structure LogEntry where
  level : LogLevel
  message : String
  fields : List (String × String)
deriving DecidableEq, Repr

end CodeFigure
