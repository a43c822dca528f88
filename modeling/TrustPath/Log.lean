/-!
Log entries as data. An operation that logs returns its entries in the order in
which they arise.
-/

namespace TrustPath

/-- How serious a log entry is. -/
inductive LogLevel where
  | error
  | warn
  | info
  | debug
deriving DecidableEq

def LogLevel.name : LogLevel → String
  | .error => "ERROR"
  | .warn => "WARN"
  | .info => "INFO"
  | .debug => "DEBUG"

/-- One log message. -/
structure LogEntry where
  level : LogLevel
  text : String
deriving DecidableEq

abbrev Log := List LogEntry

/-- A value together with what was logged while it was computed. -/
structure Logged (α : Type) where
  value : α
  log : Log

def Logged.quiet {α : Type} (value : α) : Logged α :=
  ⟨value, []⟩

def Logged.noting {α : Type} (level : LogLevel) (text : String) (value : α) :
    Logged α :=
  ⟨value, [⟨level, text⟩]⟩

end TrustPath
