import SiteFilter.Fault
import SiteFilter.Log.RecordStyle

/-!
# The logger of a process

A process has at most one logger. It is installed once, with a verbosity and a style, and stays as
it is: a second installation is refused and changes nothing. Before the first, no record is written.
-/

namespace SiteFilter

/-- A logger: which records it lets through and how it writes them. -/
structure Logger where
  verbosity : Verbosity
  style : RecordStyle
  deriving DecidableEq, Repr

namespace Logger

def record (logger : Logger) (level : Level) (message : Text) : Text :=
  if logger.verbosity.admits level then logger.style.line level message else []

def alreadyInstalled : Text :=
  "attempted to set a logger after the logging system was already initialized".toList

/-- The logger in force after an attempt to install `new` where `current` is installed. -/
def install (current : Option Logger) (new : Logger) : Except Fault Logger :=
  match current with
  | none => .ok new
  | some _ => .error (.loggerRefused alreadyInstalled)

end Logger

/-! ## A process that logs -/

/-- The logging state of a process. -/
structure Logging where
  logger : Option Logger
  written : Text
  deriving DecidableEq, Repr

namespace Logging

def fresh : Logging := ⟨none, []⟩

/-- What a process may do with its logger. -/
inductive Step where
  | install (verbosity : Verbosity)
  | log (level : Level) (message : Text)
  deriving DecidableEq, Repr

inductive Answer where
  | installed
  | refused (fault : Fault)
  /-- The verbosity in force when a record was logged. -/
  | logged (inForce : Verbosity)
  deriving DecidableEq, Repr

def verbosity (s : Logging) : Verbosity :=
  match s.logger with
  | none => .off
  | some logger => logger.verbosity

def record (s : Logging) (level : Level) (message : Text) : Text :=
  match s.logger with
  | none => []
  | some logger => logger.record level message

/-- One step of a process whose records have the style `style`. -/
def step (style : RecordStyle) (s : Logging) : Step → Logging × Answer
  | .install verbosity =>
    match Logger.install s.logger ⟨verbosity, style⟩ with
    | .ok logger => ({ s with logger := some logger }, .installed)
    | .error fault => (s, .refused fault)
  | .log level message =>
    ({ s with written := s.written ++ s.record level message }, .logged s.verbosity)

def run (style : RecordStyle) : Logging → List Step → Logging × List Answer
  | s, [] => (s, [])
  | s, x :: rest =>
    let after := s.step style x
    let last := run style after.1 rest
    (last.1, after.2 :: last.2)

end Logging

end SiteFilter
