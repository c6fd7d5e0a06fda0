import SiteFilter.Selection
import SiteFilter.SitePaths

/-!
# Faults

Everything that can stop the program after its command line was accepted, as causes. A fault has a
message, belongs to one class, and decides the exit code; the report of a fault is one text led by
the name of its class.
-/

namespace SiteFilter

/-- Why a run did not do its work. -/
inductive Fault where
  | loggerRefused (reason : Text)
  | handlerRefused (reason : Text)
  /-- An interrupt arrived before the filter file was written. -/
  | interrupted
  | pathsUnknown (cause : SitePathsFault)
  | unreadable (path : Path) (reason : Text)
  | unwritable (path : Path) (reason : Text)
  | tooFew (shortage : Shortage)
  deriving DecidableEq, Repr

/-- The kinds of fault that an operator tells apart. -/
inductive FaultClass where
  | configuration
  | io
  | validation
  | runtime
  deriving DecidableEq, Repr

def FaultClass.label : FaultClass → Text
  | .configuration => "configuration".toList
  | .io => "io".toList
  | .validation => "validation".toList
  | .runtime => "runtime".toList

namespace Fault

/-- The message of the cause that a fault passes on. -/
def cause? : Fault → Option Text
  | .pathsUnknown cause => some cause.message
  | .tooFew shortage => some shortage.message
  | _ => none

def message : Fault → Text
  | .loggerRefused reason => "failed to initialize logger: ".toList ++ reason
  | .handlerRefused reason => "failed to install SIGINT handler: ".toList ++ reason
  | .interrupted => "operation interrupted by SIGINT".toList
  | .pathsUnknown cause => "path resolution failed: ".toList ++ cause.message
  | .unreadable path reason =>
    "failed to read site list ".toList ++ path.display ++ ": ".toList ++ reason
  | .unwritable path reason =>
    "failed to write filter file ".toList ++ path.display ++ ": ".toList ++ reason
  | .tooFew shortage => "invalid filter count: ".toList ++ shortage.message

def category : Fault → FaultClass
  | .pathsUnknown _ => .configuration
  | .unreadable _ _ | .unwritable _ _ => .io
  | .tooFew _ => .validation
  | .loggerRefused _ | .handlerRefused _ | .interrupted => .runtime

def exitCode : Fault → Nat
  | .interrupted => 130
  | _ => 1

/-- How a fault is reported: its class and its message. -/
def report (f : Fault) : Text := f.category.label ++ " error: ".toList ++ f.message

end Fault

end SiteFilter
