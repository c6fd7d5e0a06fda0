import SiteFilter.Text.Basic

/-!
# Levels of log records

Every record has one of five levels. A verbosity lets through the records up to a level, the most
severe first, or none at all.
-/

namespace SiteFilter

inductive Level where
  | error
  | warn
  | info
  | debug
  | trace
  deriving DecidableEq, Repr

namespace Level

/-- The place of a level among the five, the most severe first. -/
def rank : Level → Nat
  | .error => 1
  | .warn => 2
  | .info => 3
  | .debug => 4
  | .trace => 5

def name : Level → Text
  | .error => "ERROR".toList
  | .warn => "WARN".toList
  | .info => "INFO".toList
  | .debug => "DEBUG".toList
  | .trace => "TRACE".toList

end Level

inductive Verbosity where
  | off
  /-- Records of this level and the more severe ones. -/
  | upTo (level : Level)
  deriving DecidableEq, Repr

namespace Verbosity

def admits : Verbosity → Level → Bool
  | .off, _ => false
  | .upTo most, level => level.rank ≤ most.rank

def name : Verbosity → Text
  | .off => "OFF".toList
  | .upTo level => level.name

end Verbosity

end SiteFilter
