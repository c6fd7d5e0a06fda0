import SiteFilter.Environment
import SiteFilter.Log.Level

/-!
# How a log record is written

A record is one line in one of two styles: for people, or for the journal of a service manager.
The variable `MALSITES_LOG_FORMAT` names the style; any value that names none leaves it to what is
found around the program. Records are for people only where standard error is a terminal and
neither variable of a service manager is present.
-/

namespace SiteFilter

inductive RecordStyle where
  | human
  | journal
  deriving DecidableEq, Repr

namespace RecordStyle

def line : RecordStyle → Level → Text → Text
  | .human, level, message => level.name ++ ": ".toList ++ message ++ ['\n']
  | .journal, level, message =>
    "level=".toList ++ level.name ++ " msg=".toList ++ message ++ ['\n']

/-- The style with a name. ASCII letters may stand in either case. -/
def ofName? (name : Text) : Option RecordStyle :=
  let lower := name.map Char.toLower
  if lower = "human".toList then some .human
  else if lower = "journal".toList then some .journal
  else none

/-- The style that a value names: a whole text, with white space around the name. -/
def ofValue? (value : Bytes) : Option RecordStyle :=
  (Utf8.decode? value).bind fun text => ofName? (trimWhiteSpace text)

def formatVariable : String := "MALSITES_LOG_FORMAT"

def serviceVariables : List String := ["INVOCATION_ID", "JOURNAL_STREAM"]

/-- The style where none is named. -/
def detect (env : Environment) (stderrTerminal : Bool) : RecordStyle :=
  if stderrTerminal && !serviceVariables.any env.has then .human else .journal

def choose (env : Environment) (stderrTerminal : Bool) : RecordStyle :=
  ((env.get? formatVariable).bind ofValue?).getD (detect env stderrTerminal)

end RecordStyle

end SiteFilter
