import SiteFilter.Text.Blank
import SiteFilter.Text.Utf8

/-!
# Environment

The variables that a program finds set, with the bytes of their values.
-/

namespace SiteFilter

structure Environment where
  entries : List (String × Bytes)
  deriving Repr

namespace Environment

def get? (env : Environment) (name : String) : Option Bytes := env.entries.lookup name

def has (env : Environment) (name : String) : Bool := (env.get? name).isSome

/-- Whether a value says nothing: shown as text, it is white space throughout. An ill-formed part is
shown as a character that is no white space, so a value that has one does say something. -/
def isBlankValue (value : Bytes) : Bool := (Utf8.lossy value).all isWhiteSpace

/-- The value of a variable, if it is present and not blank. -/
def setting? (env : Environment) (name : String) : Option Bytes :=
  (env.get? name).filter fun value => !isBlankValue value

end Environment

end SiteFilter
