import SiteFilter.Environment
import SiteFilter.Path

/-!
# The paths of the site list and the filter file

Both files lie in one base directory under fixed names. The environment names the base directory:
`MALSITES_ROOT` if it is set to something that is not blank, else `HOME`. Its value is taken byte
for byte.
-/

namespace SiteFilter

/-- Where the site list is read and the filter file written. -/
structure SitePaths where
  base : Path
  siteList : Path
  filterFile : Path
  deriving DecidableEq, Repr

inductive SitePathsFault where
  | baseUnset
  deriving DecidableEq, Repr

def SitePathsFault.message : SitePathsFault → Text
  | .baseUnset => "base directory not set: export MALSITES_ROOT or HOME".toList

namespace SitePaths

/-- The variable that names the base directory before all others. -/
def rootVariable : String := "MALSITES_ROOT"

def homeVariable : String := "HOME"

def siteListName : Name := Utf8.encode "malicious_site_list.txt".toList

def filterFileName : Name := Utf8.encode "malicious_sites_trunc.txt".toList

/-- The paths under a base directory. -/
def ofBase (base : Path) : SitePaths where
  base := base
  siteList := base.join siteListName
  filterFile := base.join filterFileName

/-- The base directory that the environment names. -/
def base? (env : Environment) : Option Path :=
  (env.setting? rootVariable).or (env.setting? homeVariable)

def resolve (env : Environment) : Except SitePathsFault SitePaths :=
  match base? env with
  | some base => .ok (ofBase base)
  | none => .error .baseUnset

end SitePaths

end SiteFilter
