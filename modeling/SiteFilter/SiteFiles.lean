import SiteFilter.Fault
import SiteFilter.FileTree.Access

/-!
# Site lists and filter files

Reading a site list and writing a filter file in a tree. What goes wrong is a fault that names the
path as it was given.
-/

namespace SiteFilter.FileTree

def readSiteList (t : FileTree) (p : Path) : Except Fault Text :=
  match t.readText p with
  | .ok text => .ok text
  | .error fault => .error (.unreadable p fault.message)

def writeFilters (t : FileTree) (p : Path) (text : Text) : Except Fault FileTree :=
  match t.write p (Utf8.encode text) with
  | .ok after => .ok after
  | .error fault => .error (.unwritable p fault.message)

end SiteFilter.FileTree
