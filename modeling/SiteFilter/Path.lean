import SiteFilter.Text.Utf8

/-!
# Paths

A path is a byte string, kept as it was given: nothing is normalised. `Path.join` appends a file
name. `Path.route` reads a path as the way it describes: from where it starts, through which
directories, to which last component.
-/

namespace SiteFilter

/-- A path, byte for byte as it was given. -/
abbrev Path := Bytes

/-- The name of a file or directory within its directory. -/
abbrev Name := Bytes

def slash : UInt8 := 0x2F

/-- The byte that names the directory itself and, doubled, the one above. -/
def dot : UInt8 := 0x2E

namespace Path

/-- The path of the file `name` in the directory `base`. A slash is put between them unless `base`
is empty or already ends in one. -/
def join (base : Path) (name : Name) : Path :=
  if base = [] ∨ base.getLast? = some slash then base ++ name else base ++ slash :: name

def display (p : Path) : Text := Utf8.lossy p

/-- What a piece of a path between slashes asks for. -/
inductive Component where
  | here
  | up
  | named (name : Name)
  deriving DecidableEq, Repr

def Component.ofName (name : Name) : Component :=
  if name = [dot] then .here else if name = [dot, dot] then .up else .named name

/-- The components of a path. Slashes side by side count as one. -/
def components (p : Path) : List Component :=
  ((cutAt slash p).filter (· ≠ [])).map Component.ofName

structure Route where
  /-- Whether the way starts at the root of all directories. -/
  absolute : Bool
  /-- The components before the last; each has to lead to a directory. -/
  through : List Component
  last : Component
  trailing : Bool
  deriving DecidableEq, Repr

/-- The way that a path with components describes. A path of slashes alone leads to the root, where
its way starts. -/
def route (p : Path) : Route where
  absolute := p.head? = some slash
  through := (components p).dropLast
  last := (components p).getLast?.getD .here
  trailing := p.getLast? = some slash

end Path

end SiteFilter
