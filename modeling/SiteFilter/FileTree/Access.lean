import SiteFilter.FileTree.Walk

/-!
# Reading and writing files

What a path reads and what it writes. Reading changes nothing. Writing puts the whole contents at one
location, or fails and changes nothing: it makes no directory, and it replaces no directory by a
file.

The rest sets a tree up and shows it: making directories, removing, and the listing of everything
below the working directory in the order of the paths.
-/

namespace SiteFilter.FileTree

def read (t : FileTree) (p : Path) : Except FileFault Bytes :=
  match t.locate p with
  | .error fault => .error fault
  | .ok l =>
    match t.get? l with
    | none => .error .notFound
    | some .directory => .error .isDirectory
    -- a slash at the end asks for a directory
    | some (.file contents) => if p.route.trailing then .error .notDirectory else .ok contents

def readText (t : FileTree) (p : Path) : Except FileFault Text :=
  match t.read p with
  | .error fault => .error fault
  | .ok contents =>
    match Utf8.decode? contents with
    | none => .error .notUtf8
    | some text => .ok text

/-- The location at which a path writes a file: a name that holds no directory, in a directory. A slash
at the end asks for a directory, which no file can be. -/
def target (t : FileTree) (p : Path) : Except FileFault Location :=
  match t.approach p with
  | .error fault => .error fault
  | .ok directory =>
    match p.route.last with
    | .here | .up => .error .isDirectory
    | .named n =>
      -- this is refused before the name is looked at
      if p.route.trailing then .error .isDirectory
      else if nameLimit < n.length then .error .nameTooLong
      else match t.get? (directory ++ [n]) with
        | some .directory => .error .isDirectory
        | _ => .ok (directory ++ [n])

/-- The tree with `contents` in the file that a path writes. -/
def write (t : FileTree) (p : Path) (contents : Bytes) : Except FileFault FileTree :=
  match t.target p with
  | .error fault => .error fault
  | .ok l => .ok (t.put l (.file contents))

/-! ## Setting up -/

/-- The tree with the directories that components name one after the other, made where they are
missing. Nothing is made below a file. -/
def makeDirectories (t : FileTree) : Location → List Path.Component → FileTree
  | _, [] => t
  | l, .here :: rest => t.makeDirectories l rest
  | l, .up :: rest => t.makeDirectories l.dropLast rest
  | l, .named n :: rest =>
    match t.get? (l ++ [n]) with
    | none => (t.put (l ++ [n]) .directory).makeDirectories (l ++ [n]) rest
    | some .directory => t.makeDirectories (l ++ [n]) rest
    | some (.file _) => t

/-- The tree with a directory at a path and at every path on the way to it. -/
def makeDirectory (t : FileTree) (p : Path) : FileTree :=
  t.makeDirectories (t.start p) p.components

/-- The tree with a file at a path, if one can be written there. -/
def place (t : FileTree) (p : Path) (contents : Bytes) : FileTree :=
  match t.write p contents with
  | .ok after => after
  | .error _ => t

def remove (t : FileTree) (p : Path) : FileTree :=
  match t.locate p with
  | .ok l => t.erase l
  | .error _ => t

/-! ## The listing -/

def contents? : Entry → Option Bytes
  | .directory => none
  | .file contents => some contents

def pathOf (l : Location) : Path := [slash].intercalate l

/-- Everything below the working directory, in the order of the paths' bytes. -/
def listing (t : FileTree) : List (Path × Option Bytes) :=
  let below := t.entries.filter fun entry => t.working.isPrefixOf entry.1
  (below.map fun entry =>
    (pathOf (entry.1.drop t.working.length), contents? entry.2)).mergeSort
      fun a b => decide (a.1 ≤ b.1)

end SiteFilter.FileTree
