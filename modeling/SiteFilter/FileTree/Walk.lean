import SiteFilter.FileTree.Basic

/-!
# Walking a file tree

A path is followed one component at a time, from the root if it begins with a slash and else from the
working directory. Every component is taken in a directory. Above the root there is the root.

A walk ends at a location, or in the fault that the first bad component causes.
-/

namespace SiteFilter

/-- Why a file could not be read or written. -/
inductive FileFault where
  | zeroInPath
  | notFound
  /-- Something that is no directory was used as one. -/
  | notDirectory
  | isDirectory
  | nameTooLong
  | notUtf8
  deriving DecidableEq, Repr

def FileFault.message : FileFault → Text
  | .zeroInPath => "file name contained an unexpected NUL byte".toList
  | .notFound => "No such file or directory (os error 2)".toList
  | .notDirectory => "Not a directory (os error 20)".toList
  | .isDirectory => "Is a directory (os error 21)".toList
  | .nameTooLong => "File name too long (os error 36)".toList
  | .notUtf8 => "stream did not contain valid UTF-8".toList

/-- The most bytes that the name of a file or directory has. -/
def nameLimit : Nat := 255

/-- The most bytes that a path has. -/
def pathLimit : Nat := 4095

/-- What keeps a path from being followed at all: a byte zero, no bytes, or too many. -/
def Path.fault? (p : Path) : Option FileFault :=
  if 0 ∈ p then some .zeroInPath
  else if p = [] then some .notFound
  else if pathLimit < p.length then some .nameTooLong
  else none

namespace FileTree

/-- The location that a component leads to from the directory at `l`. -/
def step (t : FileTree) (l : Location) : Path.Component → Except FileFault Location
  | .here => .ok l
  | .up => .ok l.dropLast
  | .named n =>
    if nameLimit < n.length then .error .nameTooLong
    else match t.get? (l ++ [n]) with
      | none => .error .notFound
      | some _ => .ok (l ++ [n])

/-- The location that components lead to, each of them to a directory. -/
def walk (t : FileTree) : Location → List Path.Component → Except FileFault Location
  | l, [] => .ok l
  | l, c :: rest =>
    match t.step l c with
    | .error fault => .error fault
    | .ok next =>
      match t.get? next with
      | some .directory => t.walk next rest
      | _ => .error .notDirectory

/-- Where the way of a path starts. -/
def start (t : FileTree) (p : Path) : Location := if p.route.absolute then [] else t.working

/-- The directory in which the last component of a path is to be looked up. -/
def approach (t : FileTree) (p : Path) : Except FileFault Location :=
  match p.fault? with
  | some fault => .error fault
  | none => t.walk (t.start p) p.route.through

def locate (t : FileTree) (p : Path) : Except FileFault Location :=
  match t.approach p with
  | .error fault => .error fault
  | .ok directory => t.step directory p.route.last

end FileTree

end SiteFilter
