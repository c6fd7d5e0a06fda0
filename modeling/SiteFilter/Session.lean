import SiteFilter.Run

/-!
# Sessions

A session is a sequence of steps on one file tree: steps that set it up, steps that read a site list
or write a filter file, and runs of the program, each in a process of its own. Every step finds the
tree as the step before left it.
-/

namespace SiteFilter.Session

/-- The runs of one process. -/
structure Invocation where
  around : Surroundings
  arguments : List Bytes
  more : Nat
  deriving Repr

inductive Step where
  | makeDirectory (path : Path)
  | place (path : Path) (contents : Bytes)
  | remove (path : Path)
  | readSiteList (path : Path)
  | writeFilters (path : Path) (text : Text)
  | invoke (invocation : Invocation)
  deriving Repr

inductive Answer where
  | done
  | read (result : Except Fault Text)
  /-- How writing ended, and the tree afterwards. -/
  | wrote (fault : Option Fault) (after : FileTree)
  /-- What the runs of a process printed, and the tree afterwards. -/
  | ran (output : Output) (after : FileTree)

def firstLine (t : Text) : Text := t.takeWhile (· ≠ '\n') ++ ['\n']

/-- The output of a process as it is answered: when its last run was misused, only the first line of
standard error counts. -/
def observed (output : Output) : Output :=
  if output.exitCode = 2 then { output with stderr := firstLine output.stderr } else output

/-- The runs of a new process on a tree. -/
def Invocation.perform (i : Invocation) (t : FileTree) : FileTree × Output :=
  let ending := runs i.around i.arguments i.more (Process.fresh t)
  (ending.1.tree, observed ending.2)

def step (t : FileTree) : Step → FileTree × Answer
  | .makeDirectory path => (t.makeDirectory path, .done)
  | .place path contents => (t.place path contents, .done)
  | .remove path => (t.remove path, .done)
  | .readSiteList path => (t, .read (t.readSiteList path))
  | .writeFilters path text =>
    match t.writeFilters path text with
    | .ok after => (after, .wrote none after)
    | .error fault => (t, .wrote (some fault) t)
  | .invoke invocation =>
    let ending := invocation.perform t
    (ending.1, .ran ending.2 ending.1)

def run : FileTree → List Step → FileTree × List Answer
  | t, [] => (t, [])
  | t, x :: rest =>
    let after := step t x
    let last := run after.1 rest
    (last.1, after.2 :: last.2)

end SiteFilter.Session
