import SiteFilter.CommandLine.Help
import SiteFilter.CommandLine.Options
import SiteFilter.Digest.Hex
import SiteFilter.Log.Logger
import SiteFilter.SiteFiles

/-!
# A run of the program

A run installs its handler for interrupts, reads its command line, installs its logger and finds its
paths; then it has a plan. It announces the plan, reads the site list, selects the filters, gives up
if an interrupt has arrived, and writes the filter file. The first of these stages that fails ends
the run, and nothing is written before all others have passed.

`Plan` and `prepare` know nothing of files, so that the same stages serve a run on a file tree
(`run`) and a run on the files of a machine. Several runs may follow one another in one process:
they share its logger and its interrupt.
-/

namespace SiteFilter

/-- What a process finds around it. -/
structure Surroundings where
  environment : Environment
  stderrTerminal : Bool
  /-- Whether the process has a handler for interrupts that is not its own. -/
  handlerTaken : Bool
  /-- Whether an interrupt arrives once the first plan has been announced. -/
  interrupted : Bool
  deriving Repr

structure Output where
  exitCode : Nat
  stdout : Text
  stderr : Text
  deriving DecidableEq, Repr

namespace Output

def reportLine (fault : Fault) : Text := fault.report ++ ['\n']

/-- The output of a run that a fault stopped before it announced anything. -/
def stopped (fault : Fault) : Output := ⟨fault.exitCode, [], reportLine fault⟩

/-- The output of two runs, one after the other: the exit code is that of the second. -/
def append (first second : Output) : Output :=
  ⟨second.exitCode, first.stdout ++ second.stdout, first.stderr ++ second.stderr⟩

def ofStop : CommandLine.Stop → Output
  | .request request => ⟨0, request.text, []⟩
  | .fault fault => ⟨2, [], "error: ".toList ++ fault.message ++ ['\n']⟩

end Output

/-! ## Plans -/

/-- What an accepted run is about to do. -/
structure Plan where
  logger : Logger
  paths : SitePaths
  count : Nat
  deriving DecidableEq, Repr

namespace Plan

def announcement (plan : Plan) : Text :=
  "Generating ".toList ++ decimal plan.count ++ " filters\n".toList

def openingRecord (plan : Plan) : Text :=
  plan.logger.record .debug
    ("site list ".toList ++ plan.paths.siteList.display ++ " -> filter file ".toList ++
      plan.paths.filterFile.display)

def closingRecord (plan : Plan) (s : Selection) : Text :=
  let written := Utf8.encode s.contents
  plan.logger.record .info
    ("wrote ".toList ++ decimal s.selected ++ " of ".toList ++ decimal s.available ++
      " filters to ".toList ++ plan.paths.filterFile.display ++ " (".toList ++
      decimal written.length ++ " bytes, sha256=".toList ++ fingerprint written ++ ")".toList)

/-- The selection to be written, from what reading the site list gave. An interrupt counts only if
there is something to write. -/
def selection (plan : Plan) (interrupted : Bool) (siteList : Except Fault Text) :
    Except Fault Selection :=
  match siteList with
  | .error fault => .error fault
  | .ok text =>
    match select text plan.count with
    | .error shortage => .error (.tooFew shortage)
    | .ok s => if interrupted then .error .interrupted else .ok s

def exitCode : Except Fault Selection → Nat
  | .error fault => fault.exitCode
  | .ok _ => 0

/-- What a plan leaves on standard error at its end. -/
def closing (plan : Plan) : Except Fault Selection → Text
  | .error fault => Output.reportLine fault
  | .ok s => plan.closingRecord s

def output (plan : Plan) (ending : Except Fault Selection) : Output :=
  ⟨exitCode ending, plan.announcement, plan.openingRecord ++ plan.closing ending⟩

/-- A plan carried out on a tree: how it ended, and the tree afterwards. -/
def carryOut (plan : Plan) (interrupted : Bool) (t : FileTree) :
    Except Fault Selection × FileTree :=
  match plan.selection interrupted (t.readSiteList plan.paths.siteList) with
  | .error fault => (.error fault, t)
  | .ok s =>
    match t.writeFilters plan.paths.filterFile s.contents with
    | .error fault => (.error fault, t)
    | .ok after => (.ok s, after)

end Plan

/-! ## One run -/

def handlerTakenReason : Text := "Ctrl-C error: Ctrl-C signal handler already registered".toList

/-- A run that ended before it had a plan, and the logger it leaves installed. -/
structure Ended where
  logger : Option Logger
  output : Output
  deriving DecidableEq, Repr

/-- The stages of a run up to its plan, in a process with the logger `current`. -/
def prepare (around : Surroundings) (arguments : List Bytes) (current : Option Logger) :
    Except Ended Plan :=
  if around.handlerTaken then
    .error ⟨current, .stopped (.handlerRefused handlerTakenReason)⟩
  else match CommandLine.read arguments with
    | .error stop => .error ⟨current, .ofStop stop⟩
    | .ok options =>
      let style := RecordStyle.choose around.environment around.stderrTerminal
      match Logger.install current ⟨.upTo options.level, style⟩ with
      | .error fault => .error ⟨current, .stopped fault⟩
      | .ok logger =>
        match SitePaths.resolve around.environment with
        | .error cause => .error ⟨some logger, .stopped (.pathsUnknown cause)⟩
        | .ok paths => .ok ⟨logger, paths, options.count⟩

/-- What runs in one process change: its logger and the files. -/
structure Process where
  logger : Option Logger
  tree : FileTree
  deriving DecidableEq, Repr

def Process.fresh (t : FileTree) : Process := ⟨none, t⟩

def run (around : Surroundings) (arguments : List Bytes) (p : Process) : Process × Output :=
  match prepare around arguments p.logger with
  | .error ended => (⟨ended.logger, p.tree⟩, ended.output)
  | .ok plan =>
    let ending := plan.carryOut around.interrupted p.tree
    (⟨some plan.logger, ending.2⟩, plan.output ending.1)

/-- One run and `more` runs after it, all alike. -/
def runs (around : Surroundings) (arguments : List Bytes) : Nat → Process → Process × Output
  | 0, p => run around arguments p
  | more + 1, p =>
    let first := run around arguments p
    let rest := runs around arguments more first.1
    (rest.1, first.2.append rest.2)

end SiteFilter
