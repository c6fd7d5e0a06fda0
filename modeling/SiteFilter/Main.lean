import SiteFilter.Run

/-!
# The command line

One run on the files of the machine. Everything that is decided is decided by `prepare` and by the
plan; this module only looks at the machine, reads and writes the two files, and prints.

No handler for interrupts is installed: an interrupt ends the program at once, and the filter file
is then not written.
-/

namespace SiteFilter.Machine

def bytesOf (s : String) : Bytes := Utf8.encode s.toList

def nameOf (p : Path) : String := String.ofList p.display

def readVariables : List String :=
  [SitePaths.rootVariable, SitePaths.homeVariable, RecordStyle.formatVariable] ++
    RecordStyle.serviceVariables

def surroundings : IO Surroundings := do
  let mut entries : List (String × Bytes) := []
  for name in readVariables do
    if let some value ← IO.getEnv name then
      entries := (name, bytesOf value) :: entries
  return ⟨⟨entries⟩, ← (← IO.getStderr).isTty, false, false⟩

/-- The number of a failure of the machine, which some calls give negated. -/
def failureNumber (code : UInt32) : UInt32 := if code < 0x80000000 then code else 0 - code

/-- Why the machine could not read or write a file. -/
def reasonOf (e : IO.Error) : Text :=
  match e with
  | .noFileOrDirectory _ _ _ => FileFault.notFound.message
  | .inappropriateType _ code _ =>
    if failureNumber code = 20 then FileFault.notDirectory.message
    else FileFault.isDirectory.message
  | .invalidArgument _ code _ =>
    if failureNumber code = 36 then FileFault.nameTooLong.message
    else FileFault.zeroInPath.message
  | other => (toString other).toList

def readSiteList (p : Path) : IO (Except Fault Text) := do
  try
    let contents ← IO.FS.readBinFile (nameOf p)
    match Utf8.decode? contents.toList with
    | some text => return .ok text
    | none => return .error (.unreadable p FileFault.notUtf8.message)
  catch e => return .error (.unreadable p (reasonOf e))

def writeFilters (p : Path) (s : Selection) : IO (Except Fault Selection) := do
  try
    IO.FS.writeBinFile (nameOf p) (Utf8.encode s.contents).toByteArray
    return .ok s
  catch e => return .error (.unwritable p (reasonOf e))

def print (stream : IO.FS.Stream) (t : Text) : IO Unit := do
  stream.putStr (String.ofList t)
  stream.flush

/-- Announces a plan, carries it out and reports how it ended. -/
def carryOut (plan : Plan) (interrupted : Bool) : IO Nat := do
  print (← IO.getStdout) plan.announcement
  print (← IO.getStderr) plan.openingRecord
  let ending ←
    match plan.selection interrupted (← readSiteList plan.paths.siteList) with
    | .error fault => pure (.error fault)
    | .ok s => writeFilters plan.paths.filterFile s
  print (← IO.getStderr) (plan.closing ending)
  return Plan.exitCode ending

/-- The program: one run on the files of the machine. -/
def program (arguments : List String) : IO UInt32 := do
  let around ← surroundings
  match prepare around (arguments.map bytesOf) none with
  | .error ended =>
    print (← IO.getStdout) ended.output.stdout
    print (← IO.getStderr) ended.output.stderr
    return ended.output.exitCode.toUInt32
  | .ok plan => return (← carryOut plan around.interrupted).toUInt32

end SiteFilter.Machine

def main (arguments : List String) : IO UInt32 := SiteFilter.Machine.program arguments
