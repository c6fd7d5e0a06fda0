import SiteFilter.CommandLine.Count
import SiteFilter.CommandLine.Word
import SiteFilter.Log.Level
import SiteFilter.Text.ControlFunction

/-!
# Reading a command line

A command line is read from left to right, and the first thing that stops it decides: a request, or
something wrong with its use. A parameter that stands alone awaits its value, and neither it nor its
value is looked at until the next option that is known begins or the line ends; an attached value is
looked at once. So an argument that does not belong there is reported before a bad value that still
waits.
-/

namespace SiteFilter.CommandLine

/-- What is wrong with the use of the program. -/
inductive UsageFault where
  | valueMissing (parameter : Parameter)
  | repeated (parameter : Parameter)
  /-- A count is not the form of a text. -/
  | notUtf8
  | badCount (value : Text) (fault : CountFault)
  | badLevel (value : Text)
  | unexpectedValue (flag value : Text)
  | unexpectedArgument (shown : Text)
  deriving DecidableEq, Repr

/-- The message of a fault. What it shows of the command line is shown without control functions. -/
def UsageFault.message : UsageFault → Text
  | .valueMissing p => "a value is required for '".toList ++ p.usage ++ "' but none was supplied".toList
  | .repeated p => "the argument '".toList ++ p.usage ++ "' cannot be used multiple times".toList
  | .notUtf8 => "invalid UTF-8 was detected in one or more arguments".toList
  | .badCount value fault =>
    "invalid value '".toList ++ visible value ++ "' for '".toList ++ Parameter.count.usage ++
      "': ".toList ++ fault.message
  | .badLevel value =>
    "invalid value '".toList ++ visible value ++ "' for '".toList ++ Parameter.level.usage ++ ['\'']
  | .unexpectedValue flag value =>
    "unexpected value '".toList ++ visible value ++ "' for '".toList ++ flag ++
      "' found; no more were expected".toList
  | .unexpectedArgument shown =>
    "unexpected argument '".toList ++ visible shown ++ "' found".toList

/-- What a command line asks of a run. -/
structure Options where
  count : Nat
  level : Level
  deriving DecidableEq, Repr

/-- What a command line that asks for nothing gets. -/
def Options.default : Options := ⟨2, .info⟩

inductive Stop where
  | request (request : Request)
  | fault (fault : UsageFault)
  deriving DecidableEq, Repr

/-! ## Values -/

def readCount (value : Bytes) : Except UsageFault Nat :=
  match Utf8.decode? value with
  | none => .error .notUtf8
  | some text =>
    match Count.ofText text with
    | .ok n => .ok n
    | .error fault => .error (.badCount text fault)

/-- The level with a name, letter for letter. -/
def levelOfName? (name : Text) : Option Level :=
  if name = "trace".toList then some .trace
  else if name = "debug".toList then some .debug
  else if name = "info".toList then some .info
  else if name = "warn".toList then some .warn
  else if name = "error".toList then some .error
  else none

/-- The level that a value names. An empty value counts as none. -/
def readLevel (value : Bytes) : Except UsageFault Level :=
  if value = [] then .error (.valueMissing .level)
  else match (Utf8.decode? value).bind levelOfName? with
    | some level => .ok level
    | none => .error (.badLevel (Utf8.lossy value))

/-! ## Progress -/

/-- How far a command line has been read: the values taken so far, and the parameter that waits to
be looked at, with its value if that has come. -/
structure Progress where
  count : Option Nat
  level : Option Level
  waiting : Option (Parameter × Option Bytes)
  deriving DecidableEq, Repr

namespace Progress

def start : Progress := ⟨none, none, none⟩

/-- Takes a parameter's value: there has to be one, it has to be the first, and it has to be good,
in this order. -/
def take (p : Progress) (parameter : Parameter) (value : Option Bytes) :
    Except UsageFault Progress :=
  match parameter, value with
  -- a missing value counts before a repetition, and that before what the value says
  | _, none => .error (.valueMissing parameter)
  | .count, some value =>
    if p.count.isSome then .error (.repeated .count)
    else match readCount value with
      | .ok n => .ok { p with count := some n }
      | .error fault => .error fault
  | .level, some value =>
    if p.level.isSome then .error (.repeated .level)
    else match readLevel value with
      | .ok level => .ok { p with level := some level }
      | .error fault => .error fault

/-- Takes what waits. -/
def settle (p : Progress) : Except UsageFault Progress :=
  match p.waiting with
  | none => .ok p
  | some (parameter, value) => { p with waiting := none }.take parameter value

def awaitsValue (p : Progress) : Bool :=
  match p.waiting with
  | some (_, none) => true
  | _ => false

def supply (p : Progress) (value : Bytes) : Progress :=
  { p with waiting := p.waiting.map fun w => (w.1, some value) }

def finish (p : Progress) : Except Stop Options :=
  match p.settle with
  | .error fault => .error (.fault fault)
  | .ok p => .ok ⟨p.count.getD Options.default.count, p.level.getD Options.default.level⟩

end Progress

/-! ## The whole line -/

/-- The options that the rest of a command line leads to. -/
def readFrom (p : Progress) : List Bytes → Except Stop Options
  | [] => p.finish
  | a :: rest =>
    match Word.ofArgument a with
    | .terminator =>
      match rest with
      | [] => p.finish
      | b :: _ => .error (.fault (.unexpectedArgument (Utf8.lossy b)))
    | .request request =>
      match p.settle with
      | .error fault => .error (.fault fault)
      | .ok _ => .error (.request request)
    -- what waits is dropped here, with whatever is wrong with it
    | .requestWithValue flag value => .error (.fault (.unexpectedValue flag value))
    | .parameter parameter attached =>
      match p.settle with
      | .error fault => .error (.fault fault)
      | .ok p =>
        match attached with
        | none => readFrom { p with waiting := some (parameter, none) } rest
        | some value =>
          match p.take parameter (some value) with
          | .error fault => .error (.fault fault)
          | .ok p => readFrom p rest
    | .unknown shown => .error (.fault (.unexpectedArgument shown))
    -- an operand has a place only as a value
    | .operand =>
      if p.awaitsValue then readFrom (p.supply a) rest
      else .error (.fault (.unexpectedArgument (Utf8.lossy a)))

def read (arguments : List Bytes) : Except Stop Options := readFrom .start arguments

end SiteFilter.CommandLine
