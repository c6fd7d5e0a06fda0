import SiteFilter.Text.Utf8

/-!
# The words of a command line

Every argument is a word of one kind, whatever stands around it: a request for help or for the
version, a parameter with or without a value attached, the end of the options, an operand, or an
option that is not known. The program takes no operands; where a parameter awaits its value, an
operand is that value.
-/

namespace SiteFilter.CommandLine

/-- What can be asked for in place of a run. -/
inductive Request where
  | briefHelp
  | fullHelp
  | version
  deriving DecidableEq, Repr

/-- The options that take a value. -/
inductive Parameter where
  | count
  | level
  deriving DecidableEq, Repr

def Parameter.usage : Parameter → Text
  | .count => "--count <COUNT>".toList
  | .level => "--log-level <LOG_LEVEL>".toList

inductive Word where
  /-- Two dashes: no option follows. -/
  | terminator
  | request (request : Request)
  | requestWithValue (flag value : Text)
  | parameter (parameter : Parameter) (attached : Option Bytes)
  /-- An option that is not known, as it is shown. -/
  | unknown (shown : Text)
  | operand
  deriving DecidableEq, Repr

def dash : UInt8 := 0x2D

def equalsSign : UInt8 := 0x3D

namespace Word

/-- The word that two dashes in front of `body` make. The name ends at the first equals sign, and
what follows that is the value. -/
def ofLong (body : Bytes) : Word :=
  let name := body.takeWhile (· ≠ equalsSign)
  let attached := (body.dropWhile (· ≠ equalsSign)).tail?
  if name = Utf8.encode "count".toList then .parameter .count attached
  else if name = Utf8.encode "log-level".toList then .parameter .level attached
  else if name = Utf8.encode "help".toList then
    match attached with
    | none => .request .fullHelp
    | some value => .requestWithValue "--help".toList (Utf8.lossy value)
  else if name = Utf8.encode "version".toList then
    match attached with
    | none => .request .version
    | some value => .requestWithValue "--version".toList (Utf8.lossy value)
  else .unknown ("--".toList ++ Utf8.lossy name)

/-- The value in the rest of a cluster of letters: none if nothing is left, else what is left
without an equals sign in front. -/
def clusterValue : Bytes → Option Bytes
  | [] => none
  -- an equals sign separates the letter from its value, and only one does
  | b :: rest => if b = equalsSign then some rest else some (b :: rest)

/-- A cluster that begins with no known letter, as it is shown: its first character, or all of it if
it does not begin with a character. -/
def unknownCluster (letters : Bytes) : Text :=
  match (Utf8.scan letters).head? with
  | some (some c) => ['-', c]
  | _ => '-' :: Utf8.lossy letters

/-- The word that one dash in front of letters makes. The first letter decides. -/
def ofCluster : Bytes → Word
  | [] => .operand
  | b :: rest =>
    -- the letters n, h and V
    if b = 0x6E then .parameter .count (clusterValue rest)
    else if b = 0x68 then .request .briefHelp
    else if b = 0x56 then .request .version
    else .unknown (unknownCluster (b :: rest))

/-- The word that an argument is. A dash alone is an operand. -/
def ofArgument : Bytes → Word
  | [] => .operand
  | a :: rest =>
    if a ≠ dash then .operand
    else match rest with
      | [] => .operand
      | b :: body =>
        if b ≠ dash then ofCluster (b :: body)
        else if body = [] then .terminator
        else ofLong body

end Word

end SiteFilter.CommandLine
