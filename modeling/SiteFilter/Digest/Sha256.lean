import SiteFilter.Text.Basic

/-!
# SHA-256

The digest of a byte string. The message is padded to whole blocks of sixteen words; each block is
expanded into a schedule of sixty-four words, and the rounds of a block take one chaining state of
eight words to the next. The digest is the last state, thirty-two bytes (`length_digest`).

Widths are in the types: a block is a vector of sixteen words and a state has eight fields, so no
index can fall outside.
-/

namespace SiteFilter.Sha256

/-! ## Padding -/

/-- How many zero bytes bring a message of `size` bytes, the closing byte and the eight bytes of
its length to a whole number of blocks. -/
def paddingZeros (size : Nat) : Nat := (119 - size % 64) % 64

/-- The length of the message in bits, eight bytes, high byte first. -/
def lengthBytes (size : Nat) : Bytes :=
  (List.range 8).map fun i => .ofNat ((size * 8) >>> (56 - 8 * i))

/-- The message with its closing one bit, the zeros and its length. -/
def pad (message : Bytes) : Bytes :=
  message ++ 0x80 :: (List.replicate (paddingZeros message.length) 0 ++ lengthBytes message.length)

/-! ## Words and blocks -/

/-- Four bytes as a word, high byte first. -/
def word (a b c d : UInt8) : UInt32 :=
  (a.toUInt32 <<< 24) ||| (b.toUInt32 <<< 16) ||| (c.toUInt32 <<< 8) ||| d.toUInt32

def wordBytes (w : UInt32) : Bytes :=
  [(w >>> 24).toUInt8, (w >>> 16).toUInt8, (w >>> 8).toUInt8, w.toUInt8]

/-- The words of a byte string, four bytes each; an incomplete word at the end is left out. -/
def words : Bytes → List UInt32
  | a :: b :: c :: d :: rest => word a b c d :: words rest
  | _ => []

/-- Sixteen words: the part of a message that one run of the rounds takes in, and the window of the
schedule that the next word is made from. -/
abbrev Block := Vector UInt32 16

/-- The blocks of a list of words; an incomplete block at the end is left out. -/
def blocks : List UInt32 → List Block
  | a :: b :: c :: d :: e :: f :: g :: h :: i :: j :: k :: l :: m :: n :: o :: p :: rest =>
    #v[a, b, c, d, e, f, g, h, i, j, k, l, m, n, o, p] :: blocks rest
  | _ => []

/-! ## The schedule -/

/-- Rotation to the right by `n` bits, for `n` from 1 to 31. -/
def rotate (n x : UInt32) : UInt32 := (x >>> n) ||| (x <<< (32 - n))

def smallSigma0 (x : UInt32) : UInt32 := rotate 7 x ^^^ rotate 18 x ^^^ (x >>> 3)

def smallSigma1 (x : UInt32) : UInt32 := rotate 17 x ^^^ rotate 19 x ^^^ (x >>> 10)

def bigSigma0 (x : UInt32) : UInt32 := rotate 2 x ^^^ rotate 13 x ^^^ rotate 22 x

def bigSigma1 (x : UInt32) : UInt32 := rotate 6 x ^^^ rotate 11 x ^^^ rotate 25 x

/-- The word of the schedule after a window of sixteen. -/
def Block.following (w : Block) : UInt32 :=
  smallSigma1 w[14] + w[9] + smallSigma0 w[1] + w[0]

def Block.advance (w : Block) : Block := (w.drop 1).push w.following

/-- The first `n` words of the schedule that begins with a window. -/
def schedule : Nat → Block → List UInt32
  | 0, _ => []
  | n + 1, w => w[0] :: schedule n w.advance

/-! ## The rounds -/

structure State where
  a : UInt32
  b : UInt32
  c : UInt32
  d : UInt32
  e : UInt32
  f : UInt32
  g : UInt32
  h : UInt32
  deriving DecidableEq, Repr

def State.initial : State :=
  ⟨0x6a09e667, 0xbb67ae85, 0x3c6ef372, 0xa54ff53a, 0x510e527f, 0x9b05688c, 0x1f83d9ab, 0x5be0cd19⟩

def roundConstants : List UInt32 :=
  [0x428a2f98, 0x71374491, 0xb5c0fbcf, 0xe9b5dba5, 0x3956c25b, 0x59f111f1, 0x923f82a4, 0xab1c5ed5,
   0xd807aa98, 0x12835b01, 0x243185be, 0x550c7dc3, 0x72be5d74, 0x80deb1fe, 0x9bdc06a7, 0xc19bf174,
   0xe49b69c1, 0xefbe4786, 0x0fc19dc6, 0x240ca1cc, 0x2de92c6f, 0x4a7484aa, 0x5cb0a9dc, 0x76f988da,
   0x983e5152, 0xa831c66d, 0xb00327c8, 0xbf597fc7, 0xc6e00bf3, 0xd5a79147, 0x06ca6351, 0x14292967,
   0x27b70a85, 0x2e1b2138, 0x4d2c6dfc, 0x53380d13, 0x650a7354, 0x766a0abb, 0x81c2c92e, 0x92722c85,
   0xa2bfe8a1, 0xa81a664b, 0xc24b8b70, 0xc76c51a3, 0xd192e819, 0xd6990624, 0xf40e3585, 0x106aa070,
   0x19a4c116, 0x1e376c08, 0x2748774c, 0x34b0bcb5, 0x391c0cb3, 0x4ed8aa4a, 0x5b9cca4f, 0x682e6ff3,
   0x748f82ee, 0x78a5636f, 0x84c87814, 0x8cc70208, 0x90befffa, 0xa4506ceb, 0xbef9a3f7, 0xc67178f2]

def State.round (s : State) (constant scheduled : UInt32) : State :=
  let choice := (s.e &&& s.f) ^^^ (~~~ s.e &&& s.g)
  let majority := (s.a &&& s.b) ^^^ (s.a &&& s.c) ^^^ (s.b &&& s.c)
  let t₁ := s.h + bigSigma1 s.e + choice + constant + scheduled
  let t₂ := bigSigma0 s.a + majority
  ⟨t₁ + t₂, s.a, s.b, s.c, s.d + t₁, s.e, s.f, s.g⟩

def State.add (s t : State) : State :=
  ⟨s.a + t.a, s.b + t.b, s.c + t.c, s.d + t.d, s.e + t.e, s.f + t.f, s.g + t.g, s.h + t.h⟩

/-- A state after one block: the rounds, added to the state before them. -/
def State.compress (s : State) (block : Block) : State :=
  s.add ((roundConstants.zip (schedule 64 block)).foldl (fun t kw => t.round kw.1 kw.2) s)

def State.bytes (s : State) : Bytes :=
  [s.a, s.b, s.c, s.d, s.e, s.f, s.g, s.h].flatMap wordBytes

def digest (message : Bytes) : Bytes :=
  ((blocks (words (pad message))).foldl State.compress State.initial).bytes

theorem length_digest (message : Bytes) : (digest message).length = 32 := rfl

end SiteFilter.Sha256
