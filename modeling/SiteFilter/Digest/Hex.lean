import SiteFilter.Digest.Sha256

/-!
# Hexadecimal form

A byte string in hexadecimal: two digits for each byte, the high one first, letters in lower case.
`decode?` reads the form back, and `decode?_encode` says that it finds the bytes that were written.
The fingerprint of a byte string is the hexadecimal form of its digest.
-/

namespace SiteFilter

namespace Hex

/-- The digit that stands for a number. Only the numbers below sixteen have one. -/
def digit? (n : Nat) : Option Char :=
  if n < 10 then some (.ofNat (0x30 + n))
  else if n < 16 then some (.ofNat (0x57 + n))
  else none

/-- The number that a digit in lower case stands for. -/
def value? (c : Char) : Option Nat :=
  if '0' ≤ c ∧ c ≤ '9' then some (c.toNat - 0x30)
  else if 'a' ≤ c ∧ c ≤ 'f' then some (c.toNat - 0x57)
  else none

/-- The two halves of a byte, the high one first. -/
def halves (b : UInt8) : List UInt8 := [b >>> 4, b &&& 0x0F]

/-- The digits of a byte. A half that had no digit would be passed over. -/
def encodeByte (b : UInt8) : Text := (halves b).filterMap fun half => digit? half.toNat

def encode (bs : Bytes) : Text := bs.flatMap encodeByte

/-- The byte string that the digits stand for; none if a digit is missing or is no digit. -/
def decode? : Text → Option Bytes
  | [] => some []
  | [_] => none
  | high :: low :: rest =>
    match value? high, value? low, decode? rest with
    | some h, some l, some bs => some (.ofNat (16 * h + l) :: bs)
    | _, _, _ => none

theorem exists_digit? {n : Nat} (h : n < 16) : ∃ c, digit? n = some c ∧ value? c = some n := by
  have hback : (digit? n).bind value? = some n := by
    revert n
    decide
  exact Option.bind_eq_some_iff.mp hback

theorem toNat_halves (b : UInt8) :
    (halves b).map UInt8.toNat = [b.toNat / 16, b.toNat % 16] := by
  have hlow : b.toNat &&& 0x0F = b.toNat % 16 := Nat.and_two_pow_sub_one_eq_mod b.toNat 4
  simp [halves, hlow, Nat.shiftRight_eq_div_pow]

theorem encodeByte_eq (b : UInt8) :
    ∃ high low, encodeByte b = [high, low] ∧ value? high = some (b.toNat / 16) ∧
      value? low = some (b.toNat % 16) := by
  have hb := b.toNat_lt
  obtain ⟨high, hhigh, hhigh'⟩ := exists_digit? (n := b.toNat / 16) (by omega)
  obtain ⟨low, hlow, hlow'⟩ := exists_digit? (n := b.toNat % 16) (by omega)
  refine ⟨high, low, ?_, hhigh', hlow'⟩
  have hdigits : encodeByte b = ((halves b).map UInt8.toNat).filterMap digit? := by
    rw [List.filterMap_map]
    rfl
  simp [hdigits, toNat_halves, hhigh, hlow]

theorem decode?_encode (bs : Bytes) : decode? (encode bs) = some bs := by
  induction bs with
  | nil => rfl
  | cons b rest ih =>
    obtain ⟨high, low, hdigits, hhigh, hlow⟩ := encodeByte_eq b
    have : encode (b :: rest) = high :: low :: encode rest := by
      rw [encode, List.flatMap_cons, hdigits]
      rfl
    rw [this, decode?, hhigh, hlow, ih]
    simp only [Option.some.injEq, List.cons.injEq, and_true]
    rw [Nat.div_add_mod, UInt8.ofNat_toNat]

end Hex

/-- What a byte string is recognised by: its digest in hexadecimal. -/
def fingerprint (bs : Bytes) : Text := Hex.encode (Sha256.digest bs)

end SiteFilter
