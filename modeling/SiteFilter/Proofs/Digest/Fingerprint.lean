import SiteFilter.Digest.Hex

/-!
# Fingerprints

A fingerprint is a digest in hexadecimal and loses nothing of it. What could be lost is a half of a
byte: one without a digit would be passed over, and the digits behind it would be read in other
pairs. Every half of a byte is below sixteen and has a digit.

`Pairs` says what a text of digits stands for, from the places of the sixteen digits alone.

What is proved:
  1. `digit?_eq_getElem?`, `value?_eq_some_iff` — both ways between a number and its digit.
  2. `pairs_encode`, `Pairs.eq_encode` — the hexadecimal form of a byte string, and no other text,
     stands for it.
  3. `decode?_eq_some_iff` — reading accepts exactly what stands for a byte string.
  4. `fingerprint_holds_digest` — what a fingerprint looks like, and what is read back from it.
-/

namespace SiteFilter

namespace Hex

/-- The sixteen digits, each in the place of its number. -/
def digits : Text := "0123456789abcdef".toList

/-- The text stands for the bytes: two digits for each, and the first of the two counts sixteen
times. -/
inductive Pairs : Text → Bytes → Prop where
  | nil : Pairs [] []
  | cons {high low : Char} {h l : Nat} {b : UInt8} {t : Text} {bs : Bytes} :
      digits[h]? = some high → digits[l]? = some low → b.toNat = 16 * h + l → Pairs t bs →
      Pairs (high :: low :: t) (b :: bs)

/-! ## Digits -/

theorem digit?_eq_getElem? (n : Nat) : digit? n = digits[n]? := by
  by_cases hn : n < 16
  · revert n
    decide
  · have hnone : digits[n]? = none := List.getElem?_eq_none (Nat.le_of_not_lt hn)
    rw [hnone, digit?, if_neg (by omega), if_neg hn]

theorem lt_of_getElem?_digits {n : Nat} {c : Char} (h : digits[n]? = some c) : n < 16 := by
  obtain ⟨hn, _⟩ := List.getElem?_eq_some_iff.mp h
  exact hn

theorem value?_of_getElem?_digits {n : Nat} {c : Char} (h : digits[n]? = some c) :
    value? c = some n := by
  obtain ⟨d, hd, hvalue⟩ := exists_digit? (lt_of_getElem?_digits h)
  rw [digit?_eq_getElem?, h] at hd
  cases hd
  exact hvalue

theorem value?_eq_some_iff {c : Char} {n : Nat} : value? c = some n ↔ digits[n]? = some c := by
  refine ⟨?_, value?_of_getElem?_digits⟩
  intro h
  rw [← digit?_eq_getElem?]
  unfold value? at h
  split at h
  · next hrange =>
    have hlow : 0x30 ≤ c.toNat := hrange.1
    have hhigh : c.toNat ≤ 0x39 := hrange.2
    cases h
    rw [digit?, if_pos (by omega), Nat.add_sub_cancel' hlow, Char.ofNat_toNat]
  · split at h
    · next hrange =>
      have hlow : 0x61 ≤ c.toNat := hrange.1
      have hhigh : c.toNat ≤ 0x66 := hrange.2
      have hback : 0x57 + (c.toNat - 0x57) = c.toNat := by omega
      cases h
      rw [digit?, if_neg (by omega), if_pos (by omega), hback, Char.ofNat_toNat]
    · cases h

/-- A half of a byte has a digit, so none is passed over. -/
theorem exists_digit?_of_mem_halves {b half : UInt8} (h : half ∈ halves b) :
    ∃ c, digit? half.toNat = some c := by
  have hb := b.toNat_lt
  have hmem : half.toNat ∈ (halves b).map UInt8.toNat := List.mem_map_of_mem h
  have hlt : half.toNat < 16 := by
    rw [toNat_halves] at hmem
    simp only [List.mem_cons, List.not_mem_nil, or_false] at hmem
    omega
  obtain ⟨c, hc, _⟩ := exists_digit? hlt
  exact ⟨c, hc⟩

/-! ## What a text of digits stands for -/

theorem encode_cons (b : UInt8) (bs : Bytes) : encode (b :: bs) = encodeByte b ++ encode bs := rfl

theorem pairs_encode (bs : Bytes) : Pairs (encode bs) bs := by
  induction bs with
  | nil => exact .nil
  | cons b rest ih =>
    obtain ⟨high, low, hdigits, hhigh, hlow⟩ := encodeByte_eq b
    have hsum : b.toNat = 16 * (b.toNat / 16) + b.toNat % 16 := (Nat.div_add_mod _ _).symm
    rw [encode_cons, hdigits]
    exact .cons (value?_eq_some_iff.mp hhigh) (value?_eq_some_iff.mp hlow) hsum ih

variable {t : Text} {bs : Bytes}

/-- Of two digits that stand for a byte the first is that of its high half, so there is one way to
write a byte string. -/
theorem Pairs.eq_encode (h : Pairs t bs) : t = encode bs := by
  induction h with
  | nil => rfl
  | @cons high low h l b t bs hhigh hlow hsum _ ih =>
    obtain ⟨high', low', hdigits, hhigh', hlow'⟩ := encodeByte_eq b
    have hl := lt_of_getElem?_digits hlow
    have hdiv : b.toNat / 16 = h := by omega
    have hmod : b.toNat % 16 = l := by omega
    rw [value?_eq_some_iff, hdiv, hhigh] at hhigh'
    rw [value?_eq_some_iff, hmod, hlow] at hlow'
    cases hhigh'
    cases hlow'
    rw [encode_cons, hdigits, ih]
    rfl

theorem Pairs.length (h : Pairs t bs) : t.length = 2 * bs.length := by
  induction h with
  | nil => rfl
  | cons _ _ _ _ ih =>
    simp only [List.length_cons, ih]
    omega

theorem Pairs.mem_digits (h : Pairs t bs) : ∀ c ∈ t, c ∈ digits := by
  induction h with
  | nil =>
    intro c hc
    cases hc
  | cons hhigh hlow _ _ ih =>
    intro c hc
    simp only [List.mem_cons] at hc
    rcases hc with rfl | rfl | hc
    · exact List.mem_of_getElem? hhigh
    · exact List.mem_of_getElem? hlow
    · exact ih c hc

theorem pairs_of_decode? (h : decode? t = some bs) : Pairs t bs := by
  fun_induction decode? t generalizing bs with
  | case1 =>
    cases h
    exact .nil
  | case2 => cases h
  | case3 high low rest n m tail hrest hlow hhigh ih =>
    cases h
    have hn := lt_of_getElem?_digits (value?_eq_some_iff.mp hhigh)
    have hm := lt_of_getElem?_digits (value?_eq_some_iff.mp hlow)
    have hsum : (UInt8.ofNat (16 * n + m)).toNat = 16 * n + m := by
      simp
      omega
    exact .cons (value?_eq_some_iff.mp hhigh) (value?_eq_some_iff.mp hlow) hsum (ih hrest)
  | case4 => cases h

theorem decode?_eq_some_iff : decode? t = some bs ↔ Pairs t bs := by
  refine ⟨pairs_of_decode?, ?_⟩
  intro h
  rw [h.eq_encode]
  exact decode?_encode bs

end Hex

/-- A fingerprint has sixty-four digits in lower case. In pairs, the high one first, they stand for the
thirty-two bytes of the digest and for nothing else, and are read back as the digest. No half of a
byte is passed over on the way. So the fingerprints of two byte strings are the same exactly if
their digests are. -/
theorem fingerprint_holds_digest (x : Bytes) :
    (fingerprint x).length = 64 ∧ (∀ c ∈ fingerprint x, c ∈ "0123456789abcdef".toList) ∧
    (Sha256.digest x).length = 32 ∧
    (∀ bs, Hex.Pairs (fingerprint x) bs ↔ bs = Sha256.digest x) ∧
    Hex.decode? (fingerprint x) = some (Sha256.digest x) ∧
    (∀ b ∈ Sha256.digest x, ∀ half ∈ Hex.halves b, ∃ c, Hex.digit? half.toNat = some c) ∧
    ∀ y, fingerprint x = fingerprint y ↔ Sha256.digest x = Sha256.digest y := by
  have hpairs : Hex.Pairs (fingerprint x) (Sha256.digest x) := Hex.pairs_encode _
  have hread : Hex.decode? (fingerprint x) = some (Sha256.digest x) := Hex.decode?_encode _
  have hsize := Sha256.length_digest x
  refine ⟨?_, hpairs.mem_digits, hsize, ?_, hread, ?_, ?_⟩
  · rw [hpairs.length, hsize]
  · intro bs
    rw [← Hex.decode?_eq_some_iff, hread, Option.some.injEq]
    exact eq_comm
  · intro b _ half hhalf
    exact Hex.exists_digit?_of_mem_halves hhalf
  · intro y
    refine ⟨?_, congrArg Hex.encode⟩
    intro heq
    rw [heq] at hread
    exact (Option.some.inj ((Hex.decode?_encode _).symm.trans hread)).symm

/-- The fingerprint of `abc`, which the standard gives as its first example. -/
example : fingerprint [0x61, 0x62, 0x63] =
    "ba7816bf8f01cfea414140de5dae2223b00361a396177a9cb410ff61f20015ad".toList := by
  decide +kernel

end SiteFilter
