import SiteFilter.Text.Utf8

/-!
# Reading accepts nothing but the written form

`decode?_encode` says that the written form of a text is read back. Here is the other half: a byte
string that is read as a text is the form in which that text is written. Forms that are too long,
surrogates and numbers beyond the last code point would break it, and `follows` refuses them.

What is proved:
  1. `encodeChar_ofNat`, `encodeChar_charOfTwo`, `encodeChar_charOfThree`, `encodeChar_charOfFour` —
     what is read as one character is the form of that character.
  2. `decode?_eq_some_iff` — a byte string is read as a text exactly if it is the text's form.
-/

namespace SiteFilter.Utf8

theorem toNat_charOfNat {n : Nat} (h : n.isValidChar) : (Char.ofNat n).toNat = n := by
  rw [Char.ofNat, dif_pos h]
  rfl

theorem ofNat_eq_of_toNat {b : UInt8} {n : Nat} (h : n = b.toNat) : UInt8.ofNat n = b := by
  rw [h, UInt8.ofNat_toNat]

/-! ## What the bytes of a character say -/

/-- The numbers of the bytes that begin a character, by the length of the character. -/
theorem toNat_of_lead {a : UInt8} :
    (Lead.of a = .one → a.toNat < 0x80) ∧
    (Lead.of a = .two → 0xC2 ≤ a.toNat ∧ a.toNat < 0xE0) ∧
    (Lead.of a = .three → 0xE0 ≤ a.toNat ∧ a.toNat < 0xF0) ∧
    (Lead.of a = .four → 0xF0 ≤ a.toNat ∧ a.toNat < 0xF5) := by
  grind [Lead.of]

theorem tailBits_lt (b : UInt8) : tailBits b < 0x40 := Nat.mod_lt _ (by decide)

theorem toNat_of_isTail {b : UInt8} (h : isTail b = true) : b.toNat = 0x80 + tailBits b := by
  simp only [isTail, Bool.and_eq_true, decide_eq_true_eq] at h
  simp only [tailBits]
  omega

theorem isTail_of_follows {a b : UInt8} (h : follows a b = true) : isTail b = true := by
  simp only [follows, Bool.and_eq_true] at h
  exact h.1

/-- What the second byte may not say after the four first bytes that restrict it. -/
theorem tailBits_of_follows {a b : UInt8} (h : follows a b = true) :
    (a.toNat = 0xE0 → 0x20 ≤ tailBits b) ∧ (a.toNat = 0xED → tailBits b < 0x20) ∧
    (a.toNat = 0xF0 → 0x10 ≤ tailBits b) ∧ (a.toNat = 0xF4 → tailBits b < 0x10) := by
  have hb := toNat_of_isTail (isTail_of_follows h)
  simp only [follows, Bool.and_eq_true] at h
  refine ⟨?_, ?_, ?_, ?_⟩ <;> intro ha <;> simp [ha] at h <;> omega

theorem tailByte_eq {b : UInt8} {n : Nat} (hb : isTail b = true) (h : n % 0x40 = tailBits b) :
    tailByte n = b := by
  apply ofNat_eq_of_toNat
  rw [h, toNat_of_isTail hb]

/-! ## The form of a character -/

theorem encodeChar_ofNat {a : UInt8} (ha : Lead.of a = .one) :
    encodeChar (.ofNat a.toNat) = [a] := by
  have hrange := toNat_of_lead.1 ha
  have hn : (Char.ofNat a.toNat).toNat = a.toNat := toNat_charOfNat (by left; omega)
  rw [encodeChar]
  simp only [hn, if_pos hrange, UInt8.ofNat_toNat]

theorem encodeChar_charOfTwo {a b : UInt8} (ha : Lead.of a = .two) (hb : isTail b = true) :
    encodeChar (charOfTwo a b) = [a, b] := by
  have hrange := toNat_of_lead.2.1 ha
  have hbits := tailBits_lt b
  have hn : (charOfTwo a b).toNat = a.toNat % 0x20 * 0x40 + tailBits b :=
    toNat_charOfNat (by left; omega)
  rw [encodeChar]
  simp only [hn]
  rw [if_neg (by omega), if_pos (by omega), tailByte_eq hb (by omega),
    ofNat_eq_of_toNat (b := a) (by omega)]

theorem encodeChar_charOfThree {a b c : UInt8} (ha : Lead.of a = .three)
    (hb : follows a b = true) (hc : isTail c = true) :
    encodeChar (charOfThree a b c) = [a, b, c] := by
  have hrange := toNat_of_lead.2.2.1 ha
  have hbits := tailBits_lt b
  have hcbits := tailBits_lt c
  -- not too long a form, and no surrogate
  obtain ⟨hlong, hsurrogate, _⟩ := tailBits_of_follows hb
  have hn : (charOfThree a b c).toNat =
      a.toNat % 0x10 * 0x1000 + tailBits b * 0x40 + tailBits c := by
    apply toNat_charOfNat
    unfold Nat.isValidChar
    omega
  rw [encodeChar]
  simp only [hn]
  rw [if_neg (by omega), if_neg (by omega), if_pos (by omega),
    tailByte_eq (isTail_of_follows hb) (by omega), tailByte_eq hc (by omega),
    ofNat_eq_of_toNat (b := a) (by omega)]

theorem encodeChar_charOfFour {a b c d : UInt8} (ha : Lead.of a = .four)
    (hb : follows a b = true) (hc : isTail c = true) (hd : isTail d = true) :
    encodeChar (charOfFour a b c d) = [a, b, c, d] := by
  have hrange := toNat_of_lead.2.2.2 ha
  have hbits := tailBits_lt b
  have hcbits := tailBits_lt c
  have hdbits := tailBits_lt d
  -- not too long a form, and not beyond the last code point
  obtain ⟨_, _, hlong, hlast⟩ := tailBits_of_follows hb
  have hn : (charOfFour a b c d).toNat =
      a.toNat % 0x08 * 0x40000 + tailBits b * 0x1000 + tailBits c * 0x40 + tailBits d := by
    apply toNat_charOfNat
    unfold Nat.isValidChar
    omega
  rw [encodeChar]
  simp only [hn]
  rw [if_neg (by omega), if_neg (by omega), if_neg (by omega),
    tailByte_eq (isTail_of_follows hb) (by omega), tailByte_eq hc (by omega),
    tailByte_eq hd (by omega), ofNat_eq_of_toNat (b := a) (by omega)]

/-! ## The form of a text -/

theorem encode_cons (c : Char) (t : Text) : encode (c :: t) = encodeChar c ++ encode t := rfl

theorem encode_append (t u : Text) : encode (t ++ u) = encode t ++ encode u := List.flatMap_append

theorem encode_inj {t u : Text} (h : encode t = encode u) : t = u := by
  rw [← lossy_encode t, h, lossy_encode]

theorem wellFormed_cons_eq_some_iff {c : Char} {parts : List (Option Char)} {t : Text} :
    wellFormed (some c :: parts) = some t ↔ ∃ rest, wellFormed parts = some rest ∧ t = c :: rest := by
  rw [wellFormed, Option.map_eq_some_iff]
  simp only [eq_comm]

theorem wellFormed_none {parts : List (Option Char)} {t : Text} :
    wellFormed (none :: parts) ≠ some t := by
  simp [wellFormed]

theorem eq_encode_of_wellFormed {bs : Bytes} {t : Text} (h : wellFormed (scan bs) = some t) :
    bs = encode t := by
  fun_induction scan bs generalizing t with
  | case1 =>
    cases h
    rfl
  | case2 a rest ha ih =>
    obtain ⟨u, hu, rfl⟩ := wellFormed_cons_eq_some_iff.mp h
    rw [encode_cons, ← ih hu, encodeChar_ofNat ha]
    rfl
  | case5 a ha b rest hb ih =>
    obtain ⟨u, hu, rfl⟩ := wellFormed_cons_eq_some_iff.mp h
    rw [encode_cons, ← ih hu, encodeChar_charOfTwo ha (isTail_of_follows hb)]
    rfl
  | case9 a ha b hb c rest hc ih =>
    obtain ⟨u, hu, rfl⟩ := wellFormed_cons_eq_some_iff.mp h
    rw [encode_cons, ← ih hu, encodeChar_charOfThree ha hb hc]
    rfl
  | case15 a ha b hb c hc d rest hd ih =>
    obtain ⟨u, hu, rfl⟩ := wellFormed_cons_eq_some_iff.mp h
    rw [encode_cons, ← ih hu, encodeChar_charOfFour ha hb hc hd]
    rfl
  | _ => exact absurd h wellFormed_none

/-- Only the written form of a text is read as that text. -/
theorem decode?_eq_some_iff {bs : Bytes} {t : Text} : decode? bs = some t ↔ bs = encode t := by
  constructor
  · exact eq_encode_of_wellFormed
  · intro h
    rw [h]
    exact decode?_encode t

end SiteFilter.Utf8
