import SiteFilter.Proofs.Text.EncodedForm

/-!
# ASCII in a byte string that is shown as text

However ill-formed a byte string is, showing it as text neither loses nor makes an ASCII character.
A byte below 80 is a character by itself and part of no other, and what is shown in place of an
ill-formed part is beyond ASCII.

What is proved:
  1. `le_of_lead`, `le_of_isTail`, `le_of_encodeChar` — no byte and no character of a longer form is
     ASCII.
  2. `count_lossy`, `mem_encode_iff` — an ASCII character is shown as often as its byte occurs.
  3. `replacement_mem_lossy` — what is not the form of a text shows the replacement character.
-/

namespace SiteFilter.Utf8

/-! ## Beyond ASCII -/

theorem le_of_lead {a : UInt8} (h : Lead.of a ≠ .one) : 0x80 ≤ a.toNat := by
  apply Nat.le_of_not_lt
  intro hlt
  exact h (by simp [Lead.of, hlt])

theorem le_of_isTail {b : UInt8} (h : isTail b = true) : 0x80 ≤ b.toNat := by
  have htail := toNat_of_isTail h
  omega

/-- A character of more than one byte is not ASCII. -/
theorem le_of_encodeChar {c : Char} {a b : UInt8} {rest : Bytes}
    (h : encodeChar c = a :: b :: rest) : 0x80 ≤ c.toNat := by
  apply Nat.le_of_not_lt
  intro hlt
  simp [encodeChar, hlt] at h

theorem le_replacement : 0x80 ≤ replacement.toNat := by decide

/-! ## Counting -/

section
variable {x : UInt8} (hx : x.toNat < 0x80)
include hx

theorem toNat_charOfAscii : (Char.ofNat x.toNat).toNat = x.toNat :=
  toNat_charOfNat (.inl (by omega))

theorem charOfAscii_inj {a : UInt8} (ha : Lead.of a = .one) :
    Char.ofNat a.toNat = Char.ofNat x.toNat ↔ a = x := by
  constructor
  · intro h
    have hnat := congrArg Char.toNat h
    rw [toNat_charOfAscii (toNat_of_lead.1 ha), toNat_charOfAscii hx] at hnat
    exact UInt8.toNat_inj.mp hnat
  · rintro rfl
    rfl

/-- A part of a byte string beyond ASCII, shown as a character beyond ASCII, counts for nothing. -/
theorem count_beyond {c : Char} (part : Bytes) {rest : Bytes} {shown : Text}
    (hc : 0x80 ≤ c.toNat) (hpart : ∀ b ∈ part, 0x80 ≤ b.toNat)
    (h : shown.count (Char.ofNat x.toNat) = rest.count x) :
    (c :: shown).count (Char.ofNat x.toNat) = (part ++ rest).count x := by
  have hchar : c ≠ Char.ofNat x.toNat := by
    rintro rfl
    rw [toNat_charOfAscii hx] at hc
    omega
  have hnone : part.count x = 0 := by
    rw [List.count_eq_zero]
    intro hmem
    have := hpart x hmem
    omega
  rw [List.count_cons_of_ne hchar, List.count_append, hnone, Nat.zero_add, h]

/-- An ASCII character is shown as often as its byte occurs, whatever stands around it. -/
theorem count_lossy (bs : Bytes) : (lossy bs).count (Char.ofNat x.toNat) = bs.count x := by
  unfold lossy
  fun_induction scan bs with
  | case1 => rfl
  | case2 a rest ha ih =>
    rw [List.map_cons, Option.getD_some, List.count_cons, List.count_cons, ih]
    simp only [beq_iff_eq, charOfAscii_inj hx ha]
  | case5 a ha b rest hb ih =>
    have hchar := le_of_encodeChar (encodeChar_charOfTwo ha (isTail_of_follows hb))
    rw [List.map_cons, Option.getD_some]
    apply count_beyond hx [a, b] hchar _ ih
    grind [le_of_lead, le_of_isTail, isTail_of_follows]
  | case9 a ha b hb c rest hc ih =>
    have hchar := le_of_encodeChar (encodeChar_charOfThree ha hb hc)
    rw [List.map_cons, Option.getD_some]
    apply count_beyond hx [a, b, c] hchar _ ih
    grind [le_of_lead, le_of_isTail, isTail_of_follows]
  | case15 a ha b hb c hc d rest hd ih =>
    have hchar := le_of_encodeChar (encodeChar_charOfFour ha hb hc hd)
    rw [List.map_cons, Option.getD_some]
    apply count_beyond hx [a, b, c, d] hchar _ ih
    grind [le_of_lead, le_of_isTail, isTail_of_follows]
  | case3 a rest ha ih =>
    apply count_beyond hx [a] le_replacement _ ih
    grind [le_of_lead]
  | case4 a ha | case7 a ha | case12 a ha =>
    apply count_beyond hx [a] le_replacement _ rfl
    grind [le_of_lead]
  | case6 a ha b rest hb ih | case11 a ha b rest hb ih | case18 a ha b rest hb ih =>
    apply count_beyond hx [a] le_replacement _ ih
    grind [le_of_lead]
  | case8 a ha b hb | case13 a ha b hb =>
    apply count_beyond hx [a, b] le_replacement _ rfl
    grind [le_of_lead, le_of_isTail, isTail_of_follows]
  | case10 a ha b hb c rest hc ih | case17 a ha b hb c rest hc ih =>
    apply count_beyond hx [a, b] le_replacement _ ih
    grind [le_of_lead, le_of_isTail, isTail_of_follows]
  | case14 a ha b hb c hc =>
    apply count_beyond hx [a, b, c] le_replacement _ rfl
    grind [le_of_lead, le_of_isTail, isTail_of_follows]
  | case16 a ha b hb c hc d rest hd ih =>
    apply count_beyond hx [a, b, c] le_replacement _ ih
    grind [le_of_lead, le_of_isTail, isTail_of_follows]

/-- An ASCII character stands in a text exactly if its byte stands in the text's form. -/
theorem mem_encode_iff {t : Text} : x ∈ encode t ↔ Char.ofNat x.toNat ∈ t := by
  rw [← List.count_pos_iff, ← count_lossy hx, lossy_encode, List.count_pos_iff]

end

/-! ## Ill-formed parts -/

theorem wellFormed_eq_none_iff {parts : List (Option Char)} :
    wellFormed parts = none ↔ none ∈ parts := by
  induction parts with
  | nil => simp [wellFormed]
  | cons part rest ih =>
    cases part with
    | none => simp [wellFormed]
    | some c => simp [wellFormed, ih]

theorem replacement_mem_lossy {bs : Bytes} (h : decode? bs = none) : replacement ∈ lossy bs := by
  have hpart : none ∈ scan bs := wellFormed_eq_none_iff.mp h
  exact List.mem_map.mpr ⟨none, hpart, rfl⟩

end SiteFilter.Utf8
