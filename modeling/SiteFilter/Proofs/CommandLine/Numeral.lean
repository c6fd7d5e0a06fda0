import Mathlib.Data.List.TakeWhile
import SiteFilter.CommandLine.Options
import SiteFilter.Proofs.Text.EncodedForm

/-!
# Numerals

A count is accepted exactly if it is a numeral, a number written in decimal digits with one plus
sign in front if one likes, and the number is not too large. Zeros in front do not count.

What is proved:
  1. `readDigits_eq` — reading from left to right comes to what the digits at the front say. The limit
     is tested at every digit, and a number never shrinks as digits follow.
  2. `readDigits_eq_ok_iff` — reading digits gives the number they are the digits of, if it is within
     the limit.
  3. `ofText_eq_ok_iff` — the texts that stand for a count.
  4. `readCount_eq_ok_iff` — the values of the command line that stand for a count.
-/

namespace SiteFilter

/-- A text that writes a number in decimal. -/
inductive Numeral : Text → Nat → Prop where
  | plain {digits : Text} :
      digits ≠ [] → (∀ c ∈ digits, c.isDigit = true) →
      Numeral digits (Nat.ofDigitChars 10 digits 0)
  | signed {digits : Text} :
      digits ≠ [] → (∀ c ∈ digits, c.isDigit = true) →
      Numeral ('+' :: digits) (Nat.ofDigitChars 10 digits 0)

namespace Count

theorem isDigit_iff {c : Char} : c.isDigit = true ↔ '0' ≤ c ∧ c ≤ '9' := by
  simp only [Char.isDigit, Bool.and_eq_true, decide_eq_true_eq]
  exact Iff.rfl

theorem digit?_of_isDigit {c : Char} (h : c.isDigit = true) :
    digit? c = some (c.toNat - '0'.toNat) := by
  rw [digit?, if_pos (isDigit_iff.mp h)]
  rfl

theorem digit?_eq_none {c : Char} (h : c.isDigit = false) : digit? c = none := by
  rw [digit?, if_neg]
  intro hrange
  rw [isDigit_iff.mpr hrange] at h
  cases h

theorem le_ofDigitChars (n : Nat) (t : Text) : n ≤ Nat.ofDigitChars 10 t n := by
  induction t generalizing n with
  | nil => exact Nat.le_refl n
  | cons c rest ih =>
    rw [Nat.ofDigitChars_cons]
    have := ih (10 * n + (c.toNat - '0'.toNat))
    omega

/-- By induction on the digits to come: the number so far is within the limit, and what goes beyond it
never comes back. -/
theorem readDigits_eq {n : Nat} (hn : n ≤ limit) (t : Text) :
    readDigits n t =
      if limit < Nat.ofDigitChars 10 (t.takeWhile Char.isDigit) n then .error .tooLarge
      else if t.takeWhile Char.isDigit ≠ t then .error .invalidDigit
      else .ok (Nat.ofDigitChars 10 (t.takeWhile Char.isDigit) n) := by
  induction t generalizing n with
  | nil => simp [readDigits, Nat.not_lt.mpr hn]
  | cons c rest ih =>
    rw [readDigits]
    cases hc : c.isDigit with
    | false =>
      rw [digit?_eq_none hc]
      simp [hc, Nat.not_lt.mpr hn]
    | true =>
      rw [digit?_of_isDigit hc, List.takeWhile_cons_of_pos hc, Nat.ofDigitChars_cons,
        Nat.mul_comm 10 n]
      simp only [ne_eq, List.cons.injEq, true_and]
      split
      · next hlarge =>
        have hgrow := le_ofDigitChars (n * 10 + (c.toNat - '0'.toNat))
          (rest.takeWhile Char.isDigit)
        rw [if_pos (by omega)]
      · next hsmall => exact ih (by omega)

theorem readDigits_eq_ok_iff {n m : Nat} {t : Text} (hn : n ≤ limit) :
    readDigits n t = .ok m ↔
      (∀ c ∈ t, c.isDigit = true) ∧ m = Nat.ofDigitChars 10 t n ∧ m ≤ limit := by
  rw [readDigits_eq hn]
  constructor
  · intro h
    split at h
    · cases h
    · next hsmall =>
      split at h
      · cases h
      · next hall =>
        rw [not_not] at hall
        cases h
        rw [hall] at hsmall ⊢
        exact ⟨List.takeWhile_eq_self_iff.mp hall, rfl, Nat.not_lt.mp hsmall⟩
  · intro h
    obtain ⟨hdigits, rfl, hsmall⟩ := h
    rw [List.takeWhile_eq_self_iff.mpr hdigits, if_neg (Nat.not_lt.mpr hsmall),
      if_neg (not_not.mpr rfl)]

theorem ofText_eq_ok_iff {t : Text} {n : Nat} :
    ofText t = .ok n ↔ Numeral t n ∧ n ≤ limit := by
  have h0 : 0 ≤ limit := Nat.zero_le _
  unfold ofText
  split
  · refine iff_of_false (by simp) ?_
    intro hboth
    obtain ⟨h, _⟩ := hboth
    cases h with
    | plain hne _ => exact hne rfl
  · refine iff_of_false (by simp) ?_
    intro hboth
    obtain ⟨h, _⟩ := hboth
    -- a sign is no digit
    cases h with
    | plain _ hdigits => exact absurd (hdigits '+' (by simp)) (by decide)
    | signed hne _ => exact hne rfl
  · next rest hrest =>
    rw [readDigits_eq_ok_iff h0]
    constructor
    · intro hboth
      obtain ⟨hdigits, rfl, hn⟩ := hboth
      refine ⟨.signed ?_ hdigits, hn⟩
      intro heq
      subst heq
      exact hrest rfl
    · intro hboth
      obtain ⟨h, hn⟩ := hboth
      cases h with
      | plain _ hdigits => exact absurd (hdigits '+' (by simp)) (by decide)
      | signed _ hdigits => exact ⟨hdigits, rfl, hn⟩
  · next hempty _ hsign =>
    rw [readDigits_eq_ok_iff h0]
    constructor
    · intro hboth
      obtain ⟨hdigits, rfl, hn⟩ := hboth
      exact ⟨.plain hempty hdigits, hn⟩
    · intro hboth
      obtain ⟨h, hn⟩ := hboth
      cases h with
      | plain _ hdigits => exact ⟨hdigits, rfl, hn⟩
      | @signed digits _ _ => exact absurd rfl (hsign digits)

end Count

/-! ## The values that stand for a count -/

/-- A value that writes a count: a numeral for a number that sixty-four bits hold. -/
def CountValue (value : Bytes) (n : Nat) : Prop :=
  ∃ t, value = Utf8.encode t ∧ Numeral t n ∧ n ≤ UInt64.size - 1

theorem readCount_eq_ok_iff {value : Bytes} {n : Nat} :
    CommandLine.readCount value = .ok n ↔ CountValue value n := by
  have hread : CommandLine.readCount value = .ok n ↔
      ∃ t, Utf8.decode? value = some t ∧ Count.ofText t = .ok n := by
    rw [CommandLine.readCount]
    cases Utf8.decode? value with
    | none => simp
    | some t => cases hcount : Count.ofText t <;> simp [hcount]
  rw [hread]
  apply exists_congr
  intro t
  rw [Utf8.decode?_eq_some_iff, Count.ofText_eq_ok_iff]
  exact Iff.rfl

/-- A numeral begins with a digit or a plus sign. -/
theorem Numeral.exists_head {t : Text} {n : Nat} (h : Numeral t n) :
    ∃ c rest, t = c :: rest ∧ (c.isDigit = true ∨ c = '+') := by
  cases h with
  | plain hne hdigits =>
    obtain ⟨c, rest, rfl⟩ := List.exists_cons_of_ne_nil hne
    exact ⟨c, rest, rfl, .inl (hdigits c (by simp))⟩
  | @signed digits _ _ => exact ⟨'+', digits, rfl, .inr rfl⟩

/-- So a value that writes a count has a first byte, which is neither a dash nor an equals sign. -/
theorem CountValue.exists_head {value : Bytes} {n : Nat} (h : CountValue value n) :
    ∃ b rest, value = b :: rest ∧ b ≠ CommandLine.dash ∧ b ≠ CommandLine.equalsSign := by
  obtain ⟨t, rfl, hnumeral, _⟩ := h
  obtain ⟨c, rest, rfl, hc⟩ := hnumeral.exists_head
  have hrange : c.toNat = 0x2B ∨ (0x30 ≤ c.toNat ∧ c.toNat ≤ 0x39) := by
    rcases hc with hc | rfl
    · exact .inr (Count.isDigit_iff.mp hc)
    · exact .inl rfl
  have hbyte : (UInt8.ofNat c.toNat).toNat = c.toNat := Utf8.toNat_ofNat_of_lt (by omega)
  have hencode : Utf8.encode (c :: rest) = .ofNat c.toNat :: Utf8.encode rest := by
    have hascii : c.toNat < 0x80 := by omega
    rw [Utf8.encode_cons, Utf8.encodeChar]
    simp [hascii]
  refine ⟨_, _, hencode, ?_, ?_⟩
  · intro heq
    rw [heq] at hbyte
    have : CommandLine.dash.toNat = 0x2D := rfl
    omega
  · intro heq
    rw [heq] at hbyte
    have : CommandLine.equalsSign.toNat = 0x3D := rfl
    omega

end SiteFilter
