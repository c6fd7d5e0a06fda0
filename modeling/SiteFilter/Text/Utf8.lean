import SiteFilter.Text.Basic

/-!
# UTF-8

Every text has one form in bytes, and only that form is read back. What else a byte string may hold
is not lost either: `scan` reads it as characters and as ill-formed parts, each as long as it could
still have been the beginning of a character. `decode?` accepts a byte string without ill-formed
parts, and `lossy` shows each ill-formed part as the replacement character U+FFFD.

`decode?_encode` says that reading undoes writing.
-/

namespace SiteFilter.Utf8

/-! ## Writing -/

/-- A byte after the first: six bits of the code point under the mark 10. -/
def tailByte (bits : Nat) : UInt8 := .ofNat (0x80 + bits % 0x40)

/-- The bytes of a character: one to four, by the size of its code point. -/
def encodeChar (c : Char) : Bytes :=
  let n := c.toNat
  if n < 0x80 then [.ofNat n]
  else if n < 0x800 then [.ofNat (0xC0 + n / 0x40), tailByte n]
  else if n < 0x10000 then [.ofNat (0xE0 + n / 0x1000), tailByte (n / 0x40), tailByte n]
  else [.ofNat (0xF0 + n / 0x40000), tailByte (n / 0x1000), tailByte (n / 0x40), tailByte n]

def encode (t : Text) : Bytes := t.flatMap encodeChar

/-! ## Reading -/

/-- What a byte can begin: a character of one to four bytes, or none. -/
inductive Lead where
  | one
  | two
  | three
  | four
  | never
  deriving DecidableEq, Repr

/-- C0, C1 and everything from F5 on begin no character, nor does a byte after the first. -/
def Lead.of (b : UInt8) : Lead :=
  let n := b.toNat
  if n < 0x80 then .one
  else if n < 0xC2 then .never
  else if n < 0xE0 then .two
  else if n < 0xF0 then .three
  else if n < 0xF5 then .four
  else .never

/-- Whether a byte can stand after the first. -/
def isTail (b : UInt8) : Bool := 0x80 ≤ b.toNat && b.toNat < 0xC0

/-- Whether `second` can follow the first byte `lead`: a byte after the first that makes the form
neither longer than needed (after E0 and F0), nor a surrogate (after ED), nor larger than the last
code point (after F4). -/
def follows (lead second : UInt8) : Bool :=
  isTail second &&
    (if lead.toNat = 0xE0 then decide (0xA0 ≤ second.toNat)
    else if lead.toNat = 0xED then decide (second.toNat < 0xA0)
    else if lead.toNat = 0xF0 then decide (0x90 ≤ second.toNat)
    else if lead.toNat = 0xF4 then decide (second.toNat < 0x90)
    else true)

def tailBits (b : UInt8) : Nat := b.toNat % 0x40

def charOfTwo (a b : UInt8) : Char := .ofNat (a.toNat % 0x20 * 0x40 + tailBits b)

def charOfThree (a b c : UInt8) : Char :=
  .ofNat (a.toNat % 0x10 * 0x1000 + tailBits b * 0x40 + tailBits c)

def charOfFour (a b c d : UInt8) : Char :=
  .ofNat (a.toNat % 0x08 * 0x40000 + tailBits b * 0x1000 + tailBits c * 0x40 + tailBits d)

/-- The characters of a byte string in order, and `none` for each ill-formed part. An ill-formed
part ends before the first byte with which it can no longer begin a character. -/
def scan : Bytes → List (Option Char)
  | [] => []
  | a :: rest =>
    match Lead.of a with
    | .one => some (.ofNat a.toNat) :: scan rest
    | .never => none :: scan rest
    | .two =>
      match rest with
      | [] => [none]
      | b :: rest₁ =>
        -- a byte that does not fit may itself begin a character, so it is read again
        if follows a b then some (charOfTwo a b) :: scan rest₁ else none :: scan (b :: rest₁)
    | .three =>
      match rest with
      | [] => [none]
      | b :: rest₁ =>
        if follows a b then
          match rest₁ with
          | [] => [none]
          | c :: rest₂ =>
            if isTail c then some (charOfThree a b c) :: scan rest₂ else none :: scan (c :: rest₂)
        else none :: scan (b :: rest₁)
    | .four =>
      match rest with
      | [] => [none]
      | b :: rest₁ =>
        if follows a b then
          match rest₁ with
          | [] => [none]
          | c :: rest₂ =>
            if isTail c then
              match rest₂ with
              | [] => [none]
              | d :: rest₃ =>
                if isTail d then some (charOfFour a b c d) :: scan rest₃
                else none :: scan (d :: rest₃)
            else none :: scan (c :: rest₂)
        else none :: scan (b :: rest₁)

def wellFormed : List (Option Char) → Option Text
  | [] => some []
  | none :: _ => none
  | some c :: rest => (wellFormed rest).map (c :: ·)

/-- The text that a byte string is the form of. -/
def decode? (bs : Bytes) : Option Text := wellFormed (scan bs)

def replacement : Char := '\uFFFD'

/-- The byte string as text, each ill-formed part shown as the replacement character. -/
def lossy (bs : Bytes) : Text := (scan bs).map fun part => part.getD replacement

/-! ## Reading undoes writing -/

theorem toNat_ofNat_of_lt {n : Nat} (h : n < 0x100) : (UInt8.ofNat n).toNat = n := by
  simp; omega

theorem toNat_tailByte (n : Nat) : (tailByte n).toNat = 0x80 + n % 0x40 :=
  toNat_ofNat_of_lt (by omega)

theorem isTail_tailByte (n : Nat) : isTail (tailByte n) = true := by
  simp only [isTail, toNat_tailByte, Bool.and_eq_true, decide_eq_true_eq]
  omega

theorem tailBits_tailByte (n : Nat) : tailBits (tailByte n) = n % 0x40 := by
  simp only [tailBits, toNat_tailByte]
  omega

theorem codePoint_cases (c : Char) :
    c.toNat < 0xD800 ∨ (0xDFFF < c.toNat ∧ c.toNat < 0x110000) := c.valid

theorem scan_encodeChar_append (c : Char) (rest : Bytes) :
    scan (encodeChar c ++ rest) = some c :: scan rest := by
  have hc := codePoint_cases c
  unfold encodeChar
  generalize hn : c.toNat = n at hc
  have hback : Char.ofNat n = c := by rw [← hn, Char.ofNat_toNat]
  simp only
  split
  -- one to four bytes, each with its own lead and its own bits
  · have ha : (UInt8.ofNat n).toNat = n := toNat_ofNat_of_lt (by omega)
    have hl : Lead.of (.ofNat n) = .one := by simp only [Lead.of, ha]; simp; omega
    conv => lhs; rw [List.cons_append, List.nil_append, scan.eq_def]
    simp only [hl, ha, hback]
  · split
    · have ha : (UInt8.ofNat (0xC0 + n / 0x40)).toNat = 0xC0 + n / 0x40 :=
        toNat_ofNat_of_lt (by omega)
      generalize UInt8.ofNat (0xC0 + n / 0x40) = a at ha
      have hl : Lead.of a = .two := by
        simp only [Lead.of, ha]
        rw [if_neg (by omega), if_neg (by omega), if_pos (by omega)]
      have hf : follows a (tailByte n) = true := by
        simp only [follows, ha, isTail_tailByte, Bool.true_and]
        rw [if_neg (by omega), if_neg (by omega), if_neg (by omega), if_neg (by omega)]
      have hv : charOfTwo a (tailByte n) = c := by
        rw [← hback, charOfTwo, ha, tailBits_tailByte]
        congr 1
        omega
      conv => lhs; rw [List.cons_append, List.cons_append, List.nil_append, scan.eq_def]
      simp only [hl, hf, hv, if_true]
    · split
      · have ha : (UInt8.ofNat (0xE0 + n / 0x1000)).toNat = 0xE0 + n / 0x1000 :=
          toNat_ofNat_of_lt (by omega)
        generalize UInt8.ofNat (0xE0 + n / 0x1000) = a at ha
        have hl : Lead.of a = .three := by
          simp only [Lead.of, ha]
          rw [if_neg (by omega), if_neg (by omega), if_neg (by omega), if_pos (by omega)]
        have hf : follows a (tailByte (n / 0x40)) = true := by
          simp only [follows, ha, isTail_tailByte, toNat_tailByte, Bool.true_and]
          split
          · simp; omega
          · split
            · simp; omega
            · rw [if_neg (by omega), if_neg (by omega)]
        have hv : charOfThree a (tailByte (n / 0x40)) (tailByte n) = c := by
          rw [← hback, charOfThree, ha, tailBits_tailByte, tailBits_tailByte]
          congr 1
          omega
        simp only [List.cons_append, List.nil_append]
        conv => lhs; rw [scan.eq_def]
        simp only [hl, hf, hv, isTail_tailByte, if_true]
      · have ha : (UInt8.ofNat (0xF0 + n / 0x40000)).toNat = 0xF0 + n / 0x40000 :=
          toNat_ofNat_of_lt (by omega)
        generalize UInt8.ofNat (0xF0 + n / 0x40000) = a at ha
        have hl : Lead.of a = .four := by
          simp only [Lead.of, ha]
          rw [if_neg (by omega), if_neg (by omega), if_neg (by omega), if_neg (by omega),
            if_pos (by omega)]
        have hf : follows a (tailByte (n / 0x1000)) = true := by
          simp only [follows, ha, isTail_tailByte, toNat_tailByte, Bool.true_and]
          rw [if_neg (by omega), if_neg (by omega)]
          split
          · simp; omega
          · split
            · simp; omega
            · rfl
        have hv : charOfFour a (tailByte (n / 0x1000)) (tailByte (n / 0x40)) (tailByte n) = c := by
          rw [← hback, charOfFour, ha, tailBits_tailByte, tailBits_tailByte, tailBits_tailByte]
          congr 1
          omega
        simp only [List.cons_append, List.nil_append]
        conv => lhs; rw [scan.eq_def]
        simp only [hl, hf, hv, isTail_tailByte, if_true]

theorem scan_encode (t : Text) : scan (encode t) = t.map some := by
  induction t with
  | nil => rfl
  | cons c rest ih =>
    have : encode (c :: rest) = encodeChar c ++ encode rest := rfl
    rw [this, scan_encodeChar_append, ih, List.map_cons]

theorem wellFormed_map_some (t : Text) : wellFormed (t.map some) = some t := by
  induction t with
  | nil => rfl
  | cons c rest ih => simp [wellFormed, ih]

theorem decode?_encode (t : Text) : decode? (encode t) = some t := by
  rw [decode?, scan_encode, wellFormed_map_some]

theorem lossy_encode (t : Text) : lossy (encode t) = t := by
  rw [lossy, scan_encode, List.map_map]
  exact List.map_id' t

end SiteFilter.Utf8
