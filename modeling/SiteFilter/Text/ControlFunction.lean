import SiteFilter.Text.Utf8

/-!
# Control functions and what is left without them

A text can hold control functions: control characters, and sequences and strings of characters that
the escape character introduces. `visible` leaves them out and keeps what is meant to be read, with
the layout characters: tab, line feed, form feed and carriage return.

A layout character within an escape sequence or a control sequence suspends it. That character is
kept, and so is what is plain after it; the sequence goes on at the next character that is not plain,
unless a character beyond ASCII was kept in between, which ends it. Within a control string nothing
is kept.

What holds here:
  1. Only plain characters are left (`isPlain_of_mem_visible`), in their order
     (`visible_sublist`).
  2. A text of plain characters is left as it is (`visible_of_isPlain`), so leaving control
     functions out twice is leaving them out once (`visible_visible`).
-/

namespace SiteFilter

/-! ## Classes of characters -/

/-- Whether a character moves what follows it and is kept for that. -/
def isLayout (c : Char) : Bool := c = '\t' || c = '\n' || c = '\x0C' || c = '\r'

/-- Whether a character stands for itself outside of control functions: it is no control character
of ASCII, or it is layout. -/
def isPlain (c : Char) : Bool := (0x20 ≤ c.toNat && c.toNat ≠ 0x7F) || isLayout c

/-- Whether a character can stand between the introducer of a sequence and its final character. -/
def isIntermediate (c : Char) : Bool := 0x20 ≤ c.toNat && c.toNat ≤ 0x2F

def isParameter (c : Char) : Bool := 0x30 ≤ c.toNat && c.toNat ≤ 0x3F

/-- Whether a parameter character is for private use and may only stand first. -/
def isPrivateParameter (c : Char) : Bool := 0x3C ≤ c.toNat && c.toNat ≤ 0x3F

def isFinal (c : Char) : Bool := 0x40 ≤ c.toNat && c.toNat ≤ 0x7E

def escapeCharacter : Char := '\x1B'

def bell : Char := '\x07'

/-- Whether a character ends every control function, wherever it stands. -/
def isCancel (c : Char) : Bool := c = '\x18' || c = '\x1A'

/-- The byte that ends a control string. It is looked for among all bytes, so any character that has
it in its encoding ends the string. -/
def stringTerminator : UInt8 := 0x9C

/-! ## Control functions -/

/-- What a text is in the middle of. -/
inductive ControlFunction where
  | text
  /-- An escape sequence of which only the escape character has been read. -/
  | escape
  | escapeIntermediate
  | sequence
  /-- A device control string of which only the introducer has been read. -/
  | device
  | deviceParameter
  | deviceIntermediate
  /-- The rest of a control string, up to its terminator. -/
  | string
  | command
  deriving DecidableEq, Repr

namespace ControlFunction

/-- What a text is in the middle of after one more character. -/
def next (f : ControlFunction) (c : Char) : ControlFunction :=
  if isCancel c then .text
  else if c = escapeCharacter then .escape
  else match f with
    | .text => .text
    | .escape =>
      if isIntermediate c then .escapeIntermediate
      else if c = '[' then .sequence
      else if c = ']' then .command
      else if c = 'P' then .device
      else if c = 'X' || c = '^' || c = '_' then .string
      else if isParameter c || isFinal c then .text
      else .escape
    | .escapeIntermediate => if isParameter c || isFinal c then .text else .escapeIntermediate
    | .sequence => if isFinal c then .text else .sequence
    | .device =>
      if isIntermediate c then .deviceIntermediate
      else if isParameter c then .deviceParameter
      else if isFinal c then .string
      else .device
    | .deviceParameter =>
      if isIntermediate c then .deviceIntermediate
      else if isPrivateParameter c || isFinal c then .string
      else .deviceParameter
    | .deviceIntermediate =>
      if isParameter c || isFinal c then .string else .deviceIntermediate
    | .string => if stringTerminator ∈ Utf8.encodeChar c then .text else .string
    | .command => if c = bell then .text else .command

/-- Whether a character is kept in the middle of a control function. -/
def keeps (f : ControlFunction) (c : Char) : Bool :=
  match f with
  | .text => isPlain c
  | .escape | .escapeIntermediate | .sequence => isLayout c
  | .device | .deviceParameter | .deviceIntermediate | .string | .command => false

/-- What is visible of the rest of a text in the middle of `f`, which may be suspended. -/
def visibleFrom : ControlFunction → Bool → Text → Text
  | _, _, [] => []
  | f, suspended, c :: rest =>
    if (suspended && isPlain c) || f.keeps c then
      -- a kept character beyond ASCII is read as text again
      c :: visibleFrom (if c.toNat < 0x80 then f else .text) true rest
    else visibleFrom (f.next c) false rest

end ControlFunction

/-- What is left of a text without its control functions. -/
def visible (t : Text) : Text := ControlFunction.visibleFrom .text false t

/-! ## What is left -/

theorem isPlain_of_isLayout {c : Char} (h : isLayout c = true) : isPlain c = true := by
  simp [isPlain, h]

theorem isPlain_of_keeps {f : ControlFunction} {c : Char} (h : f.keeps c = true) :
    isPlain c = true := by
  cases f with
  | text => exact h
  | escape => exact isPlain_of_isLayout h
  | escapeIntermediate => exact isPlain_of_isLayout h
  | sequence => exact isPlain_of_isLayout h
  | device => cases h
  | deviceParameter => cases h
  | deviceIntermediate => cases h
  | string => cases h
  | command => cases h

theorem isPlain_of_mem_visibleFrom {f : ControlFunction} {suspended : Bool} {t : Text} {c : Char}
    (h : c ∈ f.visibleFrom suspended t) : isPlain c = true := by
  induction t generalizing f suspended with
  | nil => cases h
  | cons x rest ih =>
    rw [ControlFunction.visibleFrom] at h
    split at h
    · next hx =>
      rcases List.mem_cons.mp h with rfl | h
      · rcases Bool.or_eq_true_iff.mp hx with hx | hx
        · exact (Bool.and_eq_true_iff.mp hx).2
        · exact isPlain_of_keeps hx
      · exact ih h
    · exact ih h

theorem isPlain_of_mem_visible {t : Text} {c : Char} (h : c ∈ visible t) : isPlain c = true :=
  isPlain_of_mem_visibleFrom h

theorem visibleFrom_sublist (f : ControlFunction) (suspended : Bool) (t : Text) :
    (f.visibleFrom suspended t).Sublist t := by
  induction t generalizing f suspended with
  | nil => exact List.Sublist.refl []
  | cons x rest ih =>
    rw [ControlFunction.visibleFrom]
    split
    · exact (ih _ _).cons_cons x
    · exact (ih _ _).cons x

theorem visible_sublist (t : Text) : (visible t).Sublist t := visibleFrom_sublist _ _ t

theorem visibleFrom_text_of_isPlain {suspended : Bool} {t : Text}
    (h : ∀ c ∈ t, isPlain c = true) : ControlFunction.visibleFrom .text suspended t = t := by
  induction t generalizing suspended with
  | nil => rfl
  | cons x rest ih =>
    have hx : ControlFunction.text.keeps x = true := h x List.mem_cons_self
    rw [ControlFunction.visibleFrom, hx, Bool.or_true, if_pos rfl, ite_self,
      ih fun c hc => h c (List.mem_cons_of_mem x hc)]

theorem visible_of_isPlain {t : Text} (h : ∀ c ∈ t, isPlain c = true) : visible t = t :=
  visibleFrom_text_of_isPlain h

theorem visible_visible (t : Text) : visible (visible t) = visible t :=
  visible_of_isPlain fun _ hc => isPlain_of_mem_visible hc

end SiteFilter
