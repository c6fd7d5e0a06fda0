import SiteFilter.Text.Basic

/-!
# Blank characters and trimming

Two classes of characters count as nothing, each in its own place. White space is the Unicode
property `White_Space`: it decides whether a setting is blank. The ends of a filter are trimmed of
white space and of the four information separators U+001C to U+001F as well.

`trimBy p` removes the longest run of characters in `p` from both ends and keeps what lies between,
characters in `p` included.
-/

namespace SiteFilter

/-- The ranges of the Unicode property `White_Space`, ends included: 25 characters. -/
def whiteSpaceRanges : List (Nat × Nat) :=
  [(0x0009, 0x000D), (0x0020, 0x0020), (0x0085, 0x0085), (0x00A0, 0x00A0), (0x1680, 0x1680),
   (0x2000, 0x200A), (0x2028, 0x2029), (0x202F, 0x202F), (0x205F, 0x205F), (0x3000, 0x3000)]

def isWhiteSpace (c : Char) : Bool :=
  whiteSpaceRanges.any fun range => range.1 ≤ c.toNat && c.toNat ≤ range.2

/-- Whether a character is one of the information separators U+001C to U+001F. -/
def isInformationSeparator (c : Char) : Bool := 0x1C ≤ c.toNat && c.toNat ≤ 0x1F

/-- Whether a character is trimmed from the ends of a filter. -/
def isBlank (c : Char) : Bool := isWhiteSpace c || isInformationSeparator c

/-- The text without the characters in `p` at its two ends. -/
def trimBy (p : Char → Bool) (t : Text) : Text :=
  ((t.dropWhile p).reverse.dropWhile p).reverse

/-- The text without blank characters at its ends: a record trimmed to a filter. -/
def trimBlank (t : Text) : Text := trimBy isBlank t

def trimWhiteSpace (t : Text) : Text := trimBy isWhiteSpace t

theorem mem_of_mem_trimBy {p : Char → Bool} {t : Text} {c : Char} (h : c ∈ trimBy p t) :
    c ∈ t := by
  have h1 : c ∈ (t.dropWhile p).reverse.dropWhile p := List.mem_reverse.mp h
  have h2 : c ∈ t.dropWhile p :=
    List.mem_reverse.mp ((List.dropWhile_sublist p).subset h1)
  exact (List.dropWhile_sublist p).subset h2

end SiteFilter
