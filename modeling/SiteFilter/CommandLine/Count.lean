import SiteFilter.Text.Basic

/-!
# Counts

A count is written in decimal digits, with one plus sign in front if one likes, and is at most
`Count.limit`. Reading goes from left to right and stops at the first thing that is wrong, so a value
that is already too large is reported before a bad character behind it.
-/

namespace SiteFilter

inductive CountFault where
  | empty
  | invalidDigit
  | tooLarge
  deriving DecidableEq, Repr

def CountFault.message : CountFault → Text
  | .empty => "cannot parse integer from empty string".toList
  | .invalidDigit => "invalid digit found in string".toList
  | .tooLarge => "number too large to fit in target type".toList

namespace Count

/-- The largest count: what sixty-four bits hold. -/
def limit : Nat := UInt64.size - 1

def digit? (c : Char) : Option Nat :=
  if '0' ≤ c ∧ c ≤ '9' then some (c.toNat - 0x30) else none

/-- The count of the digits read so far, `n`, and the ones to come. -/
def readDigits (n : Nat) : Text → Except CountFault Nat
  | [] => .ok n
  | c :: rest =>
    match digit? c with
    | none => .error .invalidDigit
    | some d => if limit < n * 10 + d then .error .tooLarge else readDigits (n * 10 + d) rest

/-- The count that a text stands for. A sign alone has no digit. -/
def ofText : Text → Except CountFault Nat
  | [] => .error .empty
  | ['+'] => .error .invalidDigit
  | '+' :: rest => readDigits 0 rest
  | t => readDigits 0 t

end Count

end SiteFilter
