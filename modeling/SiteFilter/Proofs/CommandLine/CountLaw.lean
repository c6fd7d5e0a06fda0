import SiteFilter.Proofs.CommandLine.FirstProblem

/-!
# What a text for a count comes to

A count is read digit by digit and its limit is tested at each of them, so the reading may stop before
the end of the text. What it comes to depends on the digits at the front alone: if their number is
beyond the limit, that is what is wrong, whatever stands behind them, and if it is not, the first
character that is no digit is. A number within the limit is never changed.

What is proved:
  1. `ofText_eq_judgement` — every text for a count, by its sign, its first digits and their number.
  2. `read_of_countLine` — a line with one count, apart from its option or behind an equals sign, comes
     to what its text comes to.
-/

namespace SiteFilter

namespace Count

/-- The text without one plus sign in front. -/
def unsigned : Text → Text
  | '+' :: rest => rest
  | t => t

/-- The digits at the front, behind the sign. -/
def leadingDigits (t : Text) : Text := (unsigned t).takeWhile Char.isDigit

/-- The number that the digits at the front write. -/
def leadingNumber (t : Text) : Nat := Nat.ofDigitChars 10 (leadingDigits t) 0

/-- What a text for a count comes to: nothing at all is said first of it, then that the number of its
first digits is beyond the limit, then that there is no digit or something else than digits. -/
def judgement (t : Text) : Except CountFault Nat :=
  if t = [] then .error .empty
  else if limit < leadingNumber t then .error .tooLarge
  else if unsigned t = [] ∨ leadingDigits t ≠ unsigned t then .error .invalidDigit
  else .ok (leadingNumber t)

/-! ## The text as a whole -/

theorem unsigned_of_head? {t : Text} (h : t.head? ≠ some '+') : unsigned t = t := by
  cases t with
  | nil => rfl
  | cons c rest =>
    have hc : c ≠ '+' := by simpa using h
    unfold unsigned
    split
    · next heq =>
      cases heq
      exact absurd rfl hc
    · rfl

/-- A text that is not empty and no sign alone is read from its first digit. -/
theorem ofText_eq_readDigits {t : Text} (h : unsigned t ≠ []) :
    ofText t = readDigits 0 (unsigned t) := by
  unfold ofText
  split
  · exact absurd rfl h
  · exact absurd rfl h
  · rfl
  · next hsign =>
    rw [unsigned_of_head?]
    intro hhead
    obtain ⟨rest, rfl⟩ := List.head?_eq_some_iff.mp hhead
    exact hsign rest rfl

theorem ofText_eq_judgement (t : Text) : ofText t = judgement t := by
  by_cases hempty : t = []
  · subst hempty
    rfl
  by_cases hsign : unsigned t = []
  · -- a sign alone: there are no digits, and their number is none
    obtain rfl : t = ['+'] := by
      by_cases hhead : t.head? = some '+'
      · obtain ⟨rest, rfl⟩ := List.head?_eq_some_iff.mp hhead
        obtain rfl : rest = [] := hsign
        rfl
      · rw [unsigned_of_head? hhead] at hsign
        exact absurd hsign hempty
    rfl
  · rw [ofText_eq_readDigits hsign, readDigits_eq (Nat.zero_le _), judgement, if_neg hempty]
    simp only [hsign, false_or]
    rfl

end Count

namespace CommandLine

/-! ## How a count is given -/

/-- The arguments give the count that is written as the text: behind the option if the text is no
option itself, or attached to it with an equals sign. -/
inductive WritesCount (text : Text) : List Bytes → Prop where
  | letterApart : text.head? ≠ some '-' ∨ text = ['-'] →
      WritesCount text [spelled "-n", Utf8.encode text]
  | nameApart : text.head? ≠ some '-' ∨ text = ['-'] →
      WritesCount text [spelled "--count", Utf8.encode text]
  | letterEquals : WritesCount text [spelled "-n=" ++ Utf8.encode text]
  | nameEquals : WritesCount text [spelled "--count=" ++ Utf8.encode text]

/-- A line that gives one count, written as the text, and with it a level or none, before the count or
behind it. Two dashes may end the line. -/
def GivesCountOnce (text : Text) (level : Option Level) (line : List Bytes) : Prop :=
  ∃ before us after first second, WritesCount text us ∧ Composed none first before ∧
    Composed none second after ∧ (first = none ∨ second = none) ∧ level = first.or second ∧
    (line = before ++ (us ++ after) ∨ line = before ++ (us ++ (after ++ [spelled "--"])))

variable {text : Text} {us : List Bytes}

theorem WritesCount.gives (h : WritesCount text us) : Gives .count (Utf8.encode text) us := by
  have hoperand : text.head? ≠ some '-' ∨ text = ['-'] →
      Word.ofArgument (Utf8.encode text) = .operand := by
    intro htext
    apply ofArgument_operand
    rcases htext with hhead | rfl
    · exact .inr (head?_encode hhead)
    · exact .inl rfl
  cases h with
  | letterApart htext =>
    exact .apart (Word.ofArgument_eq_count_none_iff.mpr (.inl rfl)) (hoperand htext)
  | nameApart htext =>
    exact .apart (Word.ofArgument_eq_count_none_iff.mpr (.inr rfl)) (hoperand htext)
  | letterEquals => exact .attached (Word.ofArgument_eq_count_some_iff.mpr (.inr (.inl rfl)))
  | nameEquals => exact .attached (Word.ofArgument_eq_count_some_iff.mpr (.inr (.inr rfl)))

theorem readCount_encode (text : Text) :
    readCount (Utf8.encode text) =
      match Count.ofText text with
      | .ok n => .ok n
      | .error fault => .error (.badCount text fault) := by
  cases hcount : Count.ofText text <;> simp only [readCount, Utf8.decode?_encode, hcount]

/-! ## What waits and is not good -/

variable {p : Progress} {fault : UsageFault} {after : List Bytes}

/-- What waits is looked at when a parameter follows, or at the end of the line. -/
theorem readFrom_of_settle_error (hsettle : p.settle = .error fault) {level : Option Level}
    (hafter : Composed none level after) {tail : List Bytes}
    (htail : tail = [] ∨ tail = [spelled "--"]) :
    readFrom p (after ++ tail) = .error (.fault fault) := by
  have hfinish : p.finish = .error (.fault fault) := by rw [Progress.finish, hsettle]
  have hparameter : ∀ {a rest attached}, Word.ofArgument a = .parameter .level attached →
      readFrom p (a :: rest) = .error (.fault fault) := by
    intro a rest attached ha
    rw [readFrom.eq_def]
    simp only [ha, hsettle]
  cases hafter with
  | nil =>
    rcases htail with rfl | rfl
    · exact hfinish
    · exact hfinish
  | level hunit _ =>
    obtain ⟨value, hgives, _⟩ := levelUnit_iff.mp hunit
    cases hgives with
    | apart hflag _ => exact hparameter hflag
    | attached ha => exact hparameter ha

theorem readFrom_gives_error (hwaiting : p.waiting = none) {value : Bytes}
    (hus : Gives .count value us) (htake : p.take .count (some value) = .error fault)
    {level : Option Level} (hafter : Composed none level after) {tail : List Bytes}
    (htail : tail = [] ∨ tail = [spelled "--"]) :
    readFrom p (us ++ (after ++ tail)) = .error (.fault fault) := by
  cases hus with
  | attached ha =>
    rw [List.singleton_append, readFrom.eq_def]
    simp only [ha, Progress.settle_of_waiting hwaiting, htake]
  | apart hflag hvalue =>
    show readFrom p (_ :: _ :: (after ++ tail)) = _
    rw [readFrom_apart hwaiting hflag hvalue]
    exact readFrom_of_settle_error ((Progress.settle_waitFor hwaiting).trans htake) hafter htail

/-! ## The line -/

/-- A line with one count comes to what the text for the count comes to. -/
theorem read_of_countLine {level : Option Level} {line : List Bytes}
    (h : GivesCountOnce text level line) :
    read line =
      match Count.ofText text with
      | .ok n => .ok ⟨n, level.getD .info⟩
      | .error fault => .error (.fault (.badCount text fault)) := by
  obtain ⟨before, us, after, first, second, hus, hbefore, hafter, hone, rfl, hline⟩ := h
  have htail : ∃ tail, (tail = [] ∨ tail = [spelled "--"]) ∧
      line = before ++ (us ++ (after ++ tail)) := by
    rcases hline with rfl | rfl
    · exact ⟨[], .inl rfl, by rw [List.append_nil]⟩
    · exact ⟨_, .inr rfl, rfl⟩
  obtain ⟨tail, htail, rfl⟩ := htail
  have hread : read (before ++ (us ++ (after ++ tail))) =
      readFrom ⟨none, first, none⟩ (us ++ (after ++ tail)) := by
    rw [read, readFrom_composed hbefore rfl (by simp) (fun _ => rfl)]
    simp only [Progress.start, Option.or_none]
  rw [hread]
  have hvalue := readCount_encode text
  cases hcount : Count.ofText text with
  | error fault =>
    rw [hcount] at hvalue
    have htake : (⟨none, first, none⟩ : Progress).take .count (some (Utf8.encode text)) =
        .error (.badCount text fault) := by
      rw [Progress.take]
      simp [hvalue]
    exact readFrom_gives_error rfl hus.gives htake hafter htail
  | ok n =>
    rw [hcount] at hvalue
    have htake : (⟨none, first, none⟩ : Progress).take .count (some (Utf8.encode text)) =
        .ok ⟨some n, first, none⟩ := take_count_iff.mpr ⟨rfl, n, hvalue, rfl⟩
    have hfree : second.isSome → first = none := by
      intro hsome
      rcases hone with hfirst | rfl
      · exact hfirst
      · cases hsome
    rw [readFrom_gives rfl hus.gives htake, readFrom_composed hafter rfl (by simp) hfree]
    have hfinish : (⟨some n, second.or first, none⟩ : Progress).finish =
        .ok ⟨n, (first.or second).getD .info⟩ := by
      rw [finish_of_waiting rfl]
      rcases hone with rfl | rfl <;> simp
    rcases htail with rfl | rfl
    · exact hfinish
    · exact hfinish

end CommandLine

end SiteFilter
