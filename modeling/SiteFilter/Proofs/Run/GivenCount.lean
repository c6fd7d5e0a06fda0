import Mathlib.Data.List.Basic
import SiteFilter.Proofs.CommandLine.CountLaw
import SiteFilter.Proofs.Run.Outcome

/-!
# A count from its text to the report

A text for a count is refused for what is wrong with it, or stands for a number, and then it is that
number which the run announces and checks against the records of the site list: it is not changed on
its way, however near the limit it is.

What is proved:
  1. `canonical_decimal` — a number is printed in the one way without zeros in front.
  2. `category_of_report` — a report tells the class of its fault.
  3. `passesValidation_iff` — a run that reads its list passes validation if it has enough records.
  4. `given_count_refused_or_exact` — the whole way, for every text.
-/

namespace SiteFilter

/-! ## Printed numbers -/

/-- The digits write the number, and a zero stands in front only alone. -/
structure Canonical (digits : Text) (n : Nat) : Prop where
  nonempty : digits ≠ []
  isDigit : ∀ c ∈ digits, c.isDigit = true
  value : Nat.ofDigitChars 10 digits 0 = n
  head : digits.head? = some '0' → digits = ['0']

theorem decimal_ne_nil (n : Nat) : decimal n ≠ [] := Nat.toDigits_ne_nil

/-- By strong induction: a digit that is put behind does not change the head. -/
theorem head?_decimal {n : Nat} (h : 0 < n) : (decimal n).head? ≠ some '0' := by
  induction n using Nat.strongRecOn with
  | _ n ih =>
    rcases Nat.lt_or_ge n 10 with hsmall | hlarge
    · have hone : decimal n = [Nat.digitChar n] := Nat.toDigits_of_lt_base hsmall
      rw [hone, List.head?_cons]
      intro hzero
      have hvalue := Nat.toNat_digitChar_of_lt_ten hsmall
      rw [Option.some.inj hzero] at hvalue
      have hcode : '0'.toNat = 48 := rfl
      omega
    · have hfront : decimal n = decimal (n / 10) ++ [Nat.digitChar (n % 10)] :=
        Nat.toDigits_of_base_le (by decide) hlarge
      rw [hfront, List.head?_append_of_ne_nil _ (decimal_ne_nil _)]
      exact ih (n / 10) (by omega) (by omega)

theorem canonical_decimal (n : Nat) : Canonical (decimal n) n where
  nonempty := decimal_ne_nil n
  isDigit _ hc := Nat.isDigit_of_mem_toDigits (by decide) (by decide) hc
  value := Nat.ofDigitChars_ten_toDigits
  head hzero := by
    rcases Nat.eq_zero_or_pos n with rfl | hpos
    · rfl
    · exact absurd hzero (head?_decimal hpos)

/-! ## Reports and their classes -/

theorem label_head_inj {a b : FaultClass} (h : a.label.head? = b.label.head?) : a = b := by
  cases a <;> cases b <;> first | rfl | exact absurd h (by decide)

theorem head?_report (fault : Fault) : fault.report.head? = fault.category.label.head? := by
  unfold Fault.report
  cases fault.category <;> rfl

theorem category_of_report {f g : Fault} (h : f.report = g.report) : f.category = g.category := by
  apply label_head_inj
  rw [← head?_report, ← head?_report, h]

/-- A run has not been refused for the number it was given: it reports nothing of that class. -/
def Output.PassesValidation (out : Output) (printed records : Text) : Prop :=
  ∀ fault : Fault, fault.category = .validation → ¬ out.Reports printed records fault

section
variable {out : Output} {printed logged : Text} {f g : Fault}

theorem Output.Reports.category_eq (hf : out.Reports printed logged f)
    (hg : out.Reports printed logged g) : f.category = g.category := by
  have hlines := hf.stderr_eq.symm.trans hg.stderr_eq
  rw [List.append_assoc, List.append_assoc] at hlines
  exact category_of_report (List.append_cancel_right (List.append_cancel_left hlines))

theorem passesValidation_of_reports (h : out.Reports printed logged f)
    (hclass : f.category ≠ .validation) : out.PassesValidation printed logged :=
  fun _ hvalidation hreports => hclass ((h.category_eq hreports).trans hvalidation)

theorem passesValidation_of_exitCode (h : out.exitCode ≠ 1) : out.PassesValidation printed logged :=
  fun _ _ hreports => h hreports.exitCode

end

/-! ## A run that has its count -/

section
variable {around : Surroundings} {arguments : List Bytes} {t : FileTree}
  {options : CommandLine.Options} {paths : SitePaths}
  (planned : Planned around arguments (.fresh t) options paths)
include planned

theorem stdout_of_planned : (run around arguments (.fresh t)).2.stdout = countLine options := by
  rw [run_of_planned planned]
  rfl

/-- With enough records, a run that is stopped is stopped later, by an interrupt or by the file. -/
theorem passesValidation_iff {list : Text} (hlist : t.HoldsText paths.siteList list) :
    (run around arguments (.fresh t)).2.PassesValidation (countLine options)
        (filesRecord around options paths) ↔
      options.count ≤ (records list).length := by
  constructor
  · intro hpasses
    by_contra hfew
    exact hpasses _ rfl (reports_tooFew planned hlist (by omega))
  · intro hcount
    have hread := FileTree.readSiteList_iff.mpr hlist
    have hselect := select_eq_ok_iff.mpr ⟨hcount, rfl⟩
    cases hint : around.interrupted with
    | true =>
      rw [(EndsAt.interrupt planned hread hselect hint).eq_run]
      exact passesValidation_of_exitCode (show 130 ≠ 1 by decide)
    | false =>
      cases hwrite : t.writeFilters paths.filterFile _ with
      | error fault =>
        obtain ⟨reason, rfl⟩ := FileTree.writeFilters_error hwrite
        rw [(EndsAt.writing planned hread hselect hint hwrite).eq_run]
        exact passesValidation_of_reports (reports_output (by simp) ..) (by simp [Fault.category])
      | ok after =>
        rw [(EndsAt.done planned hread hselect hint hwrite).eq_run]
        exact passesValidation_of_exitCode (show 0 ≠ 1 by decide)

end

/-! ## Every text for a count -/

open CommandLine

/-- What is printed about a text that is no count. -/
def refusedOutput (text reason : Text) : Output :=
  ⟨2, [], "error: invalid value '".toList ++ visible text ++ "' for '--count <COUNT>': ".toList ++
    reason ++ ['\n']⟩

theorem ofStop_badCount (text : Text) (fault : CountFault) :
    Output.ofStop (.fault (.badCount text fault)) = refusedOutput text fault.message := by
  have hfront : "error: invalid value '".toList =
      "error: ".toList ++ "invalid value '".toList := rfl
  rw [refusedOutput, Output.ofStop, message_badCount, hfront]
  simp only [List.append_assoc]

/-- The line is refused for what is wrong with its count. -/
def Refuses (line : List Bytes) (text : Text) (fault : CountFault) (reason : String) : Prop :=
  StopsWith line (.fault (.badCount text fault)) (refusedOutput text reason.toList)

/-- A run with this count announces it, and passes validation if the site list has as many records. -/
structure CountsTo (around : Surroundings) (line : List Bytes) (options : Options)
    (base : Path) (t : FileTree) : Prop where
  announced : ∃ digits, Canonical digits options.count ∧
    (run around line (.fresh t)).2.stdout =
      "Generating ".toList ++ digits ++ " filters\n".toList
  validated : ∀ list, t.HoldsText (SitePaths.ofBase base).siteList list →
    ((run around line (.fresh t)).2.PassesValidation (countLine options)
        (filesRecord around options (.ofBase base)) ↔
      options.count ≤ (records list).length)

section
variable {text : Text} {level : Option Level} {line : List Bytes}

theorem refuses_of_judgement {fault : CountFault}
    (h : GivesCountOnce text level line)
    (hfault : Count.judgement text = .error fault) {reason : String}
    (hreason : fault.message = reason.toList) : Refuses line text fault reason := by
  have hread := read_of_countLine h
  rw [Count.ofText_eq_judgement, hfault] at hread
  have hstops := stopsWith_of_read hread
  rw [ofStop_badCount, hreason] at hstops
  exact hstops

/-- A line with one count. The text is refused if it is empty, if the number of its first digits is
beyond what sixty-four bits hold, or if there is something else than digits behind one plus sign.
Otherwise the count is the number of the digits, which is what the run announces and checks. -/
theorem given_count_refused_or_exact (h : GivesCountOnce text level line) :
    (text = [] → Refuses line text .empty "cannot parse integer from empty string") ∧
    (text ≠ [] → UInt64.size - 1 < Count.leadingNumber text →
      Refuses line text .tooLarge "number too large to fit in target type") ∧
    (text ≠ [] → Count.leadingNumber text ≤ UInt64.size - 1 →
      (Count.unsigned text = [] ∨ Count.leadingDigits text ≠ Count.unsigned text) →
      Refuses line text .invalidDigit "invalid digit found in string") ∧
    (Count.leadingNumber text ≤ UInt64.size - 1 → Count.unsigned text ≠ [] →
      Count.leadingDigits text = Count.unsigned text →
      CommandLine.read line = .ok ⟨Count.leadingNumber text, level.getD .info⟩ ∧
      ∀ (around : Surroundings) (base : Path) (t : FileTree), around.handlerTaken = false →
        NamesBase around.environment base →
        CountsTo around line ⟨Count.leadingNumber text, level.getD .info⟩ base t) := by
  have hlimit : Count.limit = UInt64.size - 1 := rfl
  rw [← hlimit]
  refine ⟨?_, ?_, ?_, ?_⟩
  · intro hempty
    exact refuses_of_judgement h (by rw [Count.judgement, if_pos hempty]) rfl
  · intro hne hlarge
    exact refuses_of_judgement h (by rw [Count.judgement, if_neg hne, if_pos hlarge]) rfl
  · intro hne hsmall hbad
    have hfault : Count.judgement text = .error .invalidDigit := by
      rw [Count.judgement, if_neg hne, if_neg (Nat.not_lt.mpr hsmall), if_pos hbad]
    exact refuses_of_judgement h hfault rfl
  · intro hsmall hne hdigits
    have htext : text ≠ [] := by
      rintro rfl
      exact hne rfl
    have hgood : ¬ (Count.unsigned text = [] ∨ Count.leadingDigits text ≠ Count.unsigned text) :=
      not_or.mpr ⟨hne, not_not.mpr hdigits⟩
    have hread := read_of_countLine h
    rw [Count.ofText_eq_judgement, Count.judgement, if_neg htext, if_neg (Nat.not_lt.mpr hsmall),
      if_neg hgood] at hread
    refine ⟨hread, ?_⟩
    intro around base t free hbase
    have planned : Planned around line (.fresh t) _ (.ofBase base) :=
      ⟨free, hread, rfl, resolve_iff_namesBase.mpr ⟨base, hbase, rfl⟩⟩
    refine ⟨⟨_, canonical_decimal _, stdout_of_planned planned⟩, ?_⟩
    intro list hlist
    exact passesValidation_iff planned hlist

end

/-- The largest count, with zeros in front, against a site list of one record; one more than that, and
a bad character behind it; and a bad character in the place of its last digit. -/
theorem given_count_refused_or_exact_nearLimit :
    (CommandLine.read
          [spelled "--log-level=warn", spelled "-n", spelled "+0018446744073709551615"] =
        .ok ⟨UInt64.size - 1, .warn⟩ ∧
      CountsTo (slashedSurroundings 1)
        [spelled "--log-level=warn", spelled "-n", spelled "+0018446744073709551615"]
        ⟨UInt64.size - 1, .warn⟩ (slashedBase 1) oneRecordTree ∧
      oneRecordTree.HoldsText (SitePaths.ofBase (slashedBase 1)).siteList "a.example\n".toList) ∧
    Refuses [spelled "--count=18446744073709551616x"] "18446744073709551616x".toList .tooLarge
      "number too large to fit in target type" ∧
    Refuses [spelled "-n=1844674407370955161x"] "1844674407370955161x".toList .invalidDigit
      "invalid digit found in string" := by
  have hlevel : Composed none (some .warn) [spelled "--log-level=warn"] :=
    .level .nameEquals .nil
  have hlargest : GivesCountOnce "+0018446744073709551615".toList (some .warn)
      [spelled "--log-level=warn", spelled "-n", spelled "+0018446744073709551615"] :=
    ⟨_, _, [], _, none, .letterApart (.inl (by decide)), hlevel, .nil, .inr rfl, rfl, .inl rfl⟩
  have hmore : GivesCountOnce "18446744073709551616x".toList none
      [spelled "--count=18446744073709551616x"] :=
    ⟨[], _, [], none, none, .nameEquals, .nil, .nil, .inl rfl, rfl, .inl rfl⟩
  have hbad : GivesCountOnce "1844674407370955161x".toList none
      [spelled "-n=1844674407370955161x"] :=
    ⟨[], _, [], none, none, .letterEquals, .nil, .nil, .inl rfl, rfl, .inl rfl⟩
  have hnumber : Count.leadingNumber "+0018446744073709551615".toList = UInt64.size - 1 := by decide
  obtain ⟨_, _, _, hexact⟩ := given_count_refused_or_exact hlargest
  obtain ⟨_, hlarge, _⟩ := given_count_refused_or_exact hmore
  obtain ⟨_, _, hdigit, _⟩ := given_count_refused_or_exact hbad
  obtain ⟨hread, hruns⟩ := hexact (Nat.le_of_eq hnumber) (by decide) (by decide)
  have hcounts := hruns (slashedSurroundings 1) _ oneRecordTree rfl (namesBase_slashedBase 1)
  rw [hnumber] at hread hcounts
  exact ⟨⟨hread, hcounts, holdsText_slashedBase (n := 0) (by decide)⟩,
    hlarge (by decide) (by decide), hdigit (by decide) (by decide) (.inr (by decide))⟩

end SiteFilter
