import SiteFilter.Proofs.Run.Outcome
import SiteFilter.Proofs.Text.Lossy

/-!
# The line that reports a failure

A run that fails says so on standard error, in a text that a line feed ends. The text is composed of
fixed words, numbers in decimal and, where a file stops the run, the path of that file. The path is
shown as it is, so every line feed in the base directory begins a new line of the report.

What is proved:
  1. `count_display`, `count_join` — the line feeds of a path that is shown, and where they come from.
  2. `count_unreadable`, `count_unwritable`, `count_tooFew` — the line feeds of a message.
  3. `reported_of_endsAt` — what is reported at each stage of a run.
  4. `isReportLine_iff_of_failed` — a failed run has reported one line, unless a file stopped it and
     its base directory has a line feed in its path.
  5. `not_isReportLine_brokenBase` — such a base directory.
-/

namespace SiteFilter

def lineFeed : UInt8 := 0x0A

/-- A text is one line and reports a fault of some class. -/
def IsReportLine (t : Text) : Prop :=
  ∃ (category : FaultClass) (message : Text), '\n' ∉ message ∧
    t = category.label ++ " error: ".toList ++ message ++ ['\n']

/-- A run whose base directory is `base` cannot read its site list, or has come to write the filter
file and cannot. -/
def StopsAtFile (around : Surroundings) (options : CommandLine.Options) (t : FileTree)
    (base : Path) : Prop :=
  around.handlerTaken = false ∧ NamesBase around.environment base ∧
    ((∀ list, ¬ t.HoldsText (SitePaths.ofBase base).siteList list) ∨
      ∃ list, t.HoldsText (SitePaths.ofBase base).siteList list ∧
        options.count ≤ (records list).length ∧ around.interrupted = false ∧
        t.Blocked (SitePaths.ofBase base).filterFile)

/-! ## Line feeds -/

theorem count_display (p : Path) : p.display.count '\n' = p.count lineFeed :=
  Utf8.count_lossy (x := lineFeed) (by decide) p

theorem count_join {name : Name} (h : lineFeed ∉ name) (base : Path) :
    (base.join name).count lineFeed = base.count lineFeed := by
  have hname : name.count lineFeed = 0 := List.count_eq_zero.mpr h
  have hslash : (slash :: name).count lineFeed = 0 := by
    rw [List.count_cons_of_ne (by decide), hname]
  unfold Path.join
  split
  · rw [List.count_append, hname, Nat.add_zero]
  · rw [List.count_append, hslash, Nat.add_zero]

theorem count_decimal (n : Nat) : (decimal n).count '\n' = 0 := by
  rw [List.count_eq_zero]
  intro hmem
  have hdigit := Nat.isDigit_of_mem_toDigits (by decide) (by decide) hmem
  exact absurd hdigit (by decide)

theorem count_reason (cause : FileFault) : cause.message.count '\n' = 0 := by
  cases cause <;> rfl

/-! ## Messages -/

/-- What is said of a file in the base directory has the line feeds of the base directory. -/
theorem count_said {words : Text} (hwords : words.count '\n' = 0) {name : Name}
    (hname : lineFeed ∉ name) (base : Path) (cause : FileFault) :
    (words ++ (base.join name).display ++ ": ".toList ++ cause.message).count '\n' =
      base.count lineFeed := by
  have hcolon : ": ".toList.count '\n' = 0 := rfl
  rw [List.count_append, List.count_append, List.count_append, hwords, hcolon, count_reason,
    count_display, count_join hname]
  omega

theorem count_unreadable (base : Path) (cause : FileFault) :
    (Fault.unreadable (SitePaths.ofBase base).siteList cause.message).message.count '\n' =
      base.count lineFeed :=
  count_said rfl (by decide) base cause

theorem count_unwritable (base : Path) (cause : FileFault) :
    (Fault.unwritable (SitePaths.ofBase base).filterFile cause.message).message.count '\n' =
      base.count lineFeed :=
  count_said rfl (by decide) base cause

theorem count_shortage (shortage : Shortage) : shortage.message.count '\n' = 0 := by
  unfold Shortage.message
  rw [List.count_append, List.count_append, List.count_append, List.count_append, count_decimal,
    count_decimal]
  rfl

theorem count_tooFew (shortage : Shortage) : (Fault.tooFew shortage).message.count '\n' = 0 := by
  unfold Fault.message
  rw [List.count_append, count_shortage]
  rfl

/-! ## Reports -/

theorem count_label (category : FaultClass) : category.label.count '\n' = 0 := by
  cases category <;> rfl

theorem count_line (category : FaultClass) (message : Text) :
    (category.label ++ " error: ".toList ++ message ++ ['\n']).count '\n' =
      message.count '\n' + 1 := by
  have hwords : " error: ".toList.count '\n' = 0 := rfl
  rw [List.count_append, List.count_append, List.count_append, count_label, hwords,
    List.count_singleton_self]
  omega

theorem count_of_isReportLine {t : Text} (h : IsReportLine t) : t.count '\n' = 1 := by
  obtain ⟨category, message, hmessage, rfl⟩ := h
  rw [count_line, List.count_eq_zero.mpr hmessage]

theorem count_reportLine (fault : Fault) :
    (Output.reportLine fault).count '\n' = fault.message.count '\n' + 1 :=
  count_line fault.category fault.message

/-- A report is one line exactly if its message has no line feed. -/
theorem isReportLine_iff (fault : Fault) :
    IsReportLine (Output.reportLine fault) ↔ fault.message.count '\n' = 0 := by
  constructor
  · intro hline
    have hone := count_of_isReportLine hline
    rw [count_reportLine] at hone
    omega
  · intro hcount
    exact ⟨fault.category, fault.message, List.count_eq_zero.mp hcount, rfl⟩

/-- A run has reported `fault` and nothing else, in as many lines as the fault's path needs. -/
inductive Reported (around : Surroundings) (options : CommandLine.Options) (t : FileTree)
    (out : Output) (fault : Fault) : Prop where
  | atFile (base : Path) :
      out.stderr = Output.reportLine fault → StopsAtFile around options t base →
      fault.message.count '\n' = base.count lineFeed → Reported around options t out fault
  | elsewhere :
      out.stderr = Output.reportLine fault → (∀ base, ¬ StopsAtFile around options t base) →
      fault.message.count '\n' = 0 → Reported around options t out fault

section
variable {around : Surroundings} {arguments : List Bytes} {t : FileTree}
  {options : CommandLine.Options} {p' : Process} {stage : Stage} {out : Output}

theorem namesBase_inj {env : Environment} {a b : Path} (ha : NamesBase env a)
    (hb : NamesBase env b) : a = b := by
  have ha' := resolve_iff_namesBase.mpr ⟨a, ha, rfl⟩
  have hb' := resolve_iff_namesBase.mpr ⟨b, hb, rfl⟩
  rw [ha'] at hb'
  injection hb' with hpaths
  exact congrArg SitePaths.base hpaths

theorem holdsText_inj {p : Path} {a b : Text} (ha : t.HoldsText p a) (hb : t.HoldsText p b) :
    a = b := by
  have ha' := FileTree.readSiteList_iff.mpr ha
  rw [FileTree.readSiteList_iff.mpr hb] at ha'
  injection ha' with htext
  exact htext.symm

/-- At the levels of the two most severe kinds of record, a plan that failed has left its report
alone. -/
theorem stderr_output_of_quiet (quiet : options.level = .error ∨ options.level = .warn)
    (paths : SitePaths) (fault : Fault) :
    ((around.plan options paths).output (.error fault)).stderr = Output.reportLine fault := by
  have hrecord : (around.plan options paths).openingRecord = [] := by
    rw [openingRecord_plan]
    unfold filesRecord
    rcases quiet with hlevel | hlevel <;> simp [hlevel]
  show (around.plan options paths).openingRecord ++ Output.reportLine fault = _
  rw [hrecord, List.nil_append]

/-- A run that has read its site list and does not come to write is not stopped at a file. -/
theorem not_stopsAtFile {base : Path} {list : Text} (hbase : NamesBase around.environment base)
    (hlist : t.HoldsText (SitePaths.ofBase base).siteList list)
    (h : ¬ (options.count ≤ (records list).length ∧ around.interrupted = false)) (base' : Path) :
    ¬ StopsAtFile around options t base' := by
  rintro ⟨_, hbase', hfiles⟩
  obtain rfl := namesBase_inj hbase hbase'
  rcases hfiles with hnone | ⟨list', hlist', hcount, hquiet, _⟩
  · exact hnone list hlist
  · obtain rfl := holdsText_inj hlist hlist'
    exact h ⟨hcount, hquiet⟩

theorem stopsAtFile_of_unreadable {base : Path} {fault : Fault}
    (free : around.handlerTaken = false) (hbase : NamesBase around.environment base)
    (hread : t.readSiteList (SitePaths.ofBase base).siteList = .error fault) :
    StopsAtFile around options t base := by
  refine ⟨free, hbase, .inl ?_⟩
  intro list hlist
  rw [FileTree.readSiteList_iff.mpr hlist] at hread
  cases hread

theorem stopsAtFile_of_unwritable {base : Path} {list : Text} {s : Selection} {fault : Fault}
    (free : around.handlerTaken = false) (hbase : NamesBase around.environment base)
    (hlist : t.HoldsText (SitePaths.ofBase base).siteList list)
    (hselect : select list options.count = .ok s) (absent : around.interrupted = false)
    (hwrite : t.writeFilters (SitePaths.ofBase base).filterFile s.contents = .error fault) :
    StopsAtFile around options t base := by
  refine ⟨free, hbase, .inr ⟨list, hlist, (select_eq_ok_iff.mp hselect).1, absent, ?_⟩⟩
  apply Classical.byContradiction
  intro hfree
  obtain ⟨after, hafter⟩ := (writes_iff_not_blocked hlist s.contents).mpr hfree
  rw [hafter] at hwrite
  cases hwrite

/-- A plan is made for the accepted options and for a base directory. -/
theorem exists_base_of_planned {options' : CommandLine.Options} {paths : SitePaths}
    (planned : Planned around arguments (.fresh t) options' paths)
    (accepted : CommandLine.read arguments = .ok options) :
    options = options' ∧ ∃ base, NamesBase around.environment base ∧ paths = .ofBase base := by
  refine ⟨Except.ok.inj (accepted.symm.trans planned.accepted), ?_⟩
  obtain ⟨base, hbase, hpaths⟩ := resolve_iff_namesBase.mp planned.resolved
  exact ⟨base, hbase, hpaths⟩

theorem reported_of_endsAt (h : EndsAt around arguments (.fresh t) stage p' out)
    (accepted : CommandLine.read arguments = .ok options)
    (quiet : options.level = .error ∨ options.level = .warn) (failed : out.exitCode ≠ 0) :
    ∃ fault, Reported around options t out fault := by
  cases h with
  | handler taken =>
    refine ⟨_, .elsewhere rfl ?_ rfl⟩
    rintro base ⟨free, _⟩
    rw [taken] at free
    cases free
  | commandLine _ stopped =>
    rw [accepted] at stopped
    cases stopped
  | logger _ _ logged => cases logged
  | @paths _ cause _ _ _ unset =>
    refine ⟨_, .elsewhere rfl ?_ (by cases cause; rfl)⟩
    rintro base ⟨_, hbase, _⟩
    rw [resolve_iff_namesBase.mpr ⟨base, hbase, rfl⟩] at unset
    cases unset
  | reading planned hread =>
    obtain ⟨rfl, base, hbase, rfl⟩ := exists_base_of_planned planned accepted
    obtain ⟨cause, rfl⟩ := FileTree.exists_cause_of_readSiteList hread
    exact ⟨_, .atFile base (stderr_output_of_quiet quiet _ _)
      (stopsAtFile_of_unreadable planned.free hbase hread) (count_unreadable base cause)⟩
  | counting planned hread hselect =>
    obtain ⟨rfl, base, hbase, rfl⟩ := exists_base_of_planned planned accepted
    obtain ⟨hfew, rfl⟩ := select_eq_error_iff.mp hselect
    refine ⟨_, .elsewhere (stderr_output_of_quiet quiet _ _)
      (not_stopsAtFile hbase (FileTree.readSiteList_iff.mp hread) ?_) (count_tooFew _)⟩
    rintro ⟨hcount, _⟩
    omega
  | interrupt planned hread _ arrived =>
    obtain ⟨rfl, base, hbase, rfl⟩ := exists_base_of_planned planned accepted
    refine ⟨_, .elsewhere (stderr_output_of_quiet quiet _ _)
      (not_stopsAtFile hbase (FileTree.readSiteList_iff.mp hread) ?_) rfl⟩
    rintro ⟨_, absent⟩
    rw [arrived] at absent
    cases absent
  | writing planned hread hselect absent hwrite =>
    obtain ⟨rfl, base, hbase, rfl⟩ := exists_base_of_planned planned accepted
    obtain ⟨cause, rfl⟩ := FileTree.exists_cause_of_writeFilters hwrite
    have hlist := FileTree.readSiteList_iff.mp hread
    exact ⟨_, .atFile base (stderr_output_of_quiet quiet _ _)
      (stopsAtFile_of_unwritable planned.free hbase hlist hselect absent hwrite)
      (count_unwritable base cause)⟩
  | done => exact absurd rfl failed

/-- A run that fails at one of the two most severe levels leaves the report of its fault on standard
error and nothing else. The report is one line, but for the line feeds in the base directory: each of
them breaks it where the fault is that of a file. -/
theorem isReportLine_iff_of_failed (t : FileTree)
    (accepted : CommandLine.read arguments = .ok options)
    (quiet : options.level = .error ∨ options.level = .warn)
    (failed : (run around arguments (.fresh t)).2.exitCode ≠ 0) :
    let out := (run around arguments (.fresh t)).2
    (∃ fault : Fault, out.stderr =
      fault.category.label ++ " error: ".toList ++ fault.message ++ ['\n']) ∧
    (∀ base, StopsAtFile around options t base →
      out.stderr.count '\n' = base.count lineFeed + 1) ∧
    (IsReportLine out.stderr ↔
      ∀ base, StopsAtFile around options t base → lineFeed ∉ base) := by
  intro out
  obtain ⟨stage, h⟩ := endsAt_run around arguments (.fresh t)
  obtain ⟨fault, reported⟩ := reported_of_endsAt h accepted quiet failed
  cases reported with
  | atFile base hstderr hstop hcount =>
    have hline : out.stderr.count '\n' = base.count lineFeed + 1 := by
      rw [hstderr, count_reportLine, hcount]
    refine ⟨⟨fault, hstderr⟩, ?_, ?_⟩
    · intro base' hstop'
      obtain rfl := namesBase_inj hstop.2.1 hstop'.2.1
      exact hline
    · rw [hstderr, isReportLine_iff, hcount, List.count_eq_zero]
      constructor
      · intro hplain base' hstop'
        obtain rfl := namesBase_inj hstop.2.1 hstop'.2.1
        exact hplain
      · intro hplain
        exact hplain base hstop
  | elsewhere hstderr hstop hcount =>
    refine ⟨⟨fault, hstderr⟩, ?_, ?_⟩
    · intro base hstop'
      exact absurd hstop' (hstop base)
    · rw [hstderr, isReportLine_iff]
      constructor
      · intro _ base hstop'
        exact absurd hstop' (hstop base)
      · intro _
        exact hcount

end

/-! ## Base directories with and without a line feed -/

/-- What a run finds whose base directory is named by `HOME` alone. -/
def homeSurroundings (base : Path) : Surroundings :=
  ⟨⟨[(SitePaths.homeVariable, base)]⟩, false, false, false⟩

/-- On a tree without files, a run below a base directory of ill-formed bytes reports one line. -/
theorem isReportLine_illFormedBase :
    let arguments := [Utf8.encode "--log-level=warn".toList]
    let out := (run (homeSurroundings [0xC3, 0x0D, 0xFF]) arguments (.fresh .empty)).2
    CommandLine.read arguments = .ok ⟨2, .warn⟩ ∧ out.exitCode = 1 ∧ IsReportLine out.stderr := by
  intro arguments out
  have accepted : CommandLine.read arguments = .ok ⟨2, .warn⟩ := rfl
  have failed : out.exitCode = 1 := rfl
  have hbase : NamesBase (homeSurroundings [0xC3, 0x0D, 0xFF]).environment [0xC3, 0x0D, 0xFF] :=
    .inr ⟨rfl, rfl⟩
  refine ⟨accepted, failed, ?_⟩
  apply (isReportLine_iff_of_failed .empty accepted (.inr rfl) (by rw [failed]; decide)).2.2.mpr
  intro base hstop
  obtain rfl := namesBase_inj hbase hstop.2.1
  decide

/-- A line feed in the base directory breaks the report in two. -/
theorem not_isReportLine_brokenBase :
    let arguments := [Utf8.encode "--log-level=error".toList]
    let out := (run (homeSurroundings (Utf8.encode "a\nb".toList)) arguments (.fresh .empty)).2
    CommandLine.read arguments = .ok ⟨2, .error⟩ ∧ out.exitCode = 1 ∧ ¬ IsReportLine out.stderr := by
  intro arguments out
  refine ⟨rfl, rfl, ?_⟩
  intro hline
  have htwo : out.stderr.count '\n' = 2 := rfl
  rw [count_of_isReportLine hline] at htwo
  exact absurd htwo (by decide)

end SiteFilter
