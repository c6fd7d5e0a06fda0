import SiteFilter.Run

/-!
# Reports

A fault that stops a run is reported in one text behind whatever the run has logged. `Worded` holds
the text for each fault as it is printed.

What is proved:
  1. `worded_report`, `Worded.eq_report` — a fault is reported in its words, letter for letter, and in
     no others.
  2. `reports_stopped` — a run that a fault stops before it announced anything reports that fault.
-/

namespace SiteFilter

/-- The words in which a fault is reported. -/
inductive Worded : Fault → Text → Prop where
  | loggerRefused (reason : Text) : Worded (.loggerRefused reason)
      ("runtime error: failed to initialize logger: ".toList ++ reason)
  | handlerRefused (reason : Text) : Worded (.handlerRefused reason)
      ("runtime error: failed to install SIGINT handler: ".toList ++ reason)
  | interrupted : Worded .interrupted "runtime error: operation interrupted by SIGINT".toList
  | baseUnset : Worded (.pathsUnknown .baseUnset)
      ("configuration error: path resolution failed: ".toList ++
        "base directory not set: export MALSITES_ROOT or HOME".toList)
  | unreadable (path : Path) (reason : Text) : Worded (.unreadable path reason)
      ("io error: failed to read site list ".toList ++ path.display ++ ": ".toList ++ reason)
  | unwritable (path : Path) (reason : Text) : Worded (.unwritable path reason)
      ("io error: failed to write filter file ".toList ++ path.display ++ ": ".toList ++ reason)
  | tooFew (requested available : Nat) : Worded (.tooFew ⟨requested, available⟩)
      ("validation error: invalid filter count: n (".toList ++ decimal requested ++
        ") > number of available filters (".toList ++ decimal available ++ ")".toList)

/-- A report begins with the name of its class and the first words of its message. -/
theorem report_eq {fault : Fault} (words front : String) {rest : Text}
    (hmessage : fault.message = words.toList ++ rest)
    (hfront : front.toList = fault.category.label ++ " error: ".toList ++ words.toList) :
    fault.report = front.toList ++ rest := by
  rw [Fault.report, hmessage, ← List.append_assoc, hfront]

/-- The report of what stops a run at a file shows the path of the file. -/
theorem report_file {fault : Fault} (words front : String) {path : Path} {reason : Text}
    (hmessage : fault.message = words.toList ++ path.display ++ ": ".toList ++ reason)
    (hfront : front.toList = fault.category.label ++ " error: ".toList ++ words.toList) :
    fault.report = front.toList ++ path.display ++ ": ".toList ++ reason := by
  rw [List.append_assoc, List.append_assoc]
  apply report_eq words front _ hfront
  rw [hmessage, List.append_assoc, List.append_assoc]

theorem report_tooFew (requested available : Nat) :
    (Fault.tooFew ⟨requested, available⟩).report =
      "validation error: invalid filter count: n (".toList ++ decimal requested ++
        ") > number of available filters (".toList ++ decimal available ++ ")".toList := by
  have hwords : "invalid filter count: n (".toList =
      "invalid filter count: ".toList ++ "n (".toList := rfl
  rw [List.append_assoc, List.append_assoc, List.append_assoc]
  apply report_eq "invalid filter count: n (" _ _ rfl
  show "invalid filter count: ".toList ++ ("n (".toList ++ decimal requested ++
    ") > number of available filters (".toList ++ decimal available ++ ")".toList) = _
  rw [hwords]
  simp only [List.append_assoc]

theorem Worded.eq_report {fault : Fault} {line : Text} (h : Worded fault line) :
    line = fault.report := by
  cases h with
  | loggerRefused reason => exact (report_eq "failed to initialize logger: " _ rfl rfl).symm
  | handlerRefused reason => exact (report_eq "failed to install SIGINT handler: " _ rfl rfl).symm
  | interrupted => rfl
  | baseUnset => exact (report_eq "path resolution failed: " _ rfl rfl).symm
  | unreadable path reason => exact (report_file "failed to read site list " _ rfl rfl).symm
  | unwritable path reason => exact (report_file "failed to write filter file " _ rfl rfl).symm
  | tooFew requested available => exact (report_tooFew requested available).symm

theorem Worded.reportLine_eq {fault : Fault} {line : Text} (h : Worded fault line) :
    Output.reportLine fault = line ++ ['\n'] := by
  rw [Output.reportLine, h.eq_report]

theorem exists_worded (fault : Fault) : ∃ line, Worded fault line := by
  cases fault with
  | loggerRefused reason => exact ⟨_, .loggerRefused reason⟩
  | handlerRefused reason => exact ⟨_, .handlerRefused reason⟩
  | interrupted => exact ⟨_, .interrupted⟩
  | pathsUnknown cause =>
    cases cause
    exact ⟨_, .baseUnset⟩
  | unreadable path reason => exact ⟨_, .unreadable path reason⟩
  | unwritable path reason => exact ⟨_, .unwritable path reason⟩
  | tooFew shortage => exact ⟨_, .tooFew shortage.requested shortage.available⟩

theorem worded_report (fault : Fault) : Worded fault fault.report := by
  obtain ⟨line, hworded⟩ := exists_worded fault
  rw [← hworded.eq_report]
  exact hworded

/-! ## What a run has reported -/

/-- A fault has stopped a run: what it printed, and the report of the fault behind its records. -/
structure Output.Reports (out : Output) (printed records : Text) (fault : Fault) : Prop where
  exitCode : out.exitCode = 1
  stdout : out.stdout = printed
  stderr : ∃ line, Worded fault line ∧ out.stderr = records ++ line ++ ['\n']

theorem Output.Reports.stderr_eq {out : Output} {printed records : Text} {fault : Fault}
    (h : out.Reports printed records fault) : out.stderr = records ++ fault.report ++ ['\n'] := by
  obtain ⟨line, hworded, hstderr⟩ := h.stderr
  rw [hstderr, hworded.eq_report]

theorem exitCode_eq_one {fault : Fault} (h : fault ≠ .interrupted) : fault.exitCode = 1 := by
  cases fault with
  | interrupted => exact absurd rfl h
  | _ => rfl

theorem reports_stopped {fault : Fault} (h : fault ≠ .interrupted) :
    (Output.stopped fault).Reports [] [] fault :=
  ⟨exitCode_eq_one h, rfl, _, worded_report fault, rfl⟩

end SiteFilter
