import SiteFilter.Proofs.Run.Agreement
import SiteFilter.Proofs.Run.Outcome

/-!
# Runs that differ in what they log

The style of the log records is taken from three variables and from whether standard error is a
terminal, and their verbosity from the command line. Both are settled in the middle of a run, before
any file is looked at. Two runs that differ in nothing else come to plans that differ in their
logger alone, and what a plan does to the tree does not depend on its logger.

What is proved:
  1. `FailsWith.line_eq` — the line that reports a failure can be told from the log records before it.
  2. `carryOut_congr`, `alike_output_of_count` — what the logger of a plan leaves alone.
  3. `run_sameResult`, `runs_sameButLogger` — two runs compared, and all runs of two processes.
  4. `result_independent_of_logging` — the log settings have no influence on the exit code, on
     standard output and on the tree, nor on the line that reports a failure.
-/

namespace SiteFilter

/-! ## Log settings -/

/-- The variables that have a say in how a record is written. -/
def RecordStyle.logVariables : List String := formatVariable :: serviceVariables

/-- Surroundings that differ at most in what decides the style of a record. -/
structure Surroundings.SameButStyle (a b : Surroundings) : Prop where
  elsewhere : ∀ name, name ∉ RecordStyle.logVariables →
    a.environment.get? name = b.environment.get? name
  handlerTaken : a.handlerTaken = b.handlerTaken
  interrupted : a.interrupted = b.interrupted

/-- Command lines that are the same, or that are accepted and differ at most in the level. -/
def CommandLine.SameButLevel (line line' : List Bytes) : Prop :=
  line = line' ∨ ∃ options options', read line = .ok options ∧ read line' = .ok options' ∧
    options.count = options'.count

/-- Processes with the same tree, of which both have a logger or neither has. -/
structure Process.SameButLogger (p q : Process) : Prop where
  logger : p.logger = none ↔ q.logger = none
  tree : p.tree = q.tree

theorem Process.SameButLogger.refl (p : Process) : p.SameButLogger p := ⟨Iff.rfl, rfl⟩

theorem Process.SameButLogger.exists_logger {p q : Process} (h : p.SameButLogger q)
    {current : Logger} (logged : p.logger = some current) : ∃ other, q.logger = some other := by
  apply Option.ne_none_iff_exists'.mp
  intro hnone
  have hnone' := h.logger.mpr hnone
  rw [logged] at hnone'
  cases hnone'

/-- The same surroundings with other log settings. -/
def Surroundings.withLog (around : Surroundings) (settings : List (String × Bytes))
    (stderrTerminal : Bool) : Surroundings :=
  { around with
    environment := ⟨settings ++ around.environment.entries⟩
    stderrTerminal := stderrTerminal }

theorem sameButStyle_withLog (around : Surroundings) {settings : List (String × Bytes)}
    (h : ∀ setting ∈ settings, setting.1 ∈ RecordStyle.logVariables) (stderrTerminal : Bool) :
    around.SameButStyle (around.withLog settings stderrTerminal) := by
  refine ⟨?_, rfl, rfl⟩
  intro name hname
  have hnone : settings.lookup name = none := by
    rw [List.lookup_eq_none_iff]
    intro setting hsetting
    rw [bne_iff_ne]
    rintro rfl
    exact hname (h setting hsetting)
  show around.environment.entries.lookup name =
    (settings ++ around.environment.entries).lookup name
  rw [List.lookup_append, hnone, Option.none_or]

/-! ## Failures -/

/-- What makes a run fail: its command line, or a fault after that. -/
inductive Failure where
  | usage (fault : CommandLine.UsageFault)
  | stopped (fault : Fault)
  deriving DecidableEq, Repr

def Failure.exitCode : Failure → Nat
  | .usage _ => 2
  | .stopped fault => fault.exitCode

/-- The error line of a failure. -/
def Failure.line : Failure → Text
  | .usage fault => "error: ".toList ++ fault.message ++ ['\n']
  | .stopped fault => fault.report ++ ['\n']

/-- The log records that a run may leave behind before it fails. -/
inductive RecordsBefore (around : Surroundings) (arguments : List Bytes) : Text → Prop where
  | none : RecordsBefore around arguments []
  | files {options : CommandLine.Options} {paths : SitePaths} :
      CommandLine.read arguments = .ok options →
      SitePaths.resolve around.environment = .ok paths →
      RecordsBefore around arguments (filesRecord around options paths)

/-- The output of a run that failed: on standard error, the line of the failure is the last, and
before it there is nothing but log records. -/
structure FailsWith (around : Surroundings) (arguments : List Bytes) (out : Output)
    (failure : Failure) : Prop where
  exitCode : out.exitCode = failure.exitCode
  stderr : ∃ records, RecordsBefore around arguments records ∧ out.stderr = records ++ failure.line

/-- Two outputs with the same exit code and the same standard output, and with the same failure, if
any. -/
structure SameResult (a b : Surroundings) (line line' : List Bytes) (out out' : Output) :
    Prop where
  alike : out.Alike out'
  failure : out.exitCode ≠ 0 → ∃ failure, FailsWith a line out failure ∧
    FailsWith b line' out' failure

variable {a b : Surroundings} {line line' : List Bytes} {p q : Process}
  {options options' : CommandLine.Options} {paths : SitePaths}

theorem failsWith_stopped (around : Surroundings) (arguments : List Bytes) (fault : Fault) :
    FailsWith around arguments (.stopped fault) (.stopped fault) :=
  ⟨rfl, [], .none, rfl⟩

theorem failsWith_ofStop (around : Surroundings) (arguments : List Bytes)
    (fault : CommandLine.UsageFault) :
    FailsWith around arguments (.ofStop (.fault fault)) (.usage fault) :=
  ⟨rfl, [], .none, rfl⟩

theorem failsWith_output (planned : Planned a line p options paths) (fault : Fault) :
    FailsWith a line ((a.plan options paths).output (.error fault)) (.stopped fault) := by
  refine ⟨rfl, _, .files planned.accepted planned.resolved, ?_⟩
  rw [← openingRecord_plan]
  rfl

/-- The first letters of an error line. -/
def Failure.initials : List Char := ['e', 'c', 'i', 'v', 'r']

theorem head?_line (failure : Failure) :
    ∃ c ∈ Failure.initials, failure.line.head? = some c := by
  cases failure with
  | usage fault => exact ⟨'e', by decide, rfl⟩
  | stopped fault =>
    cases fault with
    | pathsUnknown => exact ⟨'c', by decide, rfl⟩
    | unreadable | unwritable => exact ⟨'i', by decide, rfl⟩
    | tooFew => exact ⟨'v', by decide, rfl⟩
    | loggerRefused | handlerRefused | interrupted => exact ⟨'r', by decide, rfl⟩

theorem head?_filesRecord (around : Surroundings) (options : CommandLine.Options)
    (paths : SitePaths) :
    filesRecord around options paths = [] ∨
      ∃ c, c ∉ Failure.initials ∧ (filesRecord around options paths).head? = some c := by
  unfold filesRecord
  split
  · right
    cases RecordStyle.choose around.environment around.stderrTerminal with
    | human => exact ⟨'D', by decide, rfl⟩
    | journal => exact ⟨'l', by decide, rfl⟩
  · left
    rfl

/-- A log record cannot be mistaken for the beginning of an error line. -/
theorem line_eq_of_eq_append {failure failure' : Failure} (around : Surroundings)
    (options : CommandLine.Options) (paths : SitePaths)
    (h : failure.line = filesRecord around options paths ++ failure'.line) :
    failure.line = failure'.line := by
  cases head?_filesRecord around options paths with
  | inl hnil => rwa [hnil, List.nil_append] at h
  | inr hhead =>
    obtain ⟨c, hrecord, hhead⟩ := hhead
    obtain ⟨d, hline, hhead'⟩ := head?_line failure
    rw [h, List.head?_append, hhead, Option.some_or] at hhead'
    cases hhead'
    exact absurd hline hrecord

/-- An output has one error line. -/
theorem FailsWith.line_eq {out : Output} {failure failure' : Failure}
    (h : FailsWith a line out failure) (h' : FailsWith a line out failure') :
    failure.line = failure'.line := by
  obtain ⟨_, records, hrecords, hstderr⟩ := h
  obtain ⟨_, records', hrecords', hstderr'⟩ := h'
  rw [hstderr] at hstderr'
  cases hrecords with
  | none =>
    cases hrecords' with
    | none => exact hstderr'
    | files => exact line_eq_of_eq_append a _ _ hstderr'
  | files accepted resolved =>
    cases hrecords' with
    | none => exact (line_eq_of_eq_append a _ _ hstderr'.symm).symm
    | files accepted' resolved' =>
      -- both have the record of the same run
      rw [accepted] at accepted'
      rw [resolved] at resolved'
      cases accepted'
      cases resolved'
      exact List.append_cancel_left hstderr'

/-! ## What the settings leave alone -/

theorem CommandLine.SameButLevel.error (h : CommandLine.SameButLevel line line')
    {stop : CommandLine.Stop} (stopped : CommandLine.read line = .error stop) :
    CommandLine.read line' = .error stop := by
  obtain rfl | ⟨options, options', accepted, _, _⟩ := h
  · exact stopped
  · rw [stopped] at accepted
    cases accepted

theorem CommandLine.SameButLevel.ok (h : CommandLine.SameButLevel line line')
    (accepted : CommandLine.read line = .ok options) :
    ∃ options', CommandLine.read line' = .ok options' ∧ options.count = options'.count := by
  obtain rfl | ⟨first, second, hfirst, hsecond, hcount⟩ := h
  · exact ⟨options, accepted, rfl⟩
  · rw [accepted] at hfirst
    cases hfirst
    exact ⟨second, hsecond, hcount⟩

/-- No variable for the log names a base directory. -/
theorem Surroundings.SameButStyle.resolve (h : a.SameButStyle b) :
    SitePaths.resolve a.environment = SitePaths.resolve b.environment := by
  have hroot := h.elsewhere SitePaths.rootVariable (by decide)
  have hhome := h.elsewhere SitePaths.homeVariable (by decide)
  unfold SitePaths.resolve SitePaths.base? Environment.setting?
  rw [hroot, hhome]

theorem Planned.sameButStyle (planned : Planned a line p options paths) (hab : a.SameButStyle b)
    (hline : CommandLine.SameButLevel line line') (hpq : p.SameButLogger q) :
    ∃ options', Planned b line' q options' paths ∧ options.count = options'.count := by
  obtain ⟨options', accepted, hcount⟩ := hline.ok planned.accepted
  refine ⟨options', ⟨?_, accepted, hpq.logger.mp planned.unlogged, ?_⟩, hcount⟩
  · rw [← hab.handlerTaken]
    exact planned.free
  · rw [← hab.resolve]
    exact planned.resolved

/-- A plan announces its count, and neither its logger nor its paths. -/
theorem alike_output_of_count {plan plan' : Plan} (h : plan.count = plan'.count)
    (ending : Except Fault Selection) : (plan.output ending).Alike (plan'.output ending) := by
  have hannouncement : plan.announcement = plan'.announcement := by
    unfold Plan.announcement
    rw [h]
  exact ⟨rfl, hannouncement⟩

theorem sameResult_output (planned : Planned a line p options paths)
    (planned' : Planned b line' q options' paths) (hcount : options.count = options'.count)
    (ending : Except Fault Selection) :
    SameResult a b line line' ((a.plan options paths).output ending)
      ((b.plan options' paths).output ending) := by
  refine ⟨alike_output_of_count hcount ending, ?_⟩
  intro hexit
  cases ending with
  | ok s => exact absurd rfl hexit
  | error fault =>
    exact ⟨_, failsWith_output planned fault, failsWith_output planned' fault⟩

theorem sameResult_stopped (a b : Surroundings) (line line' : List Bytes) (fault : Fault) :
    SameResult a b line line' (.stopped fault) (.stopped fault) :=
  ⟨.refl _, fun _ => ⟨_, failsWith_stopped a line fault, failsWith_stopped b line' fault⟩⟩

theorem sameResult_ofStop (a b : Surroundings) (line line' : List Bytes)
    (stop : CommandLine.Stop) :
    SameResult a b line line' (.ofStop stop) (.ofStop stop) := by
  refine ⟨.refl _, ?_⟩
  intro hexit
  cases stop with
  | request request => exact absurd rfl hexit
  | fault fault => exact ⟨_, failsWith_ofStop a line fault, failsWith_ofStop b line' fault⟩

/-! ## One run -/

/-- What a plan does to a tree, and how it ends, does not depend on its logger. -/
theorem carryOut_congr {plan plan' : Plan} (hpaths : plan.paths = plan'.paths)
    (hcount : plan.count = plan'.count) (interrupted : Bool) (t : FileTree) :
    plan.carryOut interrupted t = plan'.carryOut interrupted t := by
  simp only [Plan.carryOut, Plan.selection, hpaths, hcount]

theorem run_sameResult_of_planned (planned : Planned a line p options paths)
    (hab : a.SameButStyle b) (hline : CommandLine.SameButLevel line line')
    (hpq : p.SameButLogger q) :
    (run a line p).1.SameButLogger (run b line' q).1 ∧
      SameResult a b line line' (run a line p).2 (run b line' q).2 := by
  obtain ⟨options', planned', hcount⟩ := planned.sameButStyle hab hline hpq
  have hcarried : (a.plan options paths).carryOut a.interrupted p.tree =
      (b.plan options' paths).carryOut b.interrupted q.tree := by
    rw [hab.interrupted, hpq.tree]
    apply carryOut_congr
    · rfl
    · exact hcount
  rw [run_of_planned planned, run_of_planned planned', hcarried]
  exact ⟨⟨by simp, rfl⟩, sameResult_output planned planned' hcount _⟩

/-- The cases are the stages up to the plan. Wherever a run is stopped before, the other is stopped
by the same. -/
theorem run_sameResult (hab : a.SameButStyle b) (hline : CommandLine.SameButLevel line line')
    (hpq : p.SameButLogger q) :
    (run a line p).1.SameButLogger (run b line' q).1 ∧
      SameResult a b line line' (run a line p).2 (run b line' q).2 := by
  cases htaken : a.handlerTaken with
  | true =>
    have htaken' := hab.handlerTaken.symm.trans htaken
    rw [run_of_taken htaken, run_of_taken htaken']
    exact ⟨hpq, sameResult_stopped ..⟩
  | false =>
    have htaken' := hab.handlerTaken.symm.trans htaken
    cases hread : CommandLine.read line with
    | error stop =>
      rw [run_of_stop htaken hread, run_of_stop htaken' (hline.error hread)]
      exact ⟨hpq, sameResult_ofStop ..⟩
    | ok options =>
      obtain ⟨options', hread', _⟩ := hline.ok hread
      cases hlogger : p.logger with
      | some current =>
        obtain ⟨current', hlogger'⟩ := hpq.exists_logger hlogger
        rw [run_of_logger htaken hread hlogger, run_of_logger htaken' hread' hlogger']
        exact ⟨hpq, sameResult_stopped ..⟩
      | none =>
        cases hpaths : SitePaths.resolve a.environment with
        | error cause =>
          have ends := EndsAt.paths htaken hread hlogger hpaths
          have ends' := EndsAt.paths htaken' hread' (hpq.logger.mp hlogger)
            (hab.resolve.symm.trans hpaths)
          rw [ends.eq_run, ends'.eq_run]
          exact ⟨⟨by simp, hpq.tree⟩, sameResult_stopped ..⟩
        | ok paths =>
          exact run_sameResult_of_planned ⟨htaken, hread, hlogger, hpaths⟩ hab hline hpq

/-! ## All runs of a process -/

theorem runs_sameButLogger (hab : a.SameButStyle b)
    (hline : CommandLine.SameButLevel line line') (hpq : p.SameButLogger q) (more : Nat) :
    (runs a line more p).1.SameButLogger (runs b line' more q).1 ∧
      (runs a line more p).2.Alike (runs b line' more q).2 := by
  obtain ⟨hprocess, hfirst⟩ := run_sameResult hab hline hpq
  obtain ⟨_, hagain⟩ := run_sameResult hab hline hprocess
  rw [runs_eq, runs_eq]
  exact ⟨hprocess, hfirst.alike.followedBy hagain.alike more⟩

/-- However often a process runs, its exit code, its standard output and its tree do not depend on
how it logs. If a single run fails, neither does the one line on standard error that says why. -/
theorem result_independent_of_logging (hab : a.SameButStyle b)
    (hline : CommandLine.SameButLevel line line') (more : Nat) (t : FileTree) :
    let first := runs a line more (.fresh t)
    let second := runs b line' more (.fresh t)
    first.2.exitCode = second.2.exitCode ∧ first.2.stdout = second.2.stdout ∧
      first.1.tree = second.1.tree ∧
      (more = 0 → first.2.exitCode ≠ 0 →
        ∃ failure, FailsWith a line first.2 failure ∧ FailsWith b line' second.2 failure ∧
          ∀ other, FailsWith a line first.2 other ∨ FailsWith b line' second.2 other →
            other.line = failure.line) := by
  intro first second
  obtain ⟨hprocess, hout⟩ := runs_sameButLogger hab hline (.refl (.fresh t)) more
  refine ⟨hout.exitCode, hout.stdout, hprocess.tree, ?_⟩
  intro hmore hfailed
  subst hmore
  obtain ⟨failure, hfirst, hsecond⟩ :=
    (run_sameResult hab hline (.refl (.fresh t))).2.failure hfailed
  refine ⟨failure, hfirst, hsecond, ?_⟩
  intro other hother
  cases hother with
  | inl h => exact h.line_eq hfirst
  | inr h => exact h.line_eq hsecond

/-- Two runs that fail because the list is short, one that logs for people at the level `debug`, and
one that logs for a journal at the level `error`. -/
theorem result_independent_of_logging_oneRecordTree :
    let a := slashedSurroundings 1
    let b := a.withLog
      [(RecordStyle.formatVariable, Utf8.encode "human".toList), ("INVOCATION_ID", [0xFF])] true
    let line := [Utf8.encode "-n2".toList, Utf8.encode "--log-level=error".toList]
    let line' := [Utf8.encode "--log-level=debug".toList]
    let first := runs a line 0 (.fresh oneRecordTree)
    let second := runs b line' 0 (.fresh oneRecordTree)
    first.2.exitCode = 1 ∧ second.2.exitCode = 1 ∧ first.2.stdout = second.2.stdout ∧
      first.1.tree = second.1.tree ∧
      ∃ failure, FailsWith a line first.2 failure ∧ FailsWith b line' second.2 failure ∧
        ∀ other, FailsWith a line first.2 other ∨ FailsWith b line' second.2 other →
          other.line = failure.line := by
  intro a b line line' first second
  have hab : a.SameButStyle b := sameButStyle_withLog a (by decide) true
  have hread : CommandLine.read line = .ok ⟨2, .error⟩ := rfl
  have hread' : CommandLine.read line' = .ok ⟨2, .debug⟩ := rfl
  have planned : Planned a line (.fresh oneRecordTree) ⟨2, .error⟩ (.ofBase (slashedBase 1)) :=
    ⟨rfl, hread, rfl, resolve_iff_namesBase.mpr ⟨_, namesBase_slashedBase 1, rfl⟩⟩
  have hlist := holdsText_slashedBase (n := 0) (by decide)
  have hfew : (records "a.example\n".toList).length < 2 := by decide
  have hexit : first.2.exitCode = 1 := (reports_tooFew planned hlist hfew).exitCode
  obtain ⟨hcode, hstdout, htree, hfailure⟩ :=
    result_independent_of_logging hab (.inr ⟨_, _, hread, hread', rfl⟩) 0 oneRecordTree
  refine ⟨hexit, hcode.symm.trans hexit, hstdout, htree, hfailure rfl ?_⟩
  rw [hexit]
  decide

end SiteFilter
