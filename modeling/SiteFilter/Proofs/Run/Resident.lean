import SiteFilter.Proofs.CommandLine.Requests
import SiteFilter.Proofs.Run.Repetition
import SiteFilter.Proofs.Run.Reports

/-!
# What stays in a process

Three things stay in a process from one run to the next: what came of installing a handler, which is
tried once; the mark of an interrupt, which nothing takes away; and the logger, which is installed
once. `runs` hands on the logger alone. Here all three are handed on, and it comes to the same: the
outcome that is kept is the one that trying again would have had in a process without a handler, and
the mark is only found where the logger already keeps a run from looking for it.

What is proved:
  1. `Resident.Follows.call` — one run, from the invariant `Resident.Follows` to the invariant.
  2. `Resident.calls_eq_runs` — any number of runs, by induction.
  3. `runs_of_one_process` — what they print, all together, and the tree that they leave.
-/

namespace SiteFilter

/-- A process with all that its runs share. -/
structure Resident where
  /-- Whether a handler for interrupts is installed, by whomever. There is room for one. -/
  handled : Bool
  /-- What came of the attempt to install the program's own, once it has been made. -/
  attempt : Option (Except Fault Unit)
  /-- Whether an interrupt has arrived. -/
  interrupted : Bool
  process : Process

/-- Installs a handler, unless there is one. -/
def register (handled : Bool) : Except Fault Unit :=
  if handled then .error (.handlerRefused handlerTakenReason) else .ok ()

/-- The surroundings of a run that has its handler and finds an interrupt or none. -/
def Surroundings.attended (around : Surroundings) (interrupted : Bool) : Surroundings :=
  { around with handlerTaken := false, interrupted := interrupted }

namespace Resident

def fresh (around : Surroundings) (t : FileTree) : Resident :=
  ⟨around.handlerTaken, none, false, .fresh t⟩

/-- What comes of asking for a handler: the attempt is made once, and its outcome kept. -/
def install (r : Resident) : Except Fault Unit × Resident :=
  match r.attempt with
  | some outcome => (outcome, r)
  | none =>
    (register r.handled, { r with handled := true, attempt := some (register r.handled) })

/-- One run. An interrupt arrives once a plan has been announced, and its mark stays. -/
def call (around : Surroundings) (arguments : List Bytes) (r : Resident) : Resident × Output :=
  match r.install with
  | (.error fault, after) => (after, .stopped fault)
  | (.ok _, after) =>
    let planned := (prepare (around.attended false) arguments r.process.logger).isOk
    let interrupted := r.interrupted || (around.interrupted && planned)
    let ending := run (around.attended interrupted) arguments r.process
    ({ after with interrupted := interrupted, process := ending.1 }, ending.2)

/-- One run and `more` runs after it, all alike. -/
def calls (around : Surroundings) (arguments : List Bytes) : Nat → Resident → Resident × Output
  | 0, r => r.call around arguments
  | more + 1, r =>
    let first := r.call around arguments
    let rest := calls around arguments more first.1
    (rest.1, first.2.append rest.2)

/-- The process after so many runs. -/
def after (around : Surroundings) (arguments : List Bytes) : Nat → Resident → Resident
  | 0, r => r
  | n + 1, r => ((after around arguments n r).call around arguments).1

/-- What holds between runs: the handler is as it was found, or the outcome of the attempt is the one
it had then, and an interrupt arrived only where a logger was installed. -/
structure Follows (r : Resident) (around : Surroundings) (p : Process) : Prop where
  process : r.process = p
  handler : (r.attempt = none ∧ r.handled = around.handlerTaken) ∨
    r.attempt = some (register around.handlerTaken)
  marked : r.interrupted = true → ∃ current, p.logger = some current

variable {around : Surroundings} {arguments : List Bytes} {r : Resident} {p : Process}

theorem follows_fresh (around : Surroundings) (t : FileTree) :
    (fresh around t).Follows around (.fresh t) :=
  ⟨rfl, .inl ⟨rfl, rfl⟩, by simp [fresh]⟩

theorem Follows.install (h : r.Follows around p) :
    ∃ handled, r.install = (register around.handlerTaken,
      { r with handled := handled, attempt := some (register around.handlerTaken) }) := by
  rcases h.handler with ⟨hnone, hhandled⟩ | hsome
  · refine ⟨true, ?_⟩
    rw [Resident.install, hnone, ← hhandled]
  · refine ⟨r.handled, ?_⟩
    rw [Resident.install, hsome]
    simp only
    rw [← hsome]

end Resident

/-! ## One run -/

variable {around : Surroundings} {arguments : List Bytes} {r : Resident} {p : Process}

theorem logger_of_prepare {logger : Option Logger} {plan : Plan}
    (h : prepare around arguments logger = .ok plan) : logger = none := by
  cases logger with
  | none => rfl
  | some current =>
    unfold prepare at h
    split at h
    · cases h
    · split at h
      · cases h
      · cases h

theorem attended_self (free : around.handlerTaken = false) :
    around.attended around.interrupted = around := by
  obtain ⟨_, _, _, _⟩ := around
  obtain rfl := free
  rfl

theorem prepare_attended (free : around.handlerTaken = false) (interrupted : Bool)
    (arguments : List Bytes) (logger : Option Logger) :
    prepare (around.attended interrupted) arguments logger = prepare around arguments logger := by
  obtain ⟨_, _, _, _⟩ := around
  obtain rfl := free
  rfl

/-- A run without a plan does not look for an interrupt. -/
theorem run_attended_of_unplanned (free : around.handlerTaken = false) {ended : Ended}
    (h : prepare around arguments p.logger = .error ended) (interrupted : Bool) :
    run (around.attended interrupted) arguments p = run around arguments p := by
  rw [run, prepare_attended free, h, run, h]

theorem logger_of_run_of_logger {current : Logger} (h : p.logger = some current) :
    ∃ current, (run around arguments p).1.logger = some current := by
  obtain ⟨stage, hends⟩ := endsAt_run around arguments p
  generalize (run around arguments p).1 = p', (run around arguments p).2 = out at hends
  cases hends with
  | handler => exact ⟨current, h⟩
  | commandLine => exact ⟨current, h⟩
  | logger => exact ⟨current, h⟩
  | _ => exact ⟨_, rfl⟩

theorem logger_of_run_of_planned {plan : Plan}
    (h : prepare around arguments p.logger = .ok plan) :
    (run around arguments p).1.logger = some plan.logger := by
  rw [run, h]

namespace Resident

/-- The step: one run with all that stays prints what a run prints, and the invariant goes on. -/
theorem Follows.call (h : r.Follows around p) (arguments : List Bytes) :
    (r.call around arguments).2 = (run around arguments p).2 ∧
      (r.call around arguments).1.Follows around (run around arguments p).1 := by
  obtain ⟨handled, hinstall⟩ := h.install
  obtain rfl := h.process
  rw [Resident.call, hinstall]
  cases htaken : around.handlerTaken with
  | true =>
    rw [run_of_taken htaken]
    refine ⟨rfl, rfl, .inr ?_, h.marked⟩
    rw [htaken]
    rfl
  | false =>
    simp only [register, Bool.false_eq_true, if_false, prepare_attended htaken]
    cases hplan : prepare around arguments r.process.logger with
    | error ended =>
      simp only [Except.isOk, Except.toBool, Bool.and_false, Bool.or_false]
      rw [run_attended_of_unplanned htaken hplan]
      refine ⟨rfl, rfl, .inr ?_, ?_⟩
      · rw [htaken]
        rfl
      · intro hmark
        obtain ⟨current, hlogger⟩ := h.marked hmark
        exact logger_of_run_of_logger hlogger
    | ok plan =>
      -- where there is a plan there was no logger, and so no mark
      have hunmarked : r.interrupted = false := by
        cases hmark : r.interrupted with
        | false => rfl
        | true =>
          obtain ⟨current, hlogger⟩ := h.marked hmark
          rw [logger_of_prepare hplan] at hlogger
          cases hlogger
      simp only [hunmarked, Except.isOk, Except.toBool, Bool.and_true, Bool.false_or]
      rw [attended_self htaken]
      refine ⟨rfl, rfl, .inr ?_, ?_⟩
      · rw [htaken]
        rfl
      · intro _
        exact ⟨plan.logger, logger_of_run_of_planned hplan⟩

/-! ## Any number of runs -/

theorem Follows.calls (h : r.Follows around p) (arguments : List Bytes) (more : Nat) :
    (calls around arguments more r).1.process = (runs around arguments more p).1 ∧
      (calls around arguments more r).2 = (runs around arguments more p).2 := by
  induction more generalizing r p with
  | zero =>
    obtain ⟨hout, hfollows⟩ := h.call arguments
    exact ⟨hfollows.process, hout⟩
  | succ more ih =>
    obtain ⟨hout, hfollows⟩ := h.call arguments
    obtain ⟨hprocess, hrest⟩ := ih hfollows
    refine ⟨hprocess, ?_⟩
    rw [Resident.calls, runs, hout, hrest]

/-- Runs that hand on all that stays do what runs that hand on the logger alone do. -/
theorem calls_eq_runs (around : Surroundings) (arguments : List Bytes) (more : Nat) (t : FileTree) :
    (calls around arguments more (fresh around t)).1.process =
        (runs around arguments more (.fresh t)).1 ∧
      (calls around arguments more (fresh around t)).2 = (runs around arguments more (.fresh t)).2 :=
  (follows_fresh around t).calls arguments more

/-- After its first run a process is as that run left it, however many follow. -/
theorem Follows.after_succ (h : r.Follows around p) (arguments : List Bytes) (n : Nat) :
    (after around arguments (n + 1) r).Follows around (run around arguments p).1 := by
  induction n with
  | zero => exact (h.call arguments).2
  | succ n ih =>
    have hnext := (ih.call arguments).2
    rw [run_run] at hnext
    exact hnext

theorem follows_after_fresh (around : Surroundings) (arguments : List Bytes) (t : FileTree)
    (n : Nat) : ∃ p, (after around arguments n (fresh around t)).Follows around p ∧
      (0 < n → p = (run around arguments (.fresh t)).1) := by
  cases n with
  | zero => exact ⟨.fresh t, follows_fresh around t, by simp⟩
  | succ n => exact ⟨_, (follows_fresh around t).after_succ arguments n, fun _ => rfl⟩

end Resident

/-! ## All runs of one process -/

/-- A run announces nothing, reads nothing and writes nothing: whatever the tree, it leaves it as it
is and prints the same, a text that was asked for or nothing but what is wrong. -/
def Idle (around : Surroundings) (arguments : List Bytes) (logger : Option Logger) : Prop :=
  ∃ out, (∀ t, run around arguments ⟨logger, t⟩ = (⟨logger, t⟩, out)) ∧
    (out.stdout = [] ∨
      ∃ request, CommandLine.read arguments = .error (.request request) ∧
        CommandLine.Prints request out.stdout)

theorem idle_of_run (around : Surroundings) (arguments : List Bytes) (p : Process) :
    Idle around arguments (run around arguments p).1.logger := by
  cases htaken : around.handlerTaken with
  | true => exact ⟨_, fun t => run_of_taken htaken _, .inl rfl⟩
  | false =>
    cases hread : CommandLine.read arguments with
    | error stop =>
      refine ⟨_, fun t => run_of_stop htaken hread _, ?_⟩
      cases stop with
      | request request => exact .inr ⟨request, hread, CommandLine.prints_text request⟩
      | fault fault => exact .inl rfl
    | ok options =>
      obtain ⟨current, hlogger⟩ := logger_of_run htaken hread p
      exact ⟨_, fun t => run_of_logger htaken hread hlogger, .inl rfl⟩

theorem stopped_handlerRefused :
    Output.stopped (.handlerRefused handlerTakenReason) =
      ⟨1, [], "runtime error: failed to install SIGINT handler: ".toList ++
        "Ctrl-C error: Ctrl-C signal handler already registered".toList ++ ['\n']⟩ := by
  rw [Output.stopped, (Worded.handlerRefused _).reportLine_eq]
  rfl

theorem reportLine_loggerRefused :
    Output.reportLine (.loggerRefused Logger.alreadyInstalled) =
      "runtime error: failed to initialize logger: ".toList ++
        "attempted to set a logger after the logging system was already initialized".toList ++
          ['\n'] :=
  (Worded.loggerRefused _).reportLine_eq

/-- All runs of one process, from the first. Where the handler is refused or the command line stops
the first run, all others do the same. Otherwise the first does what it would do alone, and all
others are refused a logger; none of them is refused the handler, or has work to do. -/
theorem runs_of_one_process (around : Surroundings) (arguments : List Bytes) (more : Nat)
    (t : FileTree) :
    let one := run around arguments (.fresh t)
    let all := runs around arguments more (.fresh t)
    let found := fun n => Resident.after around arguments n (.fresh around t)
    let noHandler := "runtime error: failed to install SIGINT handler: ".toList ++
      "Ctrl-C error: Ctrl-C signal handler already registered".toList ++ ['\n']
    let noLogger := "runtime error: failed to initialize logger: ".toList ++
      "attempted to set a logger after the logging system was already initialized".toList ++ ['\n']
    ((Resident.calls around arguments more (.fresh around t)).1.process = all.1 ∧
      (Resident.calls around arguments more (.fresh around t)).2 = all.2) ∧
    (around.handlerTaken = true →
      (∀ n, ((found n).call around arguments).2 = ⟨1, [], noHandler⟩) ∧
      all.1.tree = t ∧ all.2 = ⟨1, [], copies (more + 1) noHandler⟩) ∧
    (around.handlerTaken = false →
      (∀ n, (found n).install.1 = .ok ()) ∧
      (∀ n, 0 < n → Idle around arguments (found n).process.logger) ∧
      (∀ request, CommandLine.read arguments = .error (.request request) →
        ∃ shown, CommandLine.Prints request shown ∧
          all.1.tree = t ∧ all.2 = ⟨0, copies (more + 1) shown, []⟩) ∧
      (∀ fault, CommandLine.read arguments = .error (.fault fault) →
        all.1.tree = t ∧ all.2.exitCode = 2 ∧ all.2.stdout = []) ∧
      ∀ options, CommandLine.read arguments = .ok options → 0 < more →
        all.1.tree = one.1.tree ∧
        all.2 = ⟨1, one.2.stdout, one.2.stderr ++ copies more noLogger⟩) := by
  intro one all found noHandler noLogger
  refine ⟨Resident.calls_eq_runs around arguments more t, ?_, ?_⟩
  · intro taken
    have hall : all = _ := runs_of_unchanged (run_of_taken taken (.fresh t)) more
    rw [hall]
    refine ⟨?_, rfl, ?_⟩
    · intro n
      obtain ⟨p, hfollows, _⟩ := Resident.follows_after_fresh around arguments t n
      rw [(hfollows.call arguments).1, run_of_taken taken, stopped_handlerRefused]
    · rw [stopped_handlerRefused, copies_nil]
  · intro free
    refine ⟨?_, ?_, ?_, ?_, ?_⟩
    · intro n
      obtain ⟨p, hfollows, _⟩ := Resident.follows_after_fresh around arguments t n
      obtain ⟨handled, hinstall⟩ := hfollows.install
      rw [hinstall, free]
      rfl
    · intro n hn
      obtain ⟨p, hfollows, hp⟩ := Resident.follows_after_fresh around arguments t n
      rw [hfollows.process, hp hn]
      exact idle_of_run around arguments (.fresh t)
    · intro request hrequest
      have hall : all = _ := runs_of_unchanged (run_of_stop free hrequest (.fresh t)) more
      rw [hall]
      refine ⟨_, CommandLine.prints_text request, rfl, ?_⟩
      simp only [Output.ofStop, copies_nil]
    · intro fault hfault
      have hall : all = _ := runs_of_unchanged (run_of_stop free hfault (.fresh t)) more
      rw [hall]
      exact ⟨rfl, rfl, copies_nil _⟩
    · intro options accepted hmore
      have hall : all = _ := runs_of_accepted free accepted hmore (.fresh t)
      rw [hall, reportLine_loggerRefused]
      exact ⟨rfl, rfl⟩

end SiteFilter
