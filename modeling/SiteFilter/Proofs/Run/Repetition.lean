import SiteFilter.Proofs.Run.Course

/-!
# Several runs in one process

The first run of a process brings it to rest: every further run leaves the process as it finds it,
looks at no file, and prints what the one before it printed. So a process that runs again and again
does the work of one run at most.

What is proved:
  1. `run_of_taken`, `run_of_stop`, `run_of_logger` — a run without a handler, one whose command line
     stops it, and one in a process that has a logger end there, whatever the tree is.
  2. `run_run` — a second run leaves the process as the first left it.
  3. `runs_eq` — all runs of a process together: the first, and copies of the second.
  4. `runs_of_unchanged`, `runs_of_accepted` — what that comes to, by where the first run ends.
-/

namespace SiteFilter

/-- A text so many times, one after the other. -/
def copies (n : Nat) (t : Text) : Text := (List.replicate n t).flatten

theorem copies_zero (t : Text) : copies 0 t = [] := rfl

theorem copies_succ (n : Nat) (t : Text) : copies (n + 1) t = t ++ copies n t := rfl

theorem copies_nil (n : Nat) : copies n [] = [] := by
  induction n with
  | zero => rfl
  | succ n ih => rw [copies_succ, ih, List.append_nil]

variable {around : Surroundings} {arguments : List Bytes} {options : CommandLine.Options}

/-! ## Runs that look at no file -/

theorem run_of_taken (taken : around.handlerTaken = true) (p : Process) :
    run around arguments p = (p, .stopped (.handlerRefused handlerTakenReason)) :=
  (EndsAt.handler taken).eq_run

theorem run_of_stop (free : around.handlerTaken = false) {stop : CommandLine.Stop}
    (stopped : CommandLine.read arguments = .error stop) (p : Process) :
    run around arguments p = (p, .ofStop stop) :=
  (EndsAt.commandLine free stopped).eq_run

theorem run_of_logger (free : around.handlerTaken = false)
    (accepted : CommandLine.read arguments = .ok options) {current : Logger} {p : Process}
    (logged : p.logger = some current) :
    run around arguments p = (p, .stopped (.loggerRefused Logger.alreadyInstalled)) :=
  (EndsAt.logger free accepted logged).eq_run

/-! ## The second run -/

/-- A run that gets past its command line leaves a logger behind, its own or the one it found. -/
theorem logger_of_run (free : around.handlerTaken = false)
    (accepted : CommandLine.read arguments = .ok options) (p : Process) :
    ∃ current, (run around arguments p).1.logger = some current := by
  obtain ⟨stage, h⟩ := endsAt_run around arguments p
  generalize (run around arguments p).1 = p', (run around arguments p).2 = out at h
  cases h with
  | handler taken =>
    rw [free] at taken
    cases taken
  | commandLine _ stopped =>
    rw [accepted] at stopped
    cases stopped
  | logger _ _ logged => exact ⟨_, logged⟩
  | _ => exact ⟨_, rfl⟩

theorem run_run_of_accepted (free : around.handlerTaken = false)
    (accepted : CommandLine.read arguments = .ok options) (p : Process) :
    run around arguments (run around arguments p).1 =
      ((run around arguments p).1, .stopped (.loggerRefused Logger.alreadyInstalled)) := by
  obtain ⟨current, hlogger⟩ := logger_of_run free accepted p
  exact run_of_logger free accepted hlogger

theorem run_run (around : Surroundings) (arguments : List Bytes) (p : Process) :
    (run around arguments (run around arguments p).1).1 = (run around arguments p).1 := by
  cases htaken : around.handlerTaken with
  | true => rw [run_of_taken htaken, run_of_taken htaken]
  | false =>
    cases hread : CommandLine.read arguments with
    | error stop => rw [run_of_stop htaken hread, run_of_stop htaken hread]
    | ok options => rw [run_run_of_accepted htaken hread]

/-! ## All runs of a process -/

/-- What all runs of a process print: the first, and so many more that print alike. -/
def Output.followedBy (first : Output) (more : Nat) (again : Output) : Output :=
  ⟨if more = 0 then first.exitCode else again.exitCode,
    first.stdout ++ copies more again.stdout, first.stderr ++ copies more again.stderr⟩

/-- By induction on the number of further runs: each finds the process as the first left it. -/
theorem runs_eq (around : Surroundings) (arguments : List Bytes) (more : Nat) (p : Process) :
    runs around arguments more p =
      ((run around arguments p).1,
        (run around arguments p).2.followedBy more
          (run around arguments (run around arguments p).1).2) := by
  induction more generalizing p with
  | zero => simp [runs, Output.followedBy, copies_zero]
  | succ more ih =>
    rw [runs, ih, run_run]
    simp only [Output.append, Output.followedBy, copies_succ, Prod.mk.injEq, true_and]
    cases more <;> simp [copies_zero]

/-- Where the first run leaves the process as it found it, all others do the same. -/
theorem runs_of_unchanged {p : Process} {out : Output} (h : run around arguments p = (p, out))
    (more : Nat) :
    runs around arguments more p =
      (p, ⟨out.exitCode, copies (more + 1) out.stdout, copies (more + 1) out.stderr⟩) := by
  rw [runs_eq, h]
  simp [h, Output.followedBy, copies_succ]

/-- Where the first run gets past its command line, all others are refused a logger. -/
theorem runs_of_accepted (free : around.handlerTaken = false)
    (accepted : CommandLine.read arguments = .ok options) {more : Nat} (hmore : 0 < more)
    (p : Process) :
    runs around arguments more p =
      ((run around arguments p).1,
        ⟨1, (run around arguments p).2.stdout,
          (run around arguments p).2.stderr ++
            copies more (Output.reportLine (.loggerRefused Logger.alreadyInstalled))⟩) := by
  have hne : more ≠ 0 := by omega
  rw [runs_eq, run_run_of_accepted free accepted]
  simp [Output.followedBy, hne, Output.stopped, copies_nil, Fault.exitCode]

end SiteFilter
