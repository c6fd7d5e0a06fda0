import SiteFilter.Log.Logger

/-!
# The life of a logger

A process has no logger until one is asked for, and then has that one for good. What the process asks
for later is refused, whatever it is, and leaves no trace; what it logs is written by the first logger
or, before there is one, by none.

So two things about the steps of a process decide everything: which verbosity is asked for first
(`firstAsked?`), and what is logged after that (`loggedSince`).

What is proved:
  1. `logger_step`, `written_step_of_logger`, `written_step_of_none` — what one step does.
  2. `logger_run`, `written_run_of_logger`, `written_run` — what any number of steps does, by
     induction.
  3. `answer_of_run` — the answer to a step is the one it has after the steps before it.
  4. `logger_life_cycle` — all of it, for every environment and every sequence of steps.
-/

namespace SiteFilter.Logging

/-- The verbosity that is asked for first. -/
def firstAsked? : List Step → Option Verbosity
  | [] => none
  | .install verbosity :: _ => some verbosity
  | .log _ _ :: rest => firstAsked? rest

/-- What a step logs. -/
def Step.logged? : Step → Option (Level × Text)
  | .install _ => none
  | .log level message => some (level, message)

/-- What is logged after a logger was asked for. -/
def loggedSince : List Step → List (Level × Text)
  | [] => []
  | .install _ :: rest => rest.filterMap Step.logged?
  | .log _ _ :: rest => loggedSince rest

/-- What a logger writes of what is logged: a record for each thing that it lets through. -/
def transcript (logger : Logger) (logged : List (Level × Text)) : Text :=
  (logged.filter fun item => logger.verbosity.admits item.1).flatMap
    fun item => logger.style.line item.1 item.2

theorem transcript_append (logger : Logger) (earlier later : List (Level × Text)) :
    transcript logger (earlier ++ later) =
      transcript logger earlier ++ transcript logger later := by
  simp only [transcript, List.filter_append, List.flatMap_append]

theorem transcript_singleton (logger : Logger) (level : Level) (message : Text) :
    transcript logger [(level, message)] = logger.record level message := by
  unfold transcript Logger.record
  cases hadmits : logger.verbosity.admits level <;> simp [hadmits]

variable {style : RecordStyle} {s : Logging}

/-! ## One step -/

theorem step_install_none (h : s.logger = none) (verbosity : Verbosity) :
    s.step style (.install verbosity) =
      ({ s with logger := some ⟨verbosity, style⟩ }, .installed) := by
  simp [step, h, Logger.install]

theorem step_install_some {logger : Logger} (h : s.logger = some logger) (verbosity : Verbosity) :
    s.step style (.install verbosity) =
      (s, .refused (.loggerRefused Logger.alreadyInstalled)) := by
  simp [step, h, Logger.install]

/-- A step keeps the logger that there is, and installs one only if it asks for it. -/
theorem logger_step (style : RecordStyle) (s : Logging) (x : Step) :
    (s.step style x).1.logger =
      s.logger.or ((firstAsked? [x]).map fun verbosity => ⟨verbosity, style⟩) := by
  cases x with
  | log level message => cases hlogger : s.logger <;> simp [step, hlogger, firstAsked?]
  | install verbosity =>
    cases hlogger : s.logger with
    | none => rw [step_install_none hlogger]; rfl
    | some logger => rw [step_install_some hlogger, hlogger]; rfl

/-- A step writes what it logs, as the logger of the process says. -/
theorem written_step_of_logger {logger : Logger} (h : s.logger = some logger) (x : Step) :
    (s.step style x).1.written = s.written ++ transcript logger x.logged?.toList := by
  cases x with
  | install verbosity =>
    rw [step_install_some h]
    exact (List.append_nil _).symm
  | log level message =>
    show s.written ++ s.record level message = _
    rw [record, h]
    simp only [Step.logged?, Option.toList_some, transcript_singleton]

theorem written_step_of_none (h : s.logger = none) (x : Step) :
    (s.step style x).1.written = s.written := by
  cases x with
  | install verbosity => rw [step_install_none h]
  | log level message =>
    show s.written ++ s.record level message = _
    rw [record, h]
    exact List.append_nil _

/-! ## Any number of steps -/

theorem run_cons (style : RecordStyle) (s : Logging) (x : Step) (rest : List Step) :
    s.run style (x :: rest) =
      (((s.step style x).1.run style rest).1,
        (s.step style x).2 :: ((s.step style x).1.run style rest).2) := rfl

theorem firstAsked?_cons (x : Step) (rest : List Step) :
    firstAsked? (x :: rest) = (firstAsked? [x]).or (firstAsked? rest) := by
  cases x <;> rfl

/-- By induction on the steps: the logger that there is stays, and where there is none the first that
is asked for comes. -/
theorem logger_run (style : RecordStyle) (s : Logging) (steps : List Step) :
    (s.run style steps).1.logger =
      s.logger.or ((firstAsked? steps).map fun verbosity => ⟨verbosity, style⟩) := by
  induction steps generalizing s with
  | nil => exact (Option.or_none ..).symm
  | cons x rest ih =>
    rw [run_cons, firstAsked?_cons]
    simp only
    rw [ih, logger_step]
    cases s.logger with
    | some logger => rfl
    | none => cases firstAsked? [x] <;> rfl

/-- Where there is a logger, it writes what is logged. -/
theorem written_run_of_logger {logger : Logger} (h : s.logger = some logger) (steps : List Step) :
    (s.run style steps).1.written =
      s.written ++ transcript logger (steps.filterMap Step.logged?) := by
  induction steps generalizing s with
  | nil => exact (List.append_nil _).symm
  | cons x rest ih =>
    have hkept : (s.step style x).1.logger = some logger := by rw [logger_step, h]; rfl
    have hlogged : (x :: rest).filterMap Step.logged? =
        x.logged?.toList ++ rest.filterMap Step.logged? := by cases x <;> rfl
    calc ((s.step style x).1.run style rest).1.written
        = (s.step style x).1.written ++ transcript logger (rest.filterMap Step.logged?) := ih hkept
      _ = s.written ++ (transcript logger x.logged?.toList ++
            transcript logger (rest.filterMap Step.logged?)) := by
          rw [written_step_of_logger h, List.append_assoc]
      _ = s.written ++ transcript logger ((x :: rest).filterMap Step.logged?) := by
          rw [hlogged, transcript_append]

/-- Where there is none, nothing is written until one is asked for. -/
theorem written_run (h : s.logger = none) (steps : List Step) :
    (s.run style steps).1.written =
      s.written ++ transcript ⟨(firstAsked? steps).getD .off, style⟩ (loggedSince steps) := by
  induction steps generalizing s with
  | nil => exact (List.append_nil _).symm
  | cons x rest ih =>
    show ((s.step style x).1.run style rest).1.written = _
    cases x with
    | install verbosity =>
      rw [step_install_none h, written_run_of_logger rfl]
      rfl
    | log level message =>
      have hkept : (s.step style (.log level message)).1.logger = none := h
      rw [ih hkept, written_step_of_none h]
      rfl

theorem run_append (style : RecordStyle) (s : Logging) (past rest : List Step) :
    s.run style (past ++ rest) =
      (((s.run style past).1.run style rest).1,
        (s.run style past).2 ++ ((s.run style past).1.run style rest).2) := by
  induction past generalizing s with
  | nil => rfl
  | cons x past ih => rw [List.cons_append, run_cons, ih, run_cons, List.cons_append]

theorem length_answers (style : RecordStyle) (s : Logging) (steps : List Step) :
    (s.run style steps).2.length = steps.length := by
  induction steps generalizing s with
  | nil => rfl
  | cons x rest ih => rw [run_cons, List.length_cons, ih, List.length_cons]

theorem answer_of_run (style : RecordStyle) (s : Logging) (past : List Step) (x : Step)
    (rest : List Step) :
    (s.run style (past ++ x :: rest)).2[past.length]? =
      some ((s.run style past).1.step style x).2 := by
  rw [run_append, ← length_answers style s past, List.getElem?_append_right (Nat.le_refl _),
    Nat.sub_self, run_cons, List.getElem?_cons_zero]

theorem state_concat (style : RecordStyle) (s : Logging) (past : List Step) (x : Step) :
    (s.run style (past ++ [x])).1 = ((s.run style past).1.step style x).1 := by
  rw [run_append]
  rfl

/-! ## A process from its start -/

theorem logger_fresh (style : RecordStyle) (past : List Step) :
    (fresh.run style past).1.logger =
      (firstAsked? past).map fun verbosity => ⟨verbosity, style⟩ := by
  rw [logger_run]
  exact Option.none_or

theorem verbosity_fresh (style : RecordStyle) (past : List Step) :
    (fresh.run style past).1.verbosity = (firstAsked? past).getD .off := by
  rw [verbosity, logger_fresh]
  cases firstAsked? past <;> rfl

/-- The first attempt to install a logger succeeds, and every later one is refused and changes nothing.
The verbosity in force is the one first asked for, or off before that. What is written is one line for
each thing logged after the first attempt that its verbosity admits, in their order and all in the
style that the environment chooses. -/
theorem logger_life_cycle (env : Environment) (stderrTerminal : Bool) (steps : List Step) :
    let style := RecordStyle.choose env stderrTerminal
    let state := fun past => (fresh.run style past).1
    let answers := (fresh.run style steps).2
    answers.length = steps.length ∧
    (∀ past verbosity rest, steps = past ++ .install verbosity :: rest →
      (firstAsked? past = none →
        answers[past.length]? = some .installed ∧
        state (past ++ [.install verbosity]) =
          ⟨some ⟨verbosity, style⟩, (state past).written⟩) ∧
      ∀ first, firstAsked? past = some first →
        answers[past.length]? = some (.refused (.loggerRefused
          "attempted to set a logger after the logging system was already initialized".toList)) ∧
        state (past ++ [.install verbosity]) = state past) ∧
    (∀ past level message rest, steps = past ++ .log level message :: rest →
      answers[past.length]? = some (.logged ((firstAsked? past).getD .off))) ∧
    (∀ past rest, steps = past ++ rest →
      (state past).verbosity = (firstAsked? past).getD .off) ∧
    (state steps).written =
      ((loggedSince steps).filter fun item =>
          ((firstAsked? steps).getD .off).admits item.1).flatMap
        (fun item => match style with
          | .human => item.1.name ++ ": ".toList ++ item.2 ++ ['\n']
          | .journal => "level=".toList ++ item.1.name ++ " msg=".toList ++ item.2 ++ ['\n']) := by
  intro style state answers
  refine ⟨length_answers .., ?_, ?_, ?_, ?_⟩
  · intro past verbosity rest hsteps
    have hanswer : answers[past.length]? = _ := hsteps ▸ answer_of_run style fresh past _ rest
    have hstate : state (past ++ [.install verbosity]) = _ := state_concat style fresh past _
    rw [hanswer, hstate]
    refine ⟨?_, ?_⟩
    · intro hnone
      have hlogger : (fresh.run style past).1.logger = none := by rw [logger_fresh, hnone]; rfl
      rw [step_install_none hlogger]
      exact ⟨rfl, rfl⟩
    · intro first hfirst
      have hlogger : (fresh.run style past).1.logger = some ⟨first, style⟩ := by
        rw [logger_fresh, hfirst]; rfl
      rw [step_install_some hlogger]
      exact ⟨rfl, rfl⟩
  · intro past level message rest hsteps
    have hanswer : answers[past.length]? = _ := hsteps ▸ answer_of_run style fresh past _ rest
    rw [hanswer, ← verbosity_fresh style]
    rfl
  · intro past rest _
    exact verbosity_fresh style past
  · show (fresh.run style steps).1.written = _
    rw [written_run rfl]
    -- the two styles are spelled out
    cases hstyle : style <;> rfl

end SiteFilter.Logging
