import SiteFilter.Proofs.Run.Agreement
import SiteFilter.Session

/-!
# Runs after a history of runs

Processes that run one after another on the same tree leave filter files behind, beside the site
lists and sometimes on the way to another base directory. None of that reaches a later run: whatever
has run before, it ends as it would have ended at the start.

What is proved:
  1. `past_append`, `kept_history` — a history of runs keeps the tree, filter files apart.
  2. `history_independent` — a run after a history and the same run at the start of it; what the
     history keeps; and the same run twice in succession.
-/

namespace SiteFilter.Session

/-- How the runs of a new process end on a tree. -/
def Invocation.ending (i : Invocation) (t : FileTree) : Process × Output :=
  runs i.around i.arguments i.more (.fresh t)

theorem Invocation.perform_eq (i : Invocation) (t : FileTree) :
    i.perform t = ((i.ending t).1.tree, observed (i.ending t).2) := rfl

/-- The tree that a history of runs leaves. -/
def past (t : FileTree) (history : List Invocation) : FileTree :=
  (run t (history.map .invoke)).1

theorem past_cons (t : FileTree) (i : Invocation) (history : List Invocation) :
    past t (i :: history) = past (i.perform t).1 history := rfl

theorem past_append (t : FileTree) (earlier later : List Invocation) :
    past t (earlier ++ later) = past (past t earlier) later := by
  induction earlier generalizing t with
  | nil => rfl
  | cons i earlier ih =>
    rw [List.cons_append, past_cons, past_cons]
    exact ih _

/-- By induction on the history: every process keeps the tree that it finds. -/
theorem kept_history (t : FileTree) (history : List Invocation) :
    FileTree.Kept t (past t history) := by
  induction history generalizing t with
  | nil => exact .refl t
  | cons i history ih =>
    rw [past_cons, i.perform_eq]
    have hstep : FileTree.Kept t (i.ending t).1.tree :=
      kept_runs i.around i.arguments i.more (.fresh t)
    exact hstep.trans (ih _)

/-- A run after any history of runs has the exit code and the standard output that it has without
this history, and if it succeeds it writes the same file. Along the history nothing disappears, and
only files under the name of the filter file come or change. The same run made twice prints the same
twice, and changes nothing the second time. -/
theorem history_independent (t : FileTree) (history : List Invocation) (i : Invocation) :
    let late := i.ending (past t history)
    let early := i.ending t
    let again := i.ending late.1.tree
    late.2.exitCode = early.2.exitCode ∧ late.2.stdout = early.2.stdout ∧
    (late.2.Succeeded i.arguments →
      ∃ paths contents, SitePaths.resolve i.around.environment = .ok paths ∧
        late.1.tree.read paths.filterFile = .ok contents ∧
        early.1.tree.read paths.filterFile = .ok contents) ∧
    (∀ earlier later, history = earlier ++ later →
      FileTree.Kept (past t earlier) (past t history)) ∧
    again.2 = late.2 ∧ again.1.tree = late.1.tree := by
  intro late early again
  have hagree : FileTree.AgreeElsewhere (past t history) t :=
    (kept_history t history).toAgreeElsewhere.symm
  have halike : (Process.fresh (past t history)).Alike (.fresh t) := ⟨rfl, hagree⟩
  obtain ⟨_, hout⟩ := alike_runs i.around i.arguments i.more halike
  have hagain : again = late := runs_again i.around i.arguments i.more (past t history)
  refine ⟨hout.exitCode, hout.stdout, ?_, ?_, ?_, ?_⟩
  · intro hsucceeded
    exact same_filterFile_of_succeeded hsucceeded halike
  · intro earlier later hsplit
    subst hsplit
    rw [past_append]
    exact kept_history (past t earlier) later
  · rw [hagain]
  · rw [hagain]

end SiteFilter.Session
