import SiteFilter.Proofs.Run.Interrupt
import SiteFilter.Proofs.Run.Repetition
import SiteFilter.Proofs.Run.TreeEffect
import SiteFilter.Proofs.SitePaths.FilterFiles

/-!
# Runs on trees that agree

A run reads one site list and asks where directories are. On two trees that differ in filter files
only it ends at the same stage, with the same exit code and the same standard output, and if it
writes, it writes the same file. What it says on standard error may differ: a base directory that
leads through a filter file fails for another reason where that file is missing.

What is proved:
  1. `EndsAt.alike` — the ending of a run on one tree, carried over to the other.
  2. `alike_runs`, `same_filterFile_of_succeeded` — the same for all runs of a process together.
  3. `kept_runs` — the runs of a process keep the tree, filter files apart.
  4. `EndsAt.again`, `runs_again` — on the tree that it left, a process does and prints what it did
     before.
-/

namespace SiteFilter

/-- Two processes that a run cannot tell apart. -/
structure Process.Alike (p q : Process) : Prop where
  logger : p.logger = q.logger
  tree : p.tree.AgreeElsewhere q.tree

/-- Two outputs that differ on standard error at most. -/
structure Output.Alike (a b : Output) : Prop where
  exitCode : a.exitCode = b.exitCode
  stdout : a.stdout = b.stdout

theorem Output.Alike.refl (a : Output) : a.Alike a := ⟨rfl, rfl⟩

theorem Output.Alike.succeeded {a b : Output} (h : a.Alike b) {arguments : List Bytes}
    (ha : a.Succeeded arguments) : b.Succeeded arguments :=
  ⟨h.exitCode.symm.trans ha.1, ha.2⟩

variable {around : Surroundings} {arguments : List Bytes} {p p' q q' : Process} {stage : Stage}
  {out out' : Output} {t u : FileTree}

/-! ## One run -/

theorem Planned.alike {options : CommandLine.Options} {paths : SitePaths}
    (h : Planned around arguments p options paths) (hlogger : p.logger = q.logger) :
    Planned around arguments q options paths :=
  ⟨h.free, h.accepted, hlogger ▸ h.unlogged, h.resolved⟩

theorem Planned.readSiteList {options : CommandLine.Options} {paths : SitePaths}
    (h : Planned around arguments p options paths) (htree : t.AgreeElsewhere u) {list : Text}
    (hread : t.readSiteList paths.siteList = .ok list) :
    u.readSiteList paths.siteList = .ok list := by
  obtain ⟨base, rfl⟩ := ofBase_of_resolve h.resolved
  exact htree.readSiteList.mp hread

/-- A plan fails alike whatever is the reason that a file cannot be read or written. -/
theorem alike_output_error (plan : Plan) {fault fault' : Fault} (h : fault.exitCode = 1)
    (h' : fault'.exitCode = 1) :
    (plan.output (.error fault)).Alike (plan.output (.error fault')) :=
  ⟨h.trans h'.symm, rfl⟩

/-- One case for every stage. Where a file cannot be read or written on one tree, it cannot on the
other, because success would carry over in the other direction. -/
theorem EndsAt.alike (h : EndsAt around arguments p stage p' out) (hpq : p.Alike q) :
    ∃ q' out', EndsAt around arguments q stage q' out' ∧ p'.Alike q' ∧ out.Alike out' := by
  have hlogger := hpq.logger
  have htree := hpq.tree
  cases h with
  | handler taken => exact ⟨_, _, .handler taken, hpq, .refl _⟩
  | commandLine free stopped => exact ⟨_, _, .commandLine free stopped, hpq, .refl _⟩
  | logger free accepted logged =>
    rw [hlogger] at logged
    exact ⟨_, _, .logger free accepted logged, hpq, .refl _⟩
  | paths free accepted unlogged unset =>
    rw [hlogger] at unlogged
    exact ⟨_, _, .paths free accepted unlogged unset, ⟨rfl, htree⟩, .refl _⟩
  | @reading options paths fault planned hread =>
    cases hread' : q.tree.readSiteList paths.siteList with
    | ok list =>
      have hback := planned.readSiteList htree.symm hread'
      rw [hread] at hback
      cases hback
    | error fault' =>
      obtain ⟨reason, rfl⟩ := FileTree.readSiteList_error hread
      obtain ⟨reason', rfl⟩ := FileTree.readSiteList_error hread'
      exact ⟨_, _, .reading (planned.alike hlogger) hread', ⟨rfl, htree⟩,
        alike_output_error _ rfl rfl⟩
  | counting planned hread hselect =>
    have hread' := planned.readSiteList htree hread
    exact ⟨_, _, .counting (planned.alike hlogger) hread' hselect, ⟨rfl, htree⟩, .refl _⟩
  | interrupt planned hread hselect hint =>
    have hread' := planned.readSiteList htree hread
    exact ⟨_, _, .interrupt (planned.alike hlogger) hread' hselect hint, ⟨rfl, htree⟩, .refl _⟩
  | @writing options paths list s fault planned hread hselect hint hwrite =>
    have hread' := planned.readSiteList htree hread
    cases hwrite' : q.tree.writeFilters paths.filterFile s.contents with
    | ok after =>
      obtain ⟨l, htarget, _⟩ := FileTree.writeFilters_iff.mp hwrite'
      have hback := FileTree.writeFilters_of_target (htree.target.mpr htarget) s.contents
      rw [hwrite] at hback
      cases hback
    | error fault' =>
      obtain ⟨reason, rfl⟩ := FileTree.writeFilters_error hwrite
      obtain ⟨reason', rfl⟩ := FileTree.writeFilters_error hwrite'
      exact ⟨_, _, .writing (planned.alike hlogger) hread' hselect hint hwrite', ⟨rfl, htree⟩,
        alike_output_error _ rfl rfl⟩
  | @done options paths list s after planned hread hselect hint hwrite =>
    have hread' := planned.readSiteList htree hread
    obtain ⟨l, htarget, rfl⟩ := FileTree.writeFilters_iff.mp hwrite
    have htarget' := htree.target.mp htarget
    have hwrite' := FileTree.writeFilters_of_target htarget' s.contents
    refine ⟨_, _, .done (planned.alike hlogger) hread' hselect hint hwrite', ⟨rfl, ?_⟩, .refl _⟩
    -- both trees have changed at one filter file
    obtain ⟨base, rfl⟩ := ofBase_of_resolve planned.resolved
    have hl := FileTree.getLast?_of_target htarget
    have hafter :=
      (FileTree.fileReplaced_of_target htarget (Utf8.encode s.contents)).agreeElsewhere hl
    have hafter' :=
      (FileTree.fileReplaced_of_target htarget' (Utf8.encode s.contents)).agreeElsewhere hl
    exact hafter.symm.trans (htree.trans hafter')

theorem alike_run (around : Surroundings) (arguments : List Bytes) (hpq : p.Alike q) :
    (run around arguments p).1.Alike (run around arguments q).1 ∧
      (run around arguments p).2.Alike (run around arguments q).2 := by
  obtain ⟨stage, h⟩ := endsAt_run around arguments p
  obtain ⟨q', out', h', hprocess, hout⟩ := h.alike hpq
  rw [h'.eq_run]
  exact ⟨hprocess, hout⟩

theorem kept_of_endsAt (h : EndsAt around arguments p stage p' out) :
    FileTree.Kept p.tree p'.tree := by
  by_cases hdone : stage = .done
  · subst hdone
    obtain ⟨_, paths, _, _, l, _, hpaths, _, _, htarget, hreplaced⟩ := fileReplaced_of_done h
    obtain ⟨base, rfl⟩ := ofBase_of_resolve hpaths
    exact hreplaced.kept (FileTree.getLast?_of_target htarget)
  · rw [tree_of_endsAt h hdone]
    exact .refl _

/-- Two runs that come to their end on trees that agree have written the same. -/
theorem same_filterFile_of_done (h : EndsAt around arguments p .done p' out)
    (h' : EndsAt around arguments q .done q' out') (hpq : p.Alike q) :
    ∃ paths contents, SitePaths.resolve around.environment = .ok paths ∧
      p'.tree.read paths.filterFile = .ok contents ∧
      q'.tree.read paths.filterFile = .ok contents := by
  cases h with
  | @done options paths list s after planned hread hselect _ hwrite =>
    obtain ⟨l, htarget, rfl⟩ := FileTree.writeFilters_iff.mp hwrite
    have hread' := planned.readSiteList hpq.tree hread
    obtain ⟨options', paths', list', s', l', hoptions, hpaths, hlist, hselect', htarget',
      hreplaced'⟩ := fileReplaced_of_done h'
    -- the second run has the same options and paths, reads the same list and selects the same
    rw [planned.accepted] at hoptions
    cases hoptions
    rw [planned.resolved] at hpaths
    cases hpaths
    rw [hread'] at hlist
    cases hlist
    rw [hselect] at hselect'
    cases hselect'
    exact ⟨paths, Utf8.encode s.contents, planned.resolved,
      (FileTree.fileReplaced_of_target htarget _).read_target htarget,
      hreplaced'.read_target htarget'⟩

/-! ## All runs of a process -/

theorem Output.Alike.followedBy {first first' again again' : Output} (hfirst : first.Alike first')
    (hagain : again.Alike again') (more : Nat) :
    (first.followedBy more again).Alike (first'.followedBy more again') := by
  refine ⟨?_, ?_⟩
  · simp only [Output.followedBy, hfirst.exitCode, hagain.exitCode]
  · simp only [Output.followedBy, hfirst.stdout, hagain.stdout]

theorem alike_runs (around : Surroundings) (arguments : List Bytes) (more : Nat)
    (hpq : p.Alike q) :
    (runs around arguments more p).1.Alike (runs around arguments more q).1 ∧
      (runs around arguments more p).2.Alike (runs around arguments more q).2 := by
  obtain ⟨hprocess, hfirst⟩ := alike_run around arguments hpq
  obtain ⟨_, hagain⟩ := alike_run around arguments hprocess
  rw [runs_eq, runs_eq]
  exact ⟨hprocess, hfirst.followedBy hagain more⟩

theorem kept_runs (around : Surroundings) (arguments : List Bytes) (more : Nat) (p : Process) :
    FileTree.Kept p.tree (runs around arguments more p).1.tree := by
  obtain ⟨stage, h⟩ := endsAt_run around arguments p
  rw [runs_eq]
  exact kept_of_endsAt h

/-- A second run of a process would be refused its logger, so it never succeeds. -/
theorem not_succeeded_of_again (around : Surroundings) (arguments : List Bytes) (p : Process) :
    ¬ (run around arguments (run around arguments p).1).2.Succeeded arguments := by
  intro hsucceeded
  obtain ⟨stage, h⟩ := endsAt_run around arguments (run around arguments p).1
  obtain rfl := (succeeded_iff_done h).mp hsucceeded
  obtain ⟨_, _, _, _, planned, _⟩ := exists_selection_of_writes h (.inr rfl)
  obtain ⟨current, hlogger⟩ := logger_of_run planned.free planned.accepted p
  have hunlogged := planned.unlogged
  rw [hlogger] at hunlogged
  cases hunlogged

theorem more_of_succeeded {more : Nat}
    (h : (runs around arguments more p).2.Succeeded arguments) : more = 0 := by
  cases more with
  | zero => rfl
  | succ more =>
    rw [runs_eq] at h
    exact absurd ⟨h.1, h.2⟩ (not_succeeded_of_again around arguments p)

theorem same_filterFile_of_succeeded {more : Nat}
    (h : (runs around arguments more p).2.Succeeded arguments) (hpq : p.Alike q) :
    ∃ paths contents, SitePaths.resolve around.environment = .ok paths ∧
      (runs around arguments more p).1.tree.read paths.filterFile = .ok contents ∧
      (runs around arguments more q).1.tree.read paths.filterFile = .ok contents := by
  obtain rfl := more_of_succeeded h
  obtain ⟨stage, hends⟩ := endsAt_run around arguments p
  obtain ⟨stage', hends'⟩ := endsAt_run around arguments q
  have hout := (alike_run around arguments hpq).2
  obtain rfl := (succeeded_iff_done hends).mp h
  obtain rfl := (succeeded_iff_done hends').mp (hout.succeeded h)
  exact same_filterFile_of_done hends hends' hpq

/-! ## The same run again -/

/-- A new process on the tree that a run left comes to the same end, with nothing left to change. -/
theorem EndsAt.again (h : EndsAt around arguments (.fresh t) stage p' out) :
    EndsAt around arguments (.fresh p'.tree) stage p' out := by
  have hkept : t.AgreeElsewhere p'.tree := (kept_of_endsAt h).toAgreeElsewhere
  by_cases hdone : stage = .done
  · subst hdone
    cases h with
    | @done options paths list s after planned hread hselect hint hwrite =>
      obtain ⟨l, htarget, rfl⟩ := FileTree.writeFilters_iff.mp hwrite
      have hreplaced := FileTree.fileReplaced_of_target htarget (Utf8.encode s.contents)
      have hread' := planned.readSiteList hkept hread
      have hwrite' := FileTree.writeFilters_of_target (hkept.target.mp htarget) s.contents
      -- what is to be written stands there already
      rw [hreplaced.put_again] at hwrite'
      exact .done ⟨planned.free, planned.accepted, rfl, planned.resolved⟩ hread' hselect hint hwrite'
  · rw [tree_of_endsAt h hdone]
    exact h

theorem run_again (around : Surroundings) (arguments : List Bytes) (t : FileTree) :
    run around arguments (.fresh (run around arguments (.fresh t)).1.tree) =
      run around arguments (.fresh t) := by
  obtain ⟨stage, h⟩ := endsAt_run around arguments (.fresh t)
  exact h.again.eq_run

theorem runs_again (around : Surroundings) (arguments : List Bytes) (more : Nat) (t : FileTree) :
    runs around arguments more (.fresh (runs around arguments more (.fresh t)).1.tree) =
      runs around arguments more (.fresh t) := by
  have htree : (runs around arguments more (.fresh t)).1.tree =
      (run around arguments (.fresh t)).1.tree := by rw [runs_eq]
  rw [htree, runs_eq, runs_eq, run_again]

end SiteFilter
