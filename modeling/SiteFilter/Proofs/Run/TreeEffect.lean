import SiteFilter.Proofs.Run.Course
import SiteFilter.Proofs.SitePaths.Siblings

/-!
# What a run does to the tree

A run of its own process writes the filter file, whole, or it changes nothing.

What is proved:
  1. `succeeded_iff_done` — a run has succeeded, and was not asked for a text, exactly if it came to
     its last stage.
  2. `fileReplaced_of_done` — such a run replaced one file by the selection it read from the tree,
     and the site list is not that file.
  3. `run_tree_effect` — the tree after any run, from its exit code.
-/

namespace SiteFilter

/-- The command line asks for a text in place of a run. -/
def CommandLine.AsksForText (arguments : List Bytes) : Prop :=
  ∃ request, CommandLine.read arguments = .error (.request request)

/-- A run that was to work has done it. -/
def Output.Succeeded (out : Output) (arguments : List Bytes) : Prop :=
  out.exitCode = 0 ∧ ¬ CommandLine.AsksForText arguments

variable {around : Surroundings} {arguments : List Bytes} {p p' : Process} {stage : Stage}
  {out : Output}

theorem succeeded_iff_done (h : EndsAt around arguments p stage p' out) :
    out.Succeeded arguments ↔ stage = .done := by
  unfold Output.Succeeded
  by_cases hdone : stage = .done
  · subst hdone
    cases h with
    | done planned =>
      refine iff_of_true ⟨rfl, ?_⟩ rfl
      -- a command line that was accepted asks for no text
      intro hasks
      obtain ⟨request, hrequest⟩ := hasks
      rw [planned.accepted] at hrequest
      cases hrequest
  · by_cases hline : stage = .commandLine
    · subst hline
      cases h with
      | @commandLine stop _ stopped =>
        refine iff_of_false ?_ hdone
        intro hboth
        obtain ⟨hexit, hasks⟩ := hboth
        cases stop with
        | request request =>
          apply hasks
          exact ⟨request, stopped⟩
        | fault fault => exact absurd hexit (by simp [Output.ofStop])
    · refine iff_of_false ?_ hdone
      intro hboth
      exact exitCode_of_endsAt h hdone hline hboth.1

/-- A run that comes to its end has replaced one file, which is not the site list. -/
theorem fileReplaced_of_done (h : EndsAt around arguments p .done p' out) :
    ∃ options paths list s l, CommandLine.read arguments = .ok options ∧
      SitePaths.resolve around.environment = .ok paths ∧
      p.tree.readSiteList paths.siteList = .ok list ∧ select list options.count = .ok s ∧
      p.tree.target paths.filterFile = .ok l ∧
      FileTree.FileReplaced p.tree p'.tree l (Utf8.encode s.contents) := by
  cases h with
  | @done options paths list s after planned hread hselect _ hwrite =>
    obtain ⟨l, htarget, rfl⟩ := FileTree.writeFilters_iff.mp hwrite
    exact ⟨options, paths, list, s, l, planned.accepted, planned.resolved, hread, hselect, htarget,
      FileTree.fileReplaced_of_target htarget _⟩

theorem ofBase_of_resolve {env : Environment} {paths : SitePaths}
    (h : SitePaths.resolve env = .ok paths) : ∃ base, paths = SitePaths.ofBase base := by
  unfold SitePaths.resolve at h
  split at h
  · next base _ =>
    cases h
    exact ⟨base, rfl⟩
  · cases h

theorem read_siteList_of_endsAt (h : EndsAt around arguments p stage p' out) {paths : SitePaths}
    (hpaths : SitePaths.resolve around.environment = .ok paths) :
    p'.tree.read paths.siteList = p.tree.read paths.siteList := by
  by_cases hdone : stage = .done
  · subst hdone
    obtain ⟨_, paths', list, _, l, _, hpaths', hlist, _, htarget, hreplaced⟩ :=
      fileReplaced_of_done h
    rw [hpaths] at hpaths'
    cases hpaths'
    obtain ⟨base, rfl⟩ := ofBase_of_resolve hpaths
    obtain ⟨l', bytes, hlocate, hget, htrailing, _⟩ := FileTree.readSiteList_iff.mp hlist
    have hread : p.tree.read (SitePaths.ofBase base).siteList = .ok bytes :=
      FileTree.read_iff.mpr ⟨l', hlocate, hget, htrailing⟩
    have hne : l' ≠ l := FileTree.target_ne_siteList hlocate htarget
    rw [hread]
    exact hreplaced.read_of_ne hlocate hne hread
  · rw [tree_of_endsAt h hdone]

theorem sameDirectories_of_endsAt (h : EndsAt around arguments p stage p' out) :
    FileTree.SameDirectories p.tree p'.tree := by
  by_cases hdone : stage = .done
  · subst hdone
    obtain ⟨_, _, _, _, _, _, _, _, _, _, hreplaced⟩ := fileReplaced_of_done h
    exact hreplaced.sameDirectories
  · rw [tree_of_endsAt h hdone]
    exact .refl p.tree

/-- A run that succeeds has put the selection it announced into the filter file, in place of all that
was there, and has changed nothing else in the tree. Any other run leaves the tree as it found it. No
run changes what its site list holds, and none makes or removes a directory. -/
theorem run_tree_effect (around : Surroundings) (arguments : List Bytes) (t : FileTree) :
    let after := (run around arguments (.fresh t)).1.tree
    let out := (run around arguments (.fresh t)).2
    (out.Succeeded arguments →
      ∃ options paths list s l, CommandLine.read arguments = .ok options ∧
        SitePaths.resolve around.environment = .ok paths ∧
        t.HoldsText paths.siteList list ∧ select list options.count = .ok s ∧
        after.locate paths.filterFile = .ok l ∧
        after.read paths.filterFile = .ok (Utf8.encode s.contents) ∧
        FileTree.FileReplaced t after l (Utf8.encode s.contents)) ∧
    (¬ out.Succeeded arguments → after = t) ∧
    (∀ paths, SitePaths.resolve around.environment = .ok paths →
      after.read paths.siteList = t.read paths.siteList) ∧
    FileTree.SameDirectories t after := by
  intro after out
  obtain ⟨stage, h⟩ := endsAt_run around arguments (.fresh t)
  refine ⟨?_, ?_, ?_, sameDirectories_of_endsAt h⟩
  · intro hsucceeded
    obtain rfl := (succeeded_iff_done h).mp hsucceeded
    obtain ⟨options, paths, list, s, l, hoptions, hpaths, hlist, hselect, htarget, hreplaced⟩ :=
      fileReplaced_of_done h
    exact ⟨options, paths, list, s, l, hoptions, hpaths, FileTree.readSiteList_iff.mp hlist,
      hselect, hreplaced.locate_target htarget, hreplaced.read_target htarget, hreplaced⟩
  · intro hfailed
    apply tree_of_endsAt h
    intro hdone
    exact hfailed ((succeeded_iff_done h).mpr hdone)
  · intro paths hpaths
    exact read_siteList_of_endsAt h hpaths

end SiteFilter
