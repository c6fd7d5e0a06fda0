import SiteFilter.Proofs.Run.Outcome

/-!
# The same run with and without an interrupt

An interrupt that arrives once a run has announced its plan is looked for at one point: when there is
a selection to be written. A run that ends before that point does not see it, and a run that comes to
that point writes nothing.

What is proved:
  1. `EndsAt.disturbed` — a run that ends before the point ends alike with an interrupt.
  2. `run_disturbed` — a run that would have written, or tried to, ends with the interrupt.
  3. `interrupt_two_runs` — both, as a law on the two runs.
-/

namespace SiteFilter

/-- The stages that come after an interrupt is looked for. -/
def Stage.Writes (stage : Stage) : Prop := stage = .writing ∨ stage = .done

variable {around : Surroundings} {arguments : List Bytes} {p p' : Process} {stage : Stage}
  {out : Output}

theorem Planned.disturbed {options : CommandLine.Options} {paths : SitePaths}
    (h : Planned around.undisturbed arguments p options paths) :
    Planned around.disturbed arguments p options paths :=
  ⟨h.free, h.accepted, h.unlogged, h.resolved⟩

theorem EndsAt.disturbed (h : EndsAt around.undisturbed arguments p stage p' out)
    (hstage : ¬ stage.Writes) : EndsAt around.disturbed arguments p stage p' out := by
  cases h with
  | handler taken => exact .handler taken
  | commandLine free stopped => exact .commandLine free stopped
  | logger free accepted logged => exact .logger free accepted logged
  | paths free accepted unlogged unset => exact .paths free accepted unlogged unset
  | reading planned hread => exact .reading planned.disturbed hread
  | counting planned hread hselect => exact .counting planned.disturbed hread hselect
  | interrupt planned hread hselect hint => cases hint
  | writing => exact absurd (.inl rfl) hstage
  | done => exact absurd (.inr rfl) hstage

/-- A run that comes to write has a plan and a selection. -/
theorem exists_selection_of_writes (h : EndsAt around arguments p stage p' out)
    (hstage : stage.Writes) :
    ∃ options paths list s, Planned around arguments p options paths ∧
      p.tree.readSiteList paths.siteList = .ok list ∧ select list options.count = .ok s ∧
      out.stdout = countLine options := by
  cases h with
  | writing planned hread hselect _ _ => exact ⟨_, _, _, _, planned, hread, hselect, rfl⟩
  | done planned hread hselect _ _ => exact ⟨_, _, _, _, planned, hread, hselect, rfl⟩
  | _ => exact absurd hstage (by simp [Stage.Writes])

theorem run_disturbed {options : CommandLine.Options} {paths : SitePaths} {list : Text}
    {s : Selection} (planned : Planned around.disturbed arguments p options paths)
    (hread : p.tree.readSiteList paths.siteList = .ok list)
    (hselect : select list options.count = .ok s) :
    (run around.disturbed arguments p).1.tree = p.tree ∧
      (run around.disturbed arguments p).2 =
        ⟨130, countLine options, filesRecord around options paths ++
          "runtime error: operation interrupted by SIGINT\n".toList⟩ := by
  have ends := EndsAt.interrupt planned hread hselect rfl
  rw [ends.eq_run]
  refine ⟨rfl, ?_⟩
  show Output.mk 130 (countLine options)
    ((around.disturbed.plan options paths).openingRecord ++ Output.reportLine .interrupted) = _
  rw [openingRecord_plan]
  rfl

/-- A run that ends before it comes to write is the same with an interrupt. A run that would have
written the filter file, or failed to, is stopped by the interrupt, with the tree as it was. -/
theorem interrupt_two_runs (around : Surroundings) (arguments : List Bytes) (t : FileTree) :
    let quiet := run around.undisturbed arguments (.fresh t)
    let broken := run around.disturbed arguments (.fresh t)
    (∃ stage, EndsAt around.undisturbed arguments (.fresh t) stage quiet.1 quiet.2) ∧
    ∀ stage, EndsAt around.undisturbed arguments (.fresh t) stage quiet.1 quiet.2 →
      (¬ stage.Writes → broken = quiet) ∧
      (stage.Writes →
        ∃ options paths, CommandLine.read arguments = .ok options ∧
          SitePaths.resolve around.environment = .ok paths ∧ broken.1.tree = t ∧
          broken.2 = ⟨130, quiet.2.stdout, filesRecord around options paths ++
            "runtime error: operation interrupted by SIGINT\n".toList⟩) := by
  intro quiet broken
  refine ⟨endsAt_run around.undisturbed arguments (.fresh t), ?_⟩
  intro stage h
  refine ⟨?_, ?_⟩
  · intro hstage
    exact (h.disturbed hstage).eq_run
  · intro hstage
    obtain ⟨options, paths, list, s, planned, hread, hselect, hstdout⟩ :=
      exists_selection_of_writes h hstage
    obtain ⟨htree, hout⟩ := run_disturbed planned.disturbed hread hselect
    refine ⟨options, paths, planned.accepted, planned.resolved, htree, ?_⟩
    rw [hstdout]
    exact hout

end SiteFilter
