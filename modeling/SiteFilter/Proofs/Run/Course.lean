import SiteFilter.Run

/-!
# The course of a run

A run ends at the first stage that stops it, or has written the filter file. `EndsAt` says for every
stage under which circumstances a run ends there, and what it then leaves behind: the process and
the output.

What is proved:
  1. `endsAt_run` — every run ends at some stage.
  2. `EndsAt.eq_run` — and leaves behind what is said of that stage, whatever stage is given. So a
     run has one ending, and what is shown for every stage holds of every run.
  3. `tree_of_endsAt` — only a run that comes to its end changes the tree, by its one write.
-/

namespace SiteFilter

/-- The stages of a run, in their order. -/
inductive Stage where
  | handler
  | commandLine
  | logger
  | paths
  | reading
  | counting
  | interrupt
  | writing
  | done
  deriving DecidableEq, Repr

def Surroundings.plan (around : Surroundings) (options : CommandLine.Options) (paths : SitePaths) :
    Plan :=
  ⟨⟨.upTo options.level, RecordStyle.choose around.environment around.stderrTerminal⟩, paths,
    options.count⟩

/-- The same surroundings, in which no interrupt arrives. -/
def Surroundings.undisturbed (around : Surroundings) : Surroundings :=
  { around with interrupted := false }

/-- The same surroundings, in which an interrupt arrives. -/
def Surroundings.disturbed (around : Surroundings) : Surroundings :=
  { around with interrupted := true }

/-- A run in the process `p` comes to have a plan for these options and paths. -/
structure Planned (around : Surroundings) (arguments : List Bytes) (p : Process)
    (options : CommandLine.Options) (paths : SitePaths) : Prop where
  free : around.handlerTaken = false
  accepted : CommandLine.read arguments = .ok options
  unlogged : p.logger = none
  resolved : SitePaths.resolve around.environment = .ok paths

section
variable (around : Surroundings) (arguments : List Bytes) (p : Process)

/-- A run in the process `p` ends at a stage and leaves a process and an output behind. -/
inductive EndsAt : Stage → Process → Output → Prop where
  | handler :
      around.handlerTaken = true →
      EndsAt .handler p (.stopped (.handlerRefused handlerTakenReason))
  | commandLine {stop : CommandLine.Stop} :
      around.handlerTaken = false → CommandLine.read arguments = .error stop →
      EndsAt .commandLine p (.ofStop stop)
  | logger {options : CommandLine.Options} {current : Logger} :
      around.handlerTaken = false → CommandLine.read arguments = .ok options →
      p.logger = some current →
      EndsAt .logger p (.stopped (.loggerRefused Logger.alreadyInstalled))
  | paths {options : CommandLine.Options} {cause : SitePathsFault} :
      around.handlerTaken = false → CommandLine.read arguments = .ok options → p.logger = none →
      SitePaths.resolve around.environment = .error cause →
      EndsAt .paths
        ⟨some ⟨.upTo options.level,
          RecordStyle.choose around.environment around.stderrTerminal⟩, p.tree⟩
        (.stopped (.pathsUnknown cause))
  | reading {options : CommandLine.Options} {paths : SitePaths} {fault : Fault} :
      Planned around arguments p options paths →
      p.tree.readSiteList paths.siteList = .error fault →
      EndsAt .reading ⟨some (around.plan options paths).logger, p.tree⟩
        ((around.plan options paths).output (.error fault))
  | counting {options : CommandLine.Options} {paths : SitePaths} {list : Text}
      {shortage : Shortage} :
      Planned around arguments p options paths →
      p.tree.readSiteList paths.siteList = .ok list →
      select list options.count = .error shortage →
      EndsAt .counting ⟨some (around.plan options paths).logger, p.tree⟩
        ((around.plan options paths).output (.error (.tooFew shortage)))
  | interrupt {options : CommandLine.Options} {paths : SitePaths} {list : Text} {s : Selection} :
      Planned around arguments p options paths →
      p.tree.readSiteList paths.siteList = .ok list → select list options.count = .ok s →
      around.interrupted = true →
      EndsAt .interrupt ⟨some (around.plan options paths).logger, p.tree⟩
        ((around.plan options paths).output (.error .interrupted))
  | writing {options : CommandLine.Options} {paths : SitePaths} {list : Text} {s : Selection}
      {fault : Fault} :
      Planned around arguments p options paths →
      p.tree.readSiteList paths.siteList = .ok list → select list options.count = .ok s →
      around.interrupted = false →
      p.tree.writeFilters paths.filterFile s.contents = .error fault →
      EndsAt .writing ⟨some (around.plan options paths).logger, p.tree⟩
        ((around.plan options paths).output (.error fault))
  | done {options : CommandLine.Options} {paths : SitePaths} {list : Text} {s : Selection}
      {after : FileTree} :
      Planned around arguments p options paths →
      p.tree.readSiteList paths.siteList = .ok list → select list options.count = .ok s →
      around.interrupted = false →
      p.tree.writeFilters paths.filterFile s.contents = .ok after →
      EndsAt .done ⟨some (around.plan options paths).logger, after⟩
        ((around.plan options paths).output (.ok s))

end

variable {around : Surroundings} {arguments : List Bytes} {p p' : Process} {stage : Stage}
  {out : Output}

/-! ## Runs and their endings -/

theorem prepare_of_planned {options : CommandLine.Options} {paths : SitePaths}
    (h : Planned around arguments p options paths) :
    prepare around arguments p.logger = .ok (around.plan options paths) := by
  simp [prepare, h.free, h.accepted, h.unlogged, h.resolved, Logger.install, Surroundings.plan]

theorem run_of_planned {options : CommandLine.Options} {paths : SitePaths}
    (h : Planned around arguments p options paths) :
    run around arguments p =
      (⟨some (around.plan options paths).logger,
          ((around.plan options paths).carryOut around.interrupted p.tree).2⟩,
        (around.plan options paths).output
          ((around.plan options paths).carryOut around.interrupted p.tree).1) := by
  rw [run, prepare_of_planned h]

theorem EndsAt.eq_run (h : EndsAt around arguments p stage p' out) :
    run around arguments p = (p', out) := by
  cases h with
  | handler taken => simp [run, prepare, taken]
  | commandLine free stopped => simp [run, prepare, free, stopped]
  | logger free accepted logged =>
    -- `prepare` sees the logger of the process alone
    obtain ⟨current, tree⟩ := p
    subst logged
    simp [run, prepare, free, accepted, Logger.install]
  | paths free accepted unlogged unset =>
    simp [run, prepare, free, accepted, unlogged, unset, Logger.install]
  | reading planned hread =>
    rw [run_of_planned planned]
    simp [Plan.carryOut, Plan.selection, Surroundings.plan, hread]
  | counting planned hread hselect =>
    rw [run_of_planned planned]
    simp [Plan.carryOut, Plan.selection, Surroundings.plan, hread, hselect]
  | interrupt planned hread hselect hint =>
    rw [run_of_planned planned]
    simp [Plan.carryOut, Plan.selection, Surroundings.plan, hread, hselect, hint]
  | writing planned hread hselect hint hwrite =>
    rw [run_of_planned planned]
    simp [Plan.carryOut, Plan.selection, Surroundings.plan, hread, hselect, hint, hwrite]
  | done planned hread hselect hint hwrite =>
    rw [run_of_planned planned]
    simp [Plan.carryOut, Plan.selection, Surroundings.plan, hread, hselect, hint, hwrite]

theorem exists_endsAt_of_planned {options : CommandLine.Options} {paths : SitePaths}
    (planned : Planned around arguments p options paths) :
    ∃ stage p' out, EndsAt around arguments p stage p' out := by
  cases hread : p.tree.readSiteList paths.siteList with
  | error fault => exact ⟨_, _, _, .reading planned hread⟩
  | ok list =>
    cases hselect : select list options.count with
    | error shortage => exact ⟨_, _, _, .counting planned hread hselect⟩
    | ok s =>
      cases hint : around.interrupted with
      | true => exact ⟨_, _, _, .interrupt planned hread hselect hint⟩
      | false =>
        cases hwrite : p.tree.writeFilters paths.filterFile s.contents with
        | error fault => exact ⟨_, _, _, .writing planned hread hselect hint hwrite⟩
        | ok after => exact ⟨_, _, _, .done planned hread hselect hint hwrite⟩

theorem exists_endsAt (around : Surroundings) (arguments : List Bytes) (p : Process) :
    ∃ stage p' out, EndsAt around arguments p stage p' out := by
  cases htaken : around.handlerTaken with
  | true => exact ⟨_, _, _, .handler htaken⟩
  | false =>
    cases hread : CommandLine.read arguments with
    | error stop => exact ⟨_, _, _, .commandLine htaken hread⟩
    | ok options =>
      cases hlogger : p.logger with
      | some current => exact ⟨_, _, _, .logger htaken hread hlogger⟩
      | none =>
        cases hpaths : SitePaths.resolve around.environment with
        | error cause => exact ⟨_, _, _, .paths htaken hread hlogger hpaths⟩
        | ok paths => exact exists_endsAt_of_planned ⟨htaken, hread, hlogger, hpaths⟩

theorem endsAt_run (around : Surroundings) (arguments : List Bytes) (p : Process) :
    ∃ stage, EndsAt around arguments p stage (run around arguments p).1
      (run around arguments p).2 := by
  obtain ⟨stage, p', out, h⟩ := exists_endsAt around arguments p
  refine ⟨stage, ?_⟩
  -- what this stage leaves behind is what the run leaves behind
  rw [h.eq_run]
  exact h

/-! ## What a run leaves behind -/

theorem tree_of_endsAt (h : EndsAt around arguments p stage p' out) (hstage : stage ≠ .done) :
    p'.tree = p.tree := by
  cases h with
  | done => exact absurd rfl hstage
  | _ => rfl

theorem exitCode_ne_zero (fault : Fault) : fault.exitCode ≠ 0 := by
  cases fault <;> simp [Fault.exitCode]

theorem exitCode_stopped (fault : Fault) : (Output.stopped fault).exitCode ≠ 0 :=
  exitCode_ne_zero fault

theorem exitCode_output_error (plan : Plan) (fault : Fault) :
    (plan.output (.error fault)).exitCode ≠ 0 :=
  exitCode_ne_zero fault

/-- A run that a fault stopped has not succeeded. -/
theorem exitCode_of_endsAt (h : EndsAt around arguments p stage p' out)
    (hstage : stage ≠ .done) (hline : stage ≠ .commandLine) : out.exitCode ≠ 0 := by
  cases h with
  | commandLine => exact absurd rfl hline
  | done => exact absurd rfl hstage
  | handler | logger | paths => exact exitCode_stopped _
  | reading | counting | interrupt | writing => exact exitCode_output_error _ _

end SiteFilter
