import SiteFilter.Proofs.CommandLine.Requests
import SiteFilter.Proofs.Run.Course
import SiteFilter.Proofs.Run.Reports
import SiteFilter.Proofs.SitePaths.Siblings

/-!
# The outcome of an undisturbed run

What can keep a run from its work is tested in one order, and the first thing that does decides what
the run reports, word for word, whatever else is wrong.

`Classified` says so from the circumstances alone: the handler, the command line, the variables, the
file under the site list's path, the number of its records, and whether the filter file is blocked.
When it is blocked is a parameter.

What is proved:
  1. `outcome_classified` — every run is classified, with a filter file that is blocked by a
     directory of its name or by the length of its path.
  2. `outcome_unclassified_by_directory` — the length cannot be left out: a base directory may be
     long enough for the path of the filter file to be refused, and short enough for the site list
     to be read.
-/

namespace SiteFilter

/-- The log record that names the two files. -/
def filesRecord (around : Surroundings) (options : CommandLine.Options) (paths : SitePaths) : Text :=
  if options.level = .debug ∨ options.level = .trace then
    (RecordStyle.choose around.environment around.stderrTerminal).line .debug
      ("site list ".toList ++ paths.siteList.display ++ " -> filter file ".toList ++
        paths.filterFile.display)
  else []

def countLine (options : CommandLine.Options) : Text :=
  "Generating ".toList ++ decimal options.count ++ " filters\n".toList

def NamesBase (env : Environment) (base : Path) : Prop :=
  env.setting? SitePaths.rootVariable = some base ∨
    (env.setting? SitePaths.rootVariable = none ∧ env.setting? SitePaths.homeVariable = some base)

/-- The output of a run that came to know its paths, decided by what the tree holds. -/
def FilesDecide (blocked : FileTree → Path → Prop) (around : Surroundings)
    (options : CommandLine.Options) (paths : SitePaths) (t : FileTree) (out : Output) : Prop :=
  ((∀ list, ¬ t.HoldsText paths.siteList list) →
    ∃ reason, out.Reports (countLine options) (filesRecord around options paths)
      (.unreadable paths.siteList reason)) ∧
  ∀ list, t.HoldsText paths.siteList list →
    ((records list).length < options.count →
      out.Reports (countLine options) (filesRecord around options paths)
        (.tooFew ⟨options.count, (records list).length⟩)) ∧
    (options.count ≤ (records list).length →
      (blocked t paths.filterFile →
        ∃ reason, out.Reports (countLine options) (filesRecord around options paths)
          (.unwritable paths.filterFile reason)) ∧
      (¬ blocked t paths.filterFile → out.exitCode = 0 ∧ out.stdout = countLine options))

/-- The output of a run without an interrupt is that of the first thing that stops it. -/
def Classified (blocked : FileTree → Path → Prop) (around : Surroundings) (arguments : List Bytes)
    (t : FileTree) : Prop :=
  let out := (run around.undisturbed arguments (.fresh t)).2
  (around.handlerTaken = true →
    out.Reports [] []
      (.handlerRefused "Ctrl-C error: Ctrl-C signal handler already registered".toList)) ∧
  (around.handlerTaken = false →
    (∀ request, CommandLine.read arguments = .error (.request request) →
      ∃ shown, CommandLine.Prints request shown ∧ out = ⟨0, shown, []⟩) ∧
    (∀ fault, CommandLine.read arguments = .error (.fault fault) →
      out.exitCode = 2 ∧ out.stdout = []) ∧
    ∀ options, CommandLine.read arguments = .ok options →
      ((∀ base, ¬ NamesBase around.environment base) →
        out.Reports [] [] (.pathsUnknown .baseUnset)) ∧
      ∀ base, NamesBase around.environment base →
        FilesDecide blocked around options (.ofBase base) t out)

/-- A filter file cannot be written where a directory has its name, nor under too long a path. -/
def FileTree.Blocked (t : FileTree) (p : Path) : Prop :=
  pathLimit < p.length ∨ t.LeadsToDirectory p

/-! ## Base directories -/

theorem resolve_iff_namesBase {env : Environment} {paths : SitePaths} :
    SitePaths.resolve env = .ok paths ↔
      ∃ base, NamesBase env base ∧ paths = SitePaths.ofBase base := by
  unfold SitePaths.resolve SitePaths.base? NamesBase
  cases env.setting? SitePaths.rootVariable with
  | some root => simp [eq_comm]
  | none =>
    cases env.setting? SitePaths.homeVariable with
    | some home => simp [eq_comm]
    | none => simp

theorem resolve_of_namesNone {env : Environment} (h : ∀ base, ¬ NamesBase env base) :
    SitePaths.resolve env = .error .baseUnset := by
  cases hresolve : SitePaths.resolve env with
  | error cause => rfl
  | ok paths =>
    obtain ⟨base, hbase, _⟩ := resolve_iff_namesBase.mp hresolve
    exact absurd hbase (h base)

/-! ## The output at each stage -/

variable {around : Surroundings} {arguments : List Bytes} {t : FileTree}
  {options : CommandLine.Options} {paths : SitePaths}

theorem openingRecord_plan (around : Surroundings) (options : CommandLine.Options)
    (paths : SitePaths) :
    (around.plan options paths).openingRecord = filesRecord around options paths := by
  unfold Plan.openingRecord Logger.record filesRecord
  cases hlevel : options.level <;> simp [Surroundings.plan, hlevel, Verbosity.admits, Level.rank]

theorem reports_output {fault : Fault} (h : fault ≠ .interrupted) (around : Surroundings)
    (options : CommandLine.Options) (paths : SitePaths) :
    ((around.plan options paths).output (.error fault)).Reports (countLine options)
      (filesRecord around options paths) fault := by
  refine ⟨exitCode_eq_one h, rfl, _, worded_report fault, ?_⟩
  show (around.plan options paths).openingRecord ++ (fault.report ++ ['\n']) = _
  rw [openingRecord_plan, List.append_assoc]

theorem reports_unreadable (planned : Planned around arguments (.fresh t) options paths)
    (h : ∀ list, ¬ t.HoldsText paths.siteList list) :
    ∃ reason, (run around arguments (.fresh t)).2.Reports (countLine options)
      (filesRecord around options paths) (.unreadable paths.siteList reason) := by
  cases hread : t.readSiteList paths.siteList with
  | ok list => exact absurd (FileTree.readSiteList_iff.mp hread) (h list)
  | error fault =>
    obtain ⟨reason, rfl⟩ := FileTree.readSiteList_error hread
    have hrun := (EndsAt.reading planned hread).eq_run
    refine ⟨reason, ?_⟩
    rw [hrun]
    apply reports_output
    simp

theorem reports_tooFew (planned : Planned around arguments (.fresh t) options paths) {list : Text}
    (hlist : t.HoldsText paths.siteList list) (h : (records list).length < options.count) :
    (run around arguments (.fresh t)).2.Reports (countLine options)
      (filesRecord around options paths) (.tooFew ⟨options.count, (records list).length⟩) := by
  have hread : t.readSiteList paths.siteList = .ok list := FileTree.readSiteList_iff.mpr hlist
  have hselect : select list options.count = .error ⟨options.count, (records list).length⟩ :=
    select_eq_error_iff.mpr ⟨h, rfl⟩
  have hrun := (EndsAt.counting planned hread hselect).eq_run
  rw [hrun]
  apply reports_output
  simp

theorem reports_unwritable (planned : Planned around arguments (.fresh t) options paths)
    (quiet : around.interrupted = false) {list : Text} (hlist : t.HoldsText paths.siteList list)
    (hcount : options.count ≤ (records list).length)
    (h : ∀ text after, t.writeFilters paths.filterFile text ≠ .ok after) :
    ∃ reason, (run around arguments (.fresh t)).2.Reports (countLine options)
      (filesRecord around options paths) (.unwritable paths.filterFile reason) := by
  have hread := FileTree.readSiteList_iff.mpr hlist
  have hselect := select_eq_ok_iff.mpr ⟨hcount, rfl⟩
  cases hwrite : t.writeFilters paths.filterFile (joinLines ((filters list).take options.count)) with
  | ok after => exact absurd hwrite (h _ after)
  | error fault =>
    obtain ⟨reason, rfl⟩ := FileTree.writeFilters_error hwrite
    have hrun := (EndsAt.writing planned hread hselect quiet hwrite).eq_run
    refine ⟨reason, ?_⟩
    rw [hrun]
    apply reports_output
    simp

theorem output_done (planned : Planned around arguments (.fresh t) options paths)
    (quiet : around.interrupted = false) {list : Text} (hlist : t.HoldsText paths.siteList list)
    (hcount : options.count ≤ (records list).length)
    (h : ∀ text, ∃ after, t.writeFilters paths.filterFile text = .ok after) :
    (run around arguments (.fresh t)).2.exitCode = 0 ∧
      (run around arguments (.fresh t)).2.stdout = countLine options := by
  have hread := FileTree.readSiteList_iff.mpr hlist
  have hselect := select_eq_ok_iff.mpr ⟨hcount, rfl⟩
  obtain ⟨after, hwrite⟩ := h (joinLines ((filters list).take options.count))
  have hrun := (EndsAt.done planned hread hselect quiet hwrite).eq_run
  rw [hrun]
  exact ⟨rfl, rfl⟩

theorem writes_iff_not_blocked {base : Path} {list : Text}
    (hlist : t.HoldsText (SitePaths.ofBase base).siteList list) (text : Text) :
    (∃ after, t.writeFilters (SitePaths.ofBase base).filterFile text = .ok after) ↔
      ¬ t.Blocked (SitePaths.ofBase base).filterFile := by
  rw [FileTree.writeFilters_beside_siteList (FileTree.readSiteList_iff.mpr hlist)]
  unfold FileTree.Blocked
  rw [not_or, Nat.not_lt]

/-! ## The classification -/

theorem filesDecide_run {base : Path}
    (planned : Planned around arguments (.fresh t) options (.ofBase base))
    (quiet : around.interrupted = false) :
    FilesDecide FileTree.Blocked around options (.ofBase base) t
      (run around arguments (.fresh t)).2 := by
  refine ⟨reports_unreadable planned, ?_⟩
  intro list hlist
  refine ⟨reports_tooFew planned hlist, ?_⟩
  intro hcount
  constructor
  · intro hblocked
    apply reports_unwritable planned quiet hlist hcount
    intro text after hwrite
    exact (writes_iff_not_blocked hlist text).mp ⟨after, hwrite⟩ hblocked
  · intro hfree
    apply output_done planned quiet hlist hcount
    intro text
    exact (writes_iff_not_blocked hlist text).mpr hfree

/-- Every undisturbed run is classified, by a filter file that a directory or the length of its path
blocks. -/
theorem outcome_classified (around : Surroundings) (arguments : List Bytes) (t : FileTree) :
    Classified FileTree.Blocked around arguments t := by
  -- the stages in their order: in each case it is known where the run ends, or how it goes on
  refine ⟨?_, ?_⟩
  · intro taken
    have ends : EndsAt around.undisturbed arguments (.fresh t) _ _ _ := .handler taken
    rw [ends.eq_run]
    apply reports_stopped
    simp
  · intro free
    refine ⟨?_, ?_, ?_⟩
    · intro request hrequest
      have ends : EndsAt around.undisturbed arguments (.fresh t) _ _ _ := .commandLine free hrequest
      rw [ends.eq_run]
      exact ⟨_, CommandLine.prints_text request, rfl⟩
    · intro fault hfault
      have ends : EndsAt around.undisturbed arguments (.fresh t) _ _ _ := .commandLine free hfault
      rw [ends.eq_run]
      exact ⟨rfl, rfl⟩
    · intro options hoptions
      refine ⟨?_, ?_⟩
      · intro hnone
        have ends : EndsAt around.undisturbed arguments (.fresh t) _ _ _ :=
          .paths free hoptions rfl (resolve_of_namesNone hnone)
        rw [ends.eq_run]
        apply reports_stopped
        simp
      · intro base hbase
        have planned : Planned around.undisturbed arguments (.fresh t) options (.ofBase base) :=
          ⟨free, hoptions, rfl, resolve_iff_namesBase.mpr ⟨base, hbase, rfl⟩⟩
        exact filesDecide_run planned rfl

/-! ## A base directory that is read from but cannot be written to -/

/-- The directory of the walk's start, with slashes behind it. -/
def slashedBase (n : Nat) : Path := dot :: List.replicate n slash

theorem components_slashedBase (n : Nat) : (slashedBase n).components = [.here] := by
  induction n with
  | zero => rfl
  | succ n ih =>
    have split : slashedBase (n + 1) = slashedBase n ++ slash :: [] := by
      unfold slashedBase
      rw [List.replicate_succ', List.cons_append]
    rw [split, Path.components_append_slash, ih, Path.components_nil, List.append_nil]

theorem length_join_slashedBase (n : Nat) (name : Name) :
    ((slashedBase (n + 1)).join name).length = n + 2 + name.length := by
  have hlast : (slashedBase (n + 1)).getLast? = some slash := by
    unfold slashedBase
    rw [List.replicate_succ', ← List.cons_append, List.getLast?_concat]
  unfold Path.join
  rw [if_pos (.inr hlast)]
  simp only [slashedBase, List.length_append, List.length_cons, List.length_replicate]

theorem approach_slashedBase {t : FileTree} {name : Name} (h : IsFileName name) (n : Nat)
    {directory : Location} :
    t.approach ((slashedBase (n + 1)).join name) = .ok directory ↔
      n + 2 + name.length ≤ pathLimit ∧ directory = t.working := by
  have hzero : 0 ∉ slashedBase (n + 1) := by
    simp [slashedBase, dot, slash, List.mem_replicate]
  have hhead : (slashedBase (n + 1)).head? ≠ some slash := by
    show some dot ≠ some slash
    decide
  have hwalk : t.walk t.working [.here] = .ok t.working := by
    rw [FileTree.walk, FileTree.step]
    simp only [FileTree.get?_on_way (List.prefix_refl t.working)]
    rfl
  rw [FileTree.approach_join_iff h, components_slashedBase, length_join_slashedBase,
    if_neg hhead, hwalk]
  simp [hzero, eq_comm]

theorem namesBase_slashedBase (n : Nat) :
    NamesBase ⟨[(SitePaths.rootVariable, slashedBase n)]⟩ (slashedBase n) := by
  have hblank : Environment.isBlankValue (slashedBase n) = false := by
    -- the first byte is no white space, whatever follows
    unfold Environment.isBlankValue Utf8.lossy slashedBase
    rw [Utf8.scan.eq_def]
    rfl
  left
  simp [Environment.setting?, Environment.get?, hblank]

/-- What a run finds whose base directory has `n` slashes behind it. -/
def slashedSurroundings (n : Nat) : Surroundings :=
  ⟨⟨[(SitePaths.rootVariable, slashedBase n)]⟩, false, false, false⟩

/-- A tree with a site list of one record and nothing else. -/
def oneRecordTree : FileTree :=
  ⟨[([SitePaths.siteListName], .file (Utf8.encode "a.example\n".toList))], []⟩

theorem holdsText_slashedBase {n : Nat} (h : n + 2 + SitePaths.siteListName.length ≤ pathLimit) :
    oneRecordTree.HoldsText (SitePaths.ofBase (slashedBase (n + 1))).siteList
      "a.example\n".toList := by
  have happroach := (approach_slashedBase (t := oneRecordTree) isFileName_siteList n).mpr ⟨h, rfl⟩
  refine ⟨[SitePaths.siteListName], _, ?_, rfl, ?_, Utf8.decode?_encode _⟩
  · apply (FileTree.locate_join_iff isFileName_siteList).mpr
    exact ⟨[], _, happroach, rfl, rfl⟩
  · show ((slashedBase (n + 1)).join SitePaths.siteListName).route.trailing = false
    rw [Path.route_join isFileName_siteList]

/-- The path of the site list is short enough and that of the filter file too long, so a run fails
though no directory is in its way. -/
theorem not_classified_slashedBase {n : Nat}
    (hshort : n + 2 + SitePaths.siteListName.length ≤ pathLimit)
    (hlong : pathLimit < n + 2 + SitePaths.filterFileName.length) :
    ¬ Classified FileTree.LeadsToDirectory (slashedSurroundings (n + 1))
      [Utf8.encode "-n1".toList] oneRecordTree := by
  intro h
  have hoptions : CommandLine.read [Utf8.encode "-n1".toList] = .ok ⟨1, .info⟩ := rfl
  have hbase := namesBase_slashedBase (n + 1)
  have hlist := holdsText_slashedBase hshort
  have hcount : 1 ≤ (records "a.example\n".toList).length := by decide
  have hlost : ∀ directory,
      oneRecordTree.approach ((slashedBase (n + 1)).join SitePaths.filterFileName) ≠
        .ok directory := by
    intro directory happroach
    have := ((approach_slashedBase isFileName_filterFile n).mp happroach).1
    omega
  have hnodir : ¬ oneRecordTree.LeadsToDirectory
      (SitePaths.ofBase (slashedBase (n + 1))).filterFile := by
    intro hdir
    obtain ⟨l, hlocate, _⟩ := hdir
    obtain ⟨d, _, happroach, _⟩ := (FileTree.locate_join_iff isFileName_filterFile).mp hlocate
    exact hlost _ happroach
  have hunwritten : ∀ text after, oneRecordTree.writeFilters
      (SitePaths.ofBase (slashedBase (n + 1))).filterFile text ≠ .ok after := by
    intro text after hwrite
    obtain ⟨l, htarget, _⟩ := FileTree.writeFilters_iff.mp hwrite
    obtain ⟨d, happroach, _⟩ := (FileTree.target_join_iff isFileName_filterFile).mp htarget
    exact hlost _ happroach
  have planned : Planned (slashedSurroundings (n + 1)).undisturbed [Utf8.encode "-n1".toList]
      (.fresh oneRecordTree) ⟨1, .info⟩ (.ofBase (slashedBase (n + 1))) :=
    ⟨rfl, hoptions, rfl, resolve_iff_namesBase.mpr ⟨_, hbase, rfl⟩⟩
  obtain ⟨_, hreports⟩ := reports_unwritable planned rfl hlist hcount hunwritten
  -- the classification would have the same run succeed
  have claimed := ((((h.2 rfl).2.2 _ hoptions).2 _ hbase).2 _ hlist).2 hcount
  have hexit := (claimed.2 hnodir).1
  rw [hreports.exitCode] at hexit
  exact absurd hexit (by decide)

/-- With 4070 slashes the path of the site list has 4094 bytes and that of the filter file 4096. -/
theorem outcome_unclassified_by_directory :
    ¬ Classified FileTree.LeadsToDirectory (slashedSurroundings 4070) [Utf8.encode "-n1".toList]
      oneRecordTree :=
  not_classified_slashedBase (n := 4069) (by decide) (by decide)

end SiteFilter
