import SiteFilter.Proofs.FileTree.Writing
import SiteFilter.Proofs.Path.Joined

/-!
# The site list and the filter file lie side by side

Both files are looked up in the base directory, so where the site list can be read the filter file
has a directory to be written in.

What is proved:
  1. `approach_siblings` — two files of one base directory are looked up in the same directory,
     if neither path is too long to be followed.
  2. `writeFilters_beside_siteList` — beside a site list that can be read, writing the filter file
     fails in two cases only: a directory has its name, or its path is too long. The site list's
     path is the shorter one, so the second case does occur.
  3. `target_ne_siteList` — the filter file is never the site list.
-/

namespace SiteFilter

namespace FileTree

theorem approach_join_iff {t : FileTree} {name : Name} (h : IsFileName name) {base : Path}
    {directory : Location} :
    t.approach (base.join name) = .ok directory ↔
      0 ∉ base ∧ (base.join name).length ≤ pathLimit ∧
        t.walk (if base.head? = some slash then [] else t.working) base.components =
          .ok directory := by
  rw [approach_iff, Path.fault?_join_eq_none h, start, Path.route_join h, and_assoc]
  simp only [decide_eq_true_eq]

theorem approach_siblings {t : FileTree} {a b : Name} (ha : IsFileName a) (hb : IsFileName b)
    {base : Path} {directory : Location} (h : t.approach (base.join a) = .ok directory)
    (hlen : (base.join b).length ≤ pathLimit) : t.approach (base.join b) = .ok directory := by
  obtain ⟨hzero, _, hwalk⟩ := (approach_join_iff ha).mp h
  exact (approach_join_iff hb).mpr ⟨hzero, hlen, hwalk⟩

theorem locate_join_iff {t : FileTree} {name : Name} (h : IsFileName name) {base : Path}
    {l : Location} :
    t.locate (base.join name) = .ok l ↔
      ∃ d e, t.approach (base.join name) = .ok d ∧ t.get? (d ++ [name]) = some e ∧
        l = d ++ [name] := by
  have hlast : (base.join name).route.last = .named name := by rw [Path.route_join h]
  rw [locate_named_iff hlast]
  exact and_iff_right h.short

theorem target_join_iff {t : FileTree} {name : Name} (h : IsFileName name) {base : Path}
    {l : Location} :
    t.target (base.join name) = .ok l ↔
      ∃ d, t.approach (base.join name) = .ok d ∧
        t.get? (d ++ [name]) ≠ some .directory ∧ l = d ++ [name] := by
  rw [target_named_iff, Path.route_join h]
  constructor
  · intro hex
    obtain ⟨d, n, hn, _, _, happroach, hfree, hl⟩ := hex
    injection hn with hn
    subst hn
    exact ⟨d, happroach, hfree, hl⟩
  · intro hex
    obtain ⟨d, happroach, hfree, hl⟩ := hex
    exact ⟨d, name, rfl, rfl, h.short, happroach, hfree, hl⟩

/-- Where a site list can be read. -/
theorem exists_approach_of_readSiteList {t : FileTree} {base : Path} {list : Text}
    (h : t.readSiteList (SitePaths.ofBase base).siteList = .ok list) :
    ∃ d, t.approach (base.join SitePaths.siteListName) = .ok d := by
  obtain ⟨l, _, hlocate, _⟩ := readSiteList_iff.mp h
  obtain ⟨d, _, happroach, _⟩ := (locate_join_iff isFileName_siteList).mp hlocate
  exact ⟨d, happroach⟩

theorem writeFilters_beside_siteList {t : FileTree} {base : Path} {list : Text}
    (h : t.readSiteList (SitePaths.ofBase base).siteList = .ok list) (text : Text) :
    (∃ after, t.writeFilters (SitePaths.ofBase base).filterFile text = .ok after) ↔
      (SitePaths.ofBase base).filterFile.length ≤ pathLimit ∧
        ¬ t.LeadsToDirectory (SitePaths.ofBase base).filterFile := by
  obtain ⟨d, hsite⟩ := exists_approach_of_readSiteList h
  show (∃ after, t.writeFilters (base.join SitePaths.filterFileName) text = .ok after) ↔
    (base.join SitePaths.filterFileName).length ≤ pathLimit ∧
      ¬ t.LeadsToDirectory (base.join SitePaths.filterFileName)
  have hname := isFileName_filterFile
  constructor
  · intro hex
    obtain ⟨after, hwrite⟩ := hex
    obtain ⟨l, htarget, _⟩ := writeFilters_iff.mp hwrite
    obtain ⟨d', happroach, hfree, _⟩ := (target_join_iff hname).mp htarget
    obtain ⟨_, hlen, _⟩ := (approach_join_iff hname).mp happroach
    refine ⟨hlen, ?_⟩
    intro hdir
    obtain ⟨l', hlocate, hentry⟩ := hdir
    obtain ⟨d'', e, happroach', _, rfl⟩ := (locate_join_iff hname).mp hlocate
    -- one path has one directory
    rw [happroach] at happroach'
    cases happroach'
    exact hfree hentry
  · intro hboth
    obtain ⟨hlen, hnodir⟩ := hboth
    have happroach := approach_siblings isFileName_siteList hname hsite hlen
    have hfree : t.get? (d ++ [SitePaths.filterFileName]) ≠ some .directory := by
      intro hdir
      apply hnodir
      refine ⟨d ++ [SitePaths.filterFileName], ?_, hdir⟩
      exact (locate_join_iff hname).mpr ⟨d, .directory, happroach, hdir, rfl⟩
    have htarget := (target_join_iff hname).mpr ⟨d, happroach, hfree, rfl⟩
    exact ⟨_, writeFilters_iff.mpr ⟨_, htarget, rfl⟩⟩

theorem target_ne_siteList {t : FileTree} {base : Path} {l l' : Location}
    (hlist : t.locate (SitePaths.ofBase base).siteList = .ok l')
    (hfile : t.target (SitePaths.ofBase base).filterFile = .ok l) : l' ≠ l := by
  obtain ⟨d, _, _, _, rfl⟩ := (locate_join_iff isFileName_siteList).mp hlist
  obtain ⟨d', _, _, rfl⟩ := (target_join_iff isFileName_filterFile).mp hfile
  intro heq
  obtain ⟨_, hnames⟩ := List.append_inj' heq (by simp)
  have hlengths := congrArg List.length (List.singleton_inj.mp hnames)
  exact absurd hlengths (by decide)

end FileTree

end SiteFilter
