import SiteFilter.Proofs.SitePaths.Siblings

/-!
# Trees that differ in filter files only

Filter files are all that runs write, and no run reads one: a path to a site list ends in another
name, and a filter file on the way to it is no directory. So trees that differ in filter files only,
in what these hold or in whether they are there, are the same to a run.

What is proved:
  1. `AgreeElsewhere` is an equivalence, and writing a filter file keeps a tree in its class
     (`FileReplaced.agreeElsewhere`).
  2. `AgreeElsewhere.holdsText`, `AgreeElsewhere.target` — trees of one class have the same site
     lists under the same paths, and filter files are written at the same locations.
  3. `Kept` — what becomes of a tree in time: its class, and that nothing disappears.
-/

namespace SiteFilter.FileTree

/-- Two trees have the same directories, and the same files except under the name of the filter
file. -/
structure AgreeElsewhere (t u : FileTree) : Prop where
  directories : SameDirectories t u
  elsewhere : ∀ l, l.getLast? ≠ some SitePaths.filterFileName → t.get? l = u.get? l

namespace AgreeElsewhere

variable {t u v : FileTree}

theorem refl (t : FileTree) : AgreeElsewhere t t := ⟨.refl t, fun _ _ => rfl⟩

theorem symm (h : AgreeElsewhere t u) : AgreeElsewhere u t :=
  ⟨h.directories.symm, fun l hl => (h.elsewhere l hl).symm⟩

theorem trans (h : AgreeElsewhere t u) (h' : AgreeElsewhere u v) : AgreeElsewhere t v :=
  ⟨h.directories.trans h'.directories,
    fun l hl => (h.elsewhere l hl).trans (h'.elsewhere l hl)⟩

/-- What stands under the name of the site list is the same. -/
theorem get?_siteList (h : AgreeElsewhere t u) (d : Location) :
    t.get? (d ++ [SitePaths.siteListName]) = u.get? (d ++ [SitePaths.siteListName]) := by
  apply h.elsewhere
  rw [List.getLast?_concat]
  decide

theorem holdsText_of_holdsText (h : AgreeElsewhere t u) {base : Path} {list : Text}
    (hlist : t.HoldsText (SitePaths.ofBase base).siteList list) :
    u.HoldsText (SitePaths.ofBase base).siteList list := by
  obtain ⟨l, bytes, hlocate, hget, htrailing, hdecode⟩ := hlist
  obtain ⟨d, e, happroach, hentry, rfl⟩ := (locate_join_iff isFileName_siteList).mp hlocate
  rw [h.get?_siteList] at hget hentry
  have happroach' := (approach_eq_ok_congr h.directories).mp happroach
  refine ⟨d ++ [SitePaths.siteListName], bytes, ?_, hget, htrailing, hdecode⟩
  exact (locate_join_iff isFileName_siteList).mpr ⟨d, e, happroach', hentry, rfl⟩

theorem holdsText (h : AgreeElsewhere t u) {base : Path} {list : Text} :
    t.HoldsText (SitePaths.ofBase base).siteList list ↔
      u.HoldsText (SitePaths.ofBase base).siteList list :=
  ⟨h.holdsText_of_holdsText, h.symm.holdsText_of_holdsText⟩

theorem readSiteList (h : AgreeElsewhere t u) {base : Path} {list : Text} :
    t.readSiteList (SitePaths.ofBase base).siteList = .ok list ↔
      u.readSiteList (SitePaths.ofBase base).siteList = .ok list := by
  rw [readSiteList_iff, readSiteList_iff]
  exact h.holdsText

theorem target (h : AgreeElsewhere t u) {p : Path} {l : Location} :
    t.target p = .ok l ↔ u.target p = .ok l :=
  target_eq_ok_congr h.directories

end AgreeElsewhere

/-! ## Writing a filter file -/

theorem getLast?_of_target {t : FileTree} {base : Path} {l : Location}
    (h : t.target (SitePaths.ofBase base).filterFile = .ok l) :
    l.getLast? = some SitePaths.filterFileName := by
  obtain ⟨d, _, _, rfl⟩ := (target_join_iff isFileName_filterFile).mp h
  exact List.getLast?_concat

theorem FileReplaced.agreeElsewhere {t after : FileTree} {l : Location} {contents : Bytes}
    (h : FileReplaced t after l contents) (hl : l.getLast? = some SitePaths.filterFileName) :
    AgreeElsewhere t after := by
  refine ⟨h.sameDirectories, ?_⟩
  intro l' hl'
  refine (h.elsewhere l' ?_).symm
  intro heq
  subst heq
  exact hl' hl

/-! ## What becomes of a tree -/

/-- Between `t` and `after` only filter files have come or changed, and nothing has gone. -/
structure Kept (t after : FileTree) : Prop extends AgreeElsewhere t after where
  present : ∀ l e, t.get? l = some e → ∃ e', after.get? l = some e'

theorem Kept.refl (t : FileTree) : Kept t t := ⟨.refl t, fun _ e he => ⟨e, he⟩⟩

theorem Kept.trans {t u v : FileTree} (h : Kept t u) (h' : Kept u v) : Kept t v := by
  refine ⟨h.toAgreeElsewhere.trans h'.toAgreeElsewhere, ?_⟩
  intro l e he
  obtain ⟨e', he'⟩ := h.present l e he
  exact h'.present l e' he'

theorem FileReplaced.kept {t after : FileTree} {l : Location} {contents : Bytes}
    (h : FileReplaced t after l contents) (hl : l.getLast? = some SitePaths.filterFileName) :
    Kept t after :=
  ⟨h.agreeElsewhere hl, fun _ _ he => h.get?_isSome he⟩

end SiteFilter.FileTree
