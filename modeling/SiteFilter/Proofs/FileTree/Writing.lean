import SiteFilter.Proofs.FileTree.Directories
import SiteFilter.SiteFiles

/-!
# What writing a file changes

Writing changes a tree at one location and makes or removes no directory. So every path leads where
it led before, what was written is read back, and every other file is read as it was.

What is proved:
  1. `fileReplaced_of_target` — a write replaces one file and keeps everything else.
  2. `FileReplaced.sameDirectories`, `FileReplaced.locate` — no directory comes or goes, and what
     was found is found at the same place.
  3. `FileReplaced.read_target`, `FileReplaced.read_of_ne` — reading after a write.
-/

namespace SiteFilter.FileTree

/-- The tree `after` is `t` with `contents` as the file at `l`, where `t` has no directory. -/
structure FileReplaced (t after : FileTree) (l : Location) (contents : Bytes) : Prop where
  working : t.working = after.working
  free : t.get? l ≠ some .directory
  replaced : after.get? l = some (.file contents)
  elsewhere : ∀ l', l' ≠ l → after.get? l' = t.get? l'

/-! ## Reading -/

/-- Whether a path leads to a directory. -/
def LeadsToDirectory (t : FileTree) (p : Path) : Prop :=
  ∃ l, t.locate p = .ok l ∧ t.get? l = some .directory

/-- Whether a path leads to a file whose bytes are the form of a text. -/
def HoldsText (t : FileTree) (p : Path) (text : Text) : Prop :=
  ∃ l bytes, t.locate p = .ok l ∧ t.get? l = some (.file bytes) ∧
    p.route.trailing = false ∧ Utf8.decode? bytes = some text

theorem read_iff {t : FileTree} {p : Path} {contents : Bytes} :
    t.read p = .ok contents ↔
      ∃ l, t.locate p = .ok l ∧ t.get? l = some (.file contents) ∧
        p.route.trailing = false := by
  rw [read]
  cases t.locate p with
  | error fault => simp
  | ok l =>
    simp only [Except.ok.injEq, exists_eq_left']
    cases t.get? l with
    | none => simp
    | some e =>
      cases e with
      | directory => simp
      | file bytes => cases p.route.trailing <;> simp

theorem readText_iff {t : FileTree} {p : Path} {text : Text} :
    t.readText p = .ok text ↔
      ∃ contents, t.read p = .ok contents ∧ Utf8.decode? contents = some text := by
  rw [readText]
  cases t.read p with
  | error fault => simp
  | ok contents => cases hdecode : Utf8.decode? contents <;> simp [hdecode]

theorem readSiteList_iff {t : FileTree} {p : Path} {text : Text} :
    t.readSiteList p = .ok text ↔ t.HoldsText p text := by
  have htext : t.readSiteList p = .ok text ↔ t.readText p = .ok text := by
    rw [readSiteList]
    cases t.readText p <;> simp
  rw [htext, readText_iff]
  constructor
  · intro hfile
    obtain ⟨bytes, hread, hdecode⟩ := hfile
    obtain ⟨l, hlocate, hget, htrailing⟩ := read_iff.mp hread
    exact ⟨l, bytes, hlocate, hget, htrailing, hdecode⟩
  · intro hholds
    obtain ⟨l, bytes, hlocate, hget, htrailing, hdecode⟩ := hholds
    have hread : t.read p = .ok bytes := read_iff.mpr ⟨l, hlocate, hget, htrailing⟩
    exact ⟨bytes, hread, hdecode⟩

theorem exists_cause_of_readSiteList {t : FileTree} {p : Path} {fault : Fault}
    (h : t.readSiteList p = .error fault) :
    ∃ cause : FileFault, fault = .unreadable p cause.message := by
  rw [readSiteList] at h
  split at h
  · cases h
  · next cause _ =>
    cases h
    exact ⟨cause, rfl⟩

/-- What keeps a site list from being read is a fault that names its path. -/
theorem readSiteList_error {t : FileTree} {p : Path} {fault : Fault}
    (h : t.readSiteList p = .error fault) : ∃ reason, fault = .unreadable p reason := by
  obtain ⟨cause, hfault⟩ := exists_cause_of_readSiteList h
  exact ⟨cause.message, hfault⟩

/-! ## Writing -/

theorem writeFilters_iff {t after : FileTree} {p : Path} {text : Text} :
    t.writeFilters p text = .ok after ↔
      ∃ l, t.target p = .ok l ∧ after = t.put l (.file (Utf8.encode text)) := by
  rw [writeFilters, write]
  cases t.target p <;> simp [eq_comm]

theorem writeFilters_of_target {t : FileTree} {p : Path} {l : Location} (h : t.target p = .ok l)
    (text : Text) : t.writeFilters p text = .ok (t.put l (.file (Utf8.encode text))) :=
  writeFilters_iff.mpr ⟨l, h, rfl⟩

theorem exists_cause_of_writeFilters {t : FileTree} {p : Path} {text : Text} {fault : Fault}
    (h : t.writeFilters p text = .error fault) :
    ∃ cause : FileFault, fault = .unwritable p cause.message := by
  rw [writeFilters] at h
  split at h
  · cases h
  · next cause _ =>
    cases h
    exact ⟨cause, rfl⟩

/-- What keeps a filter file from being written is a fault that names its path. -/
theorem writeFilters_error {t : FileTree} {p : Path} {text : Text} {fault : Fault}
    (h : t.writeFilters p text = .error fault) : ∃ reason, fault = .unwritable p reason := by
  obtain ⟨cause, hfault⟩ := exists_cause_of_writeFilters h
  exact ⟨cause.message, hfault⟩

theorem fileReplaced_of_target {t : FileTree} {p : Path} {l : Location} (h : t.target p = .ok l)
    (contents : Bytes) : FileReplaced t (t.put l (.file contents)) l contents := by
  obtain ⟨d, n, _, _, _, _, hfree, rfl⟩ := target_named_iff.mp h
  have haside := not_on_way_of_get? hfree
  refine ⟨rfl, hfree, ?_, ?_⟩
  · rw [get?_put haside, if_pos rfl]
  · intro l' hl'
    rw [get?_put haside, if_neg hl']

namespace FileReplaced

variable {t after : FileTree} {l : Location} {contents : Bytes}

theorem sameDirectories (h : FileReplaced t after l contents) : SameDirectories t after := by
  refine ⟨h.working, ?_⟩
  intro l'
  by_cases hl' : l' = l
  · subst hl'
    rw [h.replaced]
    simp [h.free]
  · rw [h.elsewhere l' hl']

theorem get?_isSome (h : FileReplaced t after l contents) {l' : Location} {e : Entry}
    (he : t.get? l' = some e) : ∃ e', after.get? l' = some e' := by
  by_cases hl' : l' = l
  · subst hl'
    exact ⟨.file contents, h.replaced⟩
  · refine ⟨e, ?_⟩
    rw [h.elsewhere l' hl']
    exact he

/-- Writing the same file once more changes nothing. -/
theorem put_again (h : FileReplaced t after l contents) : after.put l (.file contents) = after := by
  have haside : ¬ l <+: after.working := by
    rw [← h.working]
    exact not_on_way_of_get? h.free
  exact put_of_get? haside h.replaced

/-- What a path led to it still leads to. -/
theorem locate (h : FileReplaced t after l contents) {p : Path} {found : Location}
    (hp : t.locate p = .ok found) : after.locate p = .ok found := by
  obtain ⟨directory, happroach, hstep⟩ := locate_iff.mp hp
  refine locate_iff.mpr ⟨directory, (approach_eq_ok_congr h.sameDirectories).mp happroach, ?_⟩
  cases hlast : p.route.last with
  | here =>
    rw [hlast] at hstep
    exact hstep
  | up =>
    rw [hlast] at hstep
    exact hstep
  | named n =>
    rw [hlast] at hstep
    obtain ⟨hlen, e, hget, rfl⟩ := step_named_iff.mp hstep
    -- another entry may stand under the name, but one does
    obtain ⟨e', hget'⟩ := h.get?_isSome hget
    exact step_named_iff.mpr ⟨hlen, e', hget', rfl⟩

theorem locate_target (h : FileReplaced t after l contents) {p : Path} (hp : t.target p = .ok l) :
    after.locate p = .ok l := by
  obtain ⟨d, n, hlast, _, hlen, happroach, _, rfl⟩ := target_named_iff.mp hp
  have happroach' : after.approach p = .ok d :=
    (approach_eq_ok_congr h.sameDirectories).mp happroach
  apply (locate_named_iff hlast).mpr
  exact ⟨hlen, d, .file contents, happroach', h.replaced, rfl⟩

theorem read_target (h : FileReplaced t after l contents) {p : Path} (hp : t.target p = .ok l) :
    after.read p = .ok contents := by
  obtain ⟨_, _, _, htrailing, _⟩ := target_named_iff.mp hp
  exact read_iff.mpr ⟨l, h.locate_target hp, h.replaced, htrailing⟩

/-- A file at another location is read as before. -/
theorem read_of_ne (h : FileReplaced t after l contents) {p : Path} {l' : Location}
    {bytes : Bytes} (hp : t.locate p = .ok l') (hne : l' ≠ l)
    (hread : t.read p = .ok bytes) : after.read p = .ok bytes := by
  obtain ⟨m, hlocate, hget, htrailing⟩ := read_iff.mp hread
  obtain rfl : l' = m := Except.ok.inj (hp.symm.trans hlocate)
  have hkept : after.get? l' = some (.file bytes) := by rw [h.elsewhere l' hne, hget]
  exact read_iff.mpr ⟨l', h.locate hp, hkept, htrailing⟩

end FileReplaced

end SiteFilter.FileTree
