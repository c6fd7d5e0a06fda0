import SiteFilter.Proofs.FileTree.Resolution
import SiteFilter.Session

/-!
# Reading and writing in a session

Whatever steps a session has made, a path is read as the tree stands. A site list is read if its path
resolves to a file that holds a text, and a filter file is written if its path can receive one.
Writing changes that file and nothing else, and what was written is read back to the letter.

What is proved:
  1. `readSiteList_cases`, `writeFilters_cases` — how reading and writing end, by what the path
     resolves to.
  2. `written_of_receives` — what a tree is like after a text was written to it.
  3. `site_files_read_and_written` — all of it, after any steps of a session.
-/

namespace SiteFilter

namespace FileTree

/-- A path resolves to a file that holds the form of a text. -/
def Holds (t : FileTree) (p : Path) (text : Text) : Prop :=
  ∃ l, t.Resolves p l ∧ t.get? l = some (.file (Utf8.encode text))

variable {t after : FileTree} {p : Path} {l : Location}

theorem readSiteList_cases (t : FileTree) (p : Path) :
    (∃ text, t.Holds p text ∧ t.readSiteList p = .ok text) ∨
      ((∀ text, ¬ t.Holds p text) ∧ ∃ reason, t.readSiteList p = .error (.unreadable p reason)) := by
  cases hread : t.readSiteList p with
  | ok text => exact .inl ⟨text, readSiteList_iff_resolves.mp hread, rfl⟩
  | error fault =>
    obtain ⟨reason, rfl⟩ := readSiteList_error hread
    refine .inr ⟨?_, reason, rfl⟩
    intro text hholds
    rw [readSiteList_iff_resolves.mpr hholds] at hread
    cases hread

theorem writeFilters_cases (t : FileTree) (p : Path) (text : Text) :
    (∃ l, t.Receives p l ∧
        t.writeFilters p text = .ok (t.put l (.file (Utf8.encode text)))) ∨
      ((∀ l, ¬ t.Receives p l) ∧
        ∃ reason, t.writeFilters p text = .error (.unwritable p reason)) := by
  cases hwrite : t.writeFilters p text with
  | ok after =>
    obtain ⟨l, htarget, rfl⟩ := writeFilters_iff.mp hwrite
    exact .inl ⟨l, target_iff_receives.mp htarget, rfl⟩
  | error fault =>
    obtain ⟨reason, rfl⟩ := writeFilters_error hwrite
    refine .inr ⟨?_, reason, rfl⟩
    intro l hreceives
    rw [writeFilters_of_target (target_iff_receives.mpr hreceives)] at hwrite
    cases hwrite

/-! ## After a write -/

/-- How a path is read depends on the bytes that it leads to. -/
theorem readSiteList_congr (h : after.read p = t.read p) :
    after.readSiteList p = t.readSiteList p := by
  unfold readSiteList readText
  rw [h]

/-- A path that could receive a file resolves to it once it is there. -/
theorem FileReplaced.resolves {contents : Bytes} (h : FileReplaced t after l contents)
    (hreceives : t.Receives p l) : after.Resolves p l := by
  have htarget := target_iff_receives.mpr hreceives
  refine (resolves_file_iff h.replaced).mpr ⟨h.locate_target htarget, ?_⟩
  exact trailing_eq_false_iff.mpr hreceives.noSlash

theorem FileReplaced.readSiteList_of_ne {contents bytes : Bytes} {q : Path} {l' : Location}
    (h : FileReplaced t after l contents) (hne : l' ≠ l) (hresolves : t.Resolves q l')
    (hget : t.get? l' = some (.file bytes)) : after.readSiteList q = t.readSiteList q := by
  obtain ⟨hlocate, htrailing⟩ := (resolves_file_iff hget).mp hresolves
  have hread : t.read q = .ok bytes := read_iff.mpr ⟨l', hlocate, hget, htrailing⟩
  apply readSiteList_congr
  rw [hread]
  exact h.read_of_ne hlocate hne hread

end FileTree

namespace Session

/-- A text was written to the file at `l` under the path `p`, from the tree `t` to the tree
`after`. -/
structure Written (t after : FileTree) (p : Path) (l : Location) (text : Text) : Prop where
  /-- The file is all that has come or changed, and it holds the text and nothing more. -/
  replaced : t.FileReplaced after l (Utf8.encode text)
  directories : t.SameDirectories after
  /-- It is the file that the path resolved to before, if there was one, and does now. -/
  before : ∀ e, t.get? l = some e → t.Resolves p l
  resolves : after.Resolves p l
  readBack : step after (.readSiteList p) = (after, .read (.ok text))
  /-- A path that resolves to another file is read as before, whatever that file holds. -/
  others : ∀ q l' bytes, l' ≠ l → t.Resolves q l' → t.get? l' = some (.file bytes) →
    (step after (.readSiteList q)).2 = (step t (.readSiteList q)).2

theorem written_of_receives {t : FileTree} {p : Path} {l : Location} (h : t.Receives p l)
    (text : Text) : Written t (t.put l (.file (Utf8.encode text))) p l text := by
  have htarget := FileTree.target_iff_receives.mpr h
  have hreplaced := FileTree.fileReplaced_of_target htarget (Utf8.encode text)
  have hresolves := hreplaced.resolves h
  have hread := FileTree.readSiteList_iff_resolves.mpr ⟨l, hresolves, hreplaced.replaced⟩
  refine ⟨hreplaced, hreplaced.sameDirectories, fun e => h.resolves, hresolves, ?_, ?_⟩
  · rw [step, hread]
  · intro q l' bytes hne hq hget
    rw [step, step, hreplaced.readSiteList_of_ne hne hq hget]

/-- After any steps of a session: reading leaves the tree as it is and gives the text of the file that
the path resolves to, or a fault that names the path. Writing puts the text into the one file that the
path can receive, or gives a fault that names the path and leaves the tree as it is. -/
theorem site_files_read_and_written (t : FileTree) (earlier : List Step) (p : Path) :
    let found := (run t earlier).1
    (∀ text, found.Holds p text →
      step found (.readSiteList p) = (found, .read (.ok text))) ∧
    ((∀ text, ¬ found.Holds p text) →
      ∃ reason, step found (.readSiteList p) = (found, .read (.error (.unreadable p reason)))) ∧
    ∀ text,
      (∀ l, found.Receives p l →
        ∃ after, step found (.writeFilters p text) = (after, .wrote none after) ∧
          Written found after p l text) ∧
      ((∀ l, ¬ found.Receives p l) →
        ∃ reason, step found (.writeFilters p text) =
          (found, .wrote (some (.unwritable p reason)) found)) := by
  intro found
  refine ⟨?_, ?_, ?_⟩
  · intro text hholds
    rw [step, FileTree.readSiteList_iff_resolves.mpr hholds]
  · intro hnone
    rcases found.readSiteList_cases p with ⟨text, hholds, _⟩ | ⟨_, reason, hread⟩
    · exact absurd hholds (hnone text)
    · refine ⟨reason, ?_⟩
      rw [step, hread]
  · intro text
    refine ⟨?_, ?_⟩
    · intro l hreceives
      have hwrite := FileTree.writeFilters_of_target
        (FileTree.target_iff_receives.mpr hreceives) text
      refine ⟨_, ?_, written_of_receives hreceives text⟩
      rw [step, hwrite]
    · intro hnone
      rcases found.writeFilters_cases p text with ⟨l, hreceives, _⟩ | ⟨_, reason, hwrite⟩
      · exact absurd hreceives (hnone l)
      · refine ⟨reason, ?_⟩
        rw [step, hwrite]

end Session

end SiteFilter
