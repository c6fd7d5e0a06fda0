import SiteFilter.Proofs.Run.TreeEffect
import SiteFilter.Proofs.Selection.Reselection

/-!
# Reading a filter file back

A filter file is a text with a newline between its filters. A reader of lines finds as many of them
as were written, unless the last filter is blank: the end of the file closes no blank line, so that
filter is not found, and the newline in front of it looks like the end of the file.

What is proved:
  1. `getLast?_joinLines_concat` — what joined texts end in.
  2. `readsAs_contents_iff`, `length_records_of_endsBlank` — when the contents of a selection are read as
     what was written, and what they are read as when not.
  3. `holdsText_filterFile` — a run that succeeds leaves just these contents in the filter file.
  4. `filterFile_read_back` — both together.
-/

namespace SiteFilter

/-- A text that does not end in a newline and has `n` records. -/
structure ReadsAs (t : Text) (n : Nat) : Prop where
  unended : t.getLast? ≠ some '\n'
  count : (records t).length = n

/-! ## The end of a selection -/

/-- Joined texts end as the last of them ends, or in the newline before it. -/
theorem getLast?_joinLines_concat (before : List Text) (last : Text) :
    (joinLines (before ++ [last])).getLast? =
      last.getLast?.or (if before = [] then none else some '\n') := by
  induction before with
  | nil => rw [List.nil_append, joinLines, if_pos rfl, Option.or_none]
  | cons t rest ih =>
    have hjoin : joinLines (t :: rest ++ [last]) = t ++ '\n' :: joinLines (rest ++ [last]) := by
      cases rest <;> rfl
    rw [hjoin, List.getLast?_append, List.getLast?_cons, ih]
    cases last.getLast? <;> cases rest <;> rfl

section
variable {list : Text} {n : Nat} {s : Selection}

theorem exists_take_eq_concat (h : select list n = .ok s) (hone : 1 ≤ n) :
    ∃ before last, (filters list).take n = before ++ [last] ∧ before.length = n - 1 := by
  obtain ⟨hle, _⟩ := select_eq_ok_iff.mp h
  rw [← length_filters] at hle
  have hne := take_filters_ne_nil h hone
  refine ⟨_, _, (List.dropLast_concat_getLast hne).symm, ?_⟩
  rw [List.length_dropLast, List.length_take, Nat.min_eq_left hle]

theorem getLast?_contents (h : select list n = .ok s) (hone : 1 ≤ n) :
    s.contents.getLast? = some '\n' ↔ EndsBlank list n ∧ 2 ≤ n := by
  obtain ⟨before, last, htake, hlength⟩ := exists_take_eq_concat h hone
  obtain ⟨hle, _⟩ := select_eq_ok_iff.mp h
  have hlast : '\n' ∉ last :=
    (lineEnd_notMem_filters (List.mem_of_mem_take (by rw [htake]; simp))).1
  rw [endsBlank_iff hle, contents_of_select h, htake, getLast?_joinLines_concat,
    List.getLast?_concat, Option.some_inj]
  by_cases hblank : last = []
  · subst hblank
    by_cases hbefore : before = []
    · -- one filter, and nothing at all is written
      subst hbefore
      rw [List.length_nil] at hlength
      simp
      omega
    · have := List.length_pos_iff.mpr hbefore
      simp [hbefore]
      omega
  · have hsome := List.getLast?_isSome.mpr hblank
    rw [Option.or_of_isSome hsome]
    refine iff_of_false ?_ (fun hboth => hblank hboth.1)
    intro hend
    exact hlast (List.mem_of_getLast? hend)

theorem readsAs_contents_iff (h : select list n = .ok s) (hone : 1 ≤ n) :
    ReadsAs s.contents n ↔ ¬ EndsBlank list n := by
  obtain ⟨hle, _⟩ := select_eq_ok_iff.mp h
  rw [← length_filters] at hle
  constructor
  · intro hread hblank
    have hcount := hread.count
    rw [(records_contents h).2 hblank, List.length_take] at hcount
    omega
  · intro hfull
    refine ⟨?_, ?_⟩
    · intro hend
      exact hfull ((getLast?_contents h hone).mp hend).1
    · rw [(records_contents h).1 hfull, List.length_take, Nat.min_eq_left hle]

theorem length_records_of_endsBlank (h : select list n = .ok s) (hblank : EndsBlank list n) :
    (records s.contents).length = n - 1 := by
  obtain ⟨hle, _⟩ := select_eq_ok_iff.mp h
  rw [← length_filters] at hle
  rw [(records_contents h).2 hblank, List.length_take]
  omega

end

/-! ## The filter file of a run -/

theorem holdsText_filterFile {around : Surroundings} {arguments : List Bytes} {t : FileTree}
    {options : CommandLine.Options} {paths : SitePaths} {list : Text} {s : Selection}
    (accepted : CommandLine.read arguments = .ok options)
    (resolved : SitePaths.resolve around.environment = .ok paths)
    (hlist : t.HoldsText paths.siteList list) (hselect : select list options.count = .ok s)
    (succeeded : (run around arguments (.fresh t)).2.exitCode = 0) :
    (run around arguments (.fresh t)).1.tree.HoldsText paths.filterFile s.contents := by
  obtain ⟨stage, h⟩ := endsAt_run around arguments (.fresh t)
  have hdone : stage = .done := by
    apply (succeeded_iff_done h).mp
    refine ⟨succeeded, ?_⟩
    rintro ⟨request, hrequest⟩
    rw [accepted] at hrequest
    cases hrequest
  subst hdone
  obtain ⟨options', paths', list', s', l, haccepted, hresolved, hread, hselect', htarget, hreplaced⟩ :=
    fileReplaced_of_done h
  obtain rfl := Except.ok.inj (accepted.symm.trans haccepted)
  obtain rfl := Except.ok.inj (resolved.symm.trans hresolved)
  obtain rfl := Except.ok.inj ((FileTree.readSiteList_iff.mpr hlist).symm.trans hread)
  obtain rfl := Except.ok.inj (hselect.symm.trans hselect')
  obtain ⟨l', hlocate, hget, htrailing⟩ := FileTree.read_iff.mp (hreplaced.read_target htarget)
  exact ⟨l', _, hlocate, hget, htrailing, Utf8.decode?_encode s.contents⟩

/-- What a selection writes, and what a run that succeeds leaves in the filter file, does not end in a
newline and is read back as the records that were asked for, exactly if the last of the filters is
not blank. If it is, one record less is read, and the newline in front of the blank filter, if there
is one, is the last character. -/
theorem filterFile_read_back (list : Text) {n : Nat} (hone : 1 ≤ n)
    (hle : n ≤ (records list).length) :
    ∃ s, select list n = .ok s ∧
      (ReadsAs s.contents n ↔ ¬ EndsBlank list n) ∧
      (EndsBlank list n → (records s.contents).length = n - 1 ∧
        (s.contents.getLast? = some '\n' ↔ 2 ≤ n)) ∧
      ∀ around arguments t options paths, CommandLine.read arguments = .ok options →
        options.count = n → SitePaths.resolve around.environment = .ok paths →
        t.HoldsText paths.siteList list → (run around arguments (.fresh t)).2.exitCode = 0 →
        (run around arguments (.fresh t)).1.tree.HoldsText paths.filterFile s.contents := by
  have h := select_eq_ok_iff.mpr ⟨hle, rfl⟩
  refine ⟨_, h, readsAs_contents_iff h hone, ?_, ?_⟩
  · intro hblank
    refine ⟨length_records_of_endsBlank h hblank, ?_⟩
    rw [getLast?_contents h hone]
    exact and_iff_right hblank
  · rintro around arguments t options paths accepted rfl resolved hlist succeeded
    exact holdsText_filterFile accepted resolved hlist h succeeded

/-- A blank filter before the last one is found again, also in what a run has written, here in a home
directory that is not the working directory. -/
theorem filterFile_read_back_blankBetween :
    let list := " a\n \t\r\nb\n".toList
    let home := Utf8.encode "home".toList
    let paths : SitePaths := .ofBase (slash :: home)
    let around : Surroundings := ⟨⟨[(SitePaths.homeVariable, paths.base)]⟩, false, false, false⟩
    let arguments := [Utf8.encode "-n3".toList, Utf8.encode "--log-level=error".toList]
    let t : FileTree :=
      ⟨[([home], .directory), ([home, SitePaths.siteListName], .file (Utf8.encode list))], []⟩
    (1 ≤ 3 ∧ 3 ≤ (records list).length) ∧
      (run around arguments (.fresh t)).2.exitCode = 0 ∧
      ∃ s, select list 3 = .ok s ∧ ReadsAs s.contents 3 ∧
        (run around arguments (.fresh t)).1.tree.HoldsText paths.filterFile s.contents := by
  intro list home paths around arguments t
  have hle : 3 ≤ (records list).length := by decide
  have accepted : CommandLine.read arguments = .ok ⟨3, .error⟩ := rfl
  have resolved : SitePaths.resolve around.environment = .ok paths := rfl
  have hread : t.readSiteList paths.siteList = .ok list := rfl
  have succeeded : (run around arguments (.fresh t)).2.exitCode = 0 := rfl
  obtain ⟨s, h, hfull, _, hwritten⟩ := filterFile_read_back list (by decide) hle
  refine ⟨⟨by decide, hle⟩, succeeded, s, h, hfull.mpr ?_, ?_⟩
  · rintro ⟨_, hblank⟩
    exact absurd hblank (by decide)
  · exact hwritten around arguments t _ paths accepted rfl resolved
      (FileTree.readSiteList_iff.mp hread) succeeded

/-- A list of one blank record is read back as no record at all, and a blank record behind another
one leaves a newline at the end. -/
theorem not_readsAs_blankRecord :
    (1 ≤ (records "\n".toList).length ∧
      ∃ s, select "\n".toList 1 = .ok s ∧ ¬ ReadsAs s.contents 1) ∧
    (2 ≤ (records "a\n\n".toList).length ∧
      ∃ s, select "a\n\n".toList 2 = .ok s ∧ s.contents.getLast? = some '\n' ∧
        (records s.contents).length = 1) := by
  refine ⟨⟨by decide, _, rfl, ?_⟩, by decide, _, rfl, rfl, rfl⟩
  intro hread
  exact absurd hread.count (by decide)

end SiteFilter
