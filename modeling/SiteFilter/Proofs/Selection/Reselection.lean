import SiteFilter.Proofs.Line.Decomposition
import SiteFilter.Proofs.Selection.Recovery
import SiteFilter.Proofs.Text.Trimming

/-!
# A selection as a site list

The contents of a selection are one text with a newline between neighbours. Read as a site list they
have the filters of the selection as their records, but for the last one: the end of the text closes
no record that is blank, so a blank filter is lost there.

What is proved:
  1. `records_joinLines` — the records of texts that are joined.
  2. `records_contents`, `filters_contents` — what the contents of a selection are read back as.
  3. `selection_reselected` — what is selected from a selection is what the list itself gives, unless
     all of it is asked for and its last filter is blank.
-/

namespace SiteFilter

/-- There are `n` filters to select, and the last of them is blank. -/
def EndsBlank (list : Text) (n : Nat) : Prop := 1 ≤ n ∧ (filters list)[n - 1]? = some []

/-! ## The records of joined texts -/

theorem records_append_newline {t : Text} (plain : '\n' ∉ t ∧ '\r' ∉ t) (rest : Text) :
    records (t ++ '\n' :: rest) = t :: records rest := by
  have split : t ++ '\n' :: rest = (⟨t, .lineFeed⟩ : Line).text ++ rest := by
    simp [Line.text, Ending.text]
  rw [records, split, lines_text_append plain (by simp) (by simp)]
  rfl

theorem records_of_plain {t : Text} (plain : '\n' ∉ t ∧ '\r' ∉ t) (hne : t ≠ []) :
    records t = [t] := by
  have split : t = (⟨t, .endOfText⟩ : Line).text ++ [] := by
    simp [Line.text, Ending.text]
  conv => lhs; rw [split]
  rw [records, lines_text_append plain (fun _ => ⟨hne, rfl⟩) (by simp)]
  rfl

/-- Joined texts are read back, but for a blank one at the end. -/
theorem records_joinLines {ts : List Text} (plain : ∀ t ∈ ts, '\n' ∉ t ∧ '\r' ∉ t) :
    records (joinLines ts) = if ts.getLast? = some [] then ts.dropLast else ts := by
  induction ts with
  | nil => rfl
  | cons t rest ih =>
    have ht := plain t List.mem_cons_self
    cases rest with
    | nil =>
      by_cases hblank : t = []
      · subst hblank
        rfl
      · rw [joinLines, records_of_plain ht hblank, if_neg (by simpa using hblank)]
    | cons u more =>
      have hrest : ∀ x ∈ u :: more, '\n' ∉ x ∧ '\r' ∉ x := by
        intro x hx
        exact plain x (List.mem_cons_of_mem t hx)
      rw [joinLines, records_append_newline ht, ih hrest, List.getLast?_cons_cons,
        List.dropLast_cons_cons]
      split <;> rfl

/-! ## The contents of a selection as a list -/

section
variable {list : Text} {n m : Nat} {s : Selection}

theorem endsBlank_iff (h : n ≤ (records list).length) :
    EndsBlank list n ↔ ((filters list).take n).getLast? = some [] := by
  unfold EndsBlank
  rw [List.getLast?_take]
  cases n with
  | zero => simp
  | succ n =>
    have hn : n < (filters list).length := by
      rw [length_filters]
      exact h
    simp [List.getElem?_eq_getElem hn]

theorem dropLast_take_filters (h : m ≤ (records list).length) :
    ((filters list).take m).dropLast = (filters list).take (m - 1) := by
  rw [← length_filters] at h
  rw [List.dropLast_eq_take, List.length_take, Nat.min_eq_left h, List.take_take,
    Nat.min_eq_left (Nat.sub_le m 1)]

theorem records_contents (h : select list m = .ok s) :
    (¬ EndsBlank list m → records s.contents = (filters list).take m) ∧
    (EndsBlank list m → records s.contents = (filters list).take (m - 1)) := by
  obtain ⟨hm, _⟩ := select_eq_ok_iff.mp h
  have plain : ∀ f ∈ (filters list).take m, '\n' ∉ f ∧ '\r' ∉ f := by
    intro f hf
    exact lineEnd_notMem_filters (List.mem_of_mem_take hf)
  rw [endsBlank_iff hm, contents_of_select h, records_joinLines plain]
  constructor
  · intro hfull
    rw [if_neg hfull]
  · intro hblank
    rw [if_pos hblank, dropLast_take_filters hm]

/-- A filter is not trimmed any further. -/
theorem trimBlank_of_mem_filters {f : Text} (h : f ∈ filters list) : trimBlank f = f := by
  obtain ⟨r, _, rfl⟩ := List.mem_map.mp h
  exact trimBy_trimBy isBlank r

theorem filters_contents (h : select list m = .ok s) : filters s.contents = records s.contents := by
  have hmem : ∀ f ∈ records s.contents, f ∈ filters list := by
    intro f hf
    by_cases hblank : EndsBlank list m
    · rw [(records_contents h).2 hblank] at hf
      exact List.mem_of_mem_take hf
    · rw [(records_contents h).1 hblank] at hf
      exact List.mem_of_mem_take hf
  unfold filters
  conv => rhs; rw [← List.map_id (records s.contents)]
  apply List.map_congr_left
  intro f hf
  exact trimBlank_of_mem_filters (hmem f hf)

/-- A number of filters that the contents still have is selected from them as from the list. -/
theorem select_contents (h : select list m = .ok s) (hnm : n ≤ m)
    (hn : n < m ∨ ¬ EndsBlank list m) :
    ∃ s₁ s₂, select s.contents n = .ok s₁ ∧ select list n = .ok s₂ ∧
      s₁.contents = s₂.contents := by
  obtain ⟨hm, _⟩ := select_eq_ok_iff.mp h
  rw [← length_filters] at hm
  -- the first filters of the contents are the first filters of the list
  have hkept : ∃ k, n ≤ k ∧ k ≤ m ∧ records s.contents = (filters list).take k := by
    by_cases hblank : EndsBlank list m
    · refine ⟨m - 1, ?_, Nat.sub_le m 1, (records_contents h).2 hblank⟩
      rcases hn with hlt | hfull
      · exact Nat.le_sub_one_of_lt hlt
      · exact absurd hblank hfull
    · exact ⟨m, hnm, Nat.le_refl m, (records_contents h).1 hblank⟩
  obtain ⟨k, hnk, hkm, hrecords⟩ := hkept
  have hlength : n ≤ (records s.contents).length := by
    rw [hrecords, List.length_take]
    omega
  have hlist : n ≤ (records list).length := by
    rw [← length_filters]
    omega
  refine ⟨_, _, select_eq_ok_iff.mpr ⟨hlength, rfl⟩, select_eq_ok_iff.mpr ⟨hlist, rfl⟩, ?_⟩
  show joinLines ((filters s.contents).take n) = joinLines ((filters list).take n)
  rw [filters_contents h, hrecords, List.take_take, Nat.min_eq_left hnk]

theorem select_contents_of_endsBlank (h : select list m = .ok s) (hblank : EndsBlank list m) :
    select s.contents m = .error ⟨m, m - 1⟩ := by
  obtain ⟨hm, _⟩ := select_eq_ok_iff.mp h
  have hlength : (records s.contents).length = m - 1 := by
    rw [(records_contents h).2 hblank, List.length_take, length_filters]
    omega
  have hone := hblank.1
  apply select_eq_error_iff.mpr
  rw [hlength]
  exact ⟨by omega, rfl⟩

end

/-- The contents of a selection, read as a site list, hold the filters of the selection as their
records, all but a blank one at the end. So selecting fewer filters from them gives what the list
itself gives, and so does selecting as many, unless the last one is blank: then one is missing. -/
theorem selection_reselected (list : Text) {n m : Nat} (hnm : n ≤ m)
    (hm : m ≤ (records list).length) :
    ∃ s, select list m = .ok s ∧
      (¬ EndsBlank list m → records s.contents = ((records list).take m).map trimBlank) ∧
      (EndsBlank list m →
        records s.contents = (((records list).take m).map trimBlank).dropLast) ∧
      (n < m ∨ (n = 0 ∧ m = 0) ∨ (n = m ∧ ¬ EndsBlank list m) →
        ∃ s₁ s₂, select s.contents n = .ok s₁ ∧ select list n = .ok s₂ ∧
          s₁.contents = s₂.contents) ∧
      (n = m → EndsBlank list m → select s.contents n = .error ⟨m, m - 1⟩) := by
  have h := select_eq_ok_iff.mpr ⟨hm, rfl⟩
  refine ⟨_, h, ?_, ?_, ?_, ?_⟩
  · intro hfull
    rw [(records_contents h).1 hfull, take_filters]
  · intro hblank
    rw [(records_contents h).2 hblank, ← take_filters, dropLast_take_filters hm]
  · intro hcases
    apply select_contents h hnm
    rcases hcases with hlt | ⟨_, rfl⟩ | ⟨_, hfull⟩
    · exact .inl hlt
    · right
      intro hblank
      exact absurd hblank.1 (by decide)
    · exact .inr hfull
  · rintro rfl hblank
    exact select_contents_of_endsBlank h hblank

/-- A blank filter at the end of a selection cannot be selected again. -/
theorem selection_reselected_blankLast :
    let list := " a\n \t\r\nb".toList
    (2 ≤ 2 ∧ 2 ≤ (records list).length) ∧
      ∃ s, select list 2 = .ok s ∧ records s.contents = [['a']] ∧
        select s.contents 2 = .error ⟨2, 1⟩ := by
  intro list
  have hm : 2 ≤ (records list).length := by decide
  have hblank : EndsBlank list 2 := ⟨by decide, rfl⟩
  obtain ⟨s, h, _, hrecords, _, hshort⟩ := selection_reselected list (Nat.le_refl 2) hm
  exact ⟨⟨Nat.le_refl 2, hm⟩, s, h, hrecords hblank, hshort rfl hblank⟩

end SiteFilter
