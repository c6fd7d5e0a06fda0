import SiteFilter.Selection

/-!
# The filters of a selection can be read back

A selection is one text, its filters one to a line. No filter holds a line end character: a record
holds none, and trimming only takes away. So every newline of the text stands between two filters,
and cutting at the newlines gives the filters back, the blank ones too.

What is proved:
  1. `length_cutAt`, `mem_joinLines` — how many pieces a text has, and what joined texts are made of.
  2. `lineEnd_notMem_filters` — no filter holds a line end character.
  3. `cutAt_contents`, `count_contents`, `return_notMem_contents` — what the contents of a selection
     are cut into, and which line ends they hold.
  4. `contents_eq_iff` — two lists have the same contents exactly if they have the same filters.
  5. `selection_recoverable` — all of it, for every list and every number of filters.
-/

namespace SiteFilter

/-! ## Cutting and joining -/

theorem length_cutAt {α : Type} [DecidableEq α] (c : α) (t : List α) :
    (cutAt c t).length = t.count c + 1 := by
  induction t with
  | nil => rfl
  | cons x rest ih =>
    by_cases hx : x = c
    · subst hx
      simp [cutAt, ih]
    · -- `x` goes in front of the first piece of the rest, and there is one
      rw [List.count_cons_of_ne hx, ← ih]
      simp only [cutAt, hx, if_false]
      cases hcut : cutAt c rest with
      | nil => simp [hcut] at ih
      | cons piece pieces => rfl

theorem mem_joinLines {c : Char} {ts : List Text} (h : c ∈ joinLines ts) :
    c = '\n' ∨ ∃ t ∈ ts, c ∈ t := by
  induction ts with
  | nil => cases h
  | cons t rest ih =>
    cases rest with
    | nil => exact .inr ⟨t, List.mem_cons_self, h⟩
    | cons u more =>
      rcases List.mem_append.mp h with ht | hrest
      · exact .inr ⟨t, List.mem_cons_self, ht⟩
      · rcases List.mem_cons.mp hrest with hc | hmore
        · exact .inl hc
        · rcases ih hmore with hc | ⟨v, hv, hcv⟩
          · exact .inl hc
          · exact .inr ⟨v, List.mem_cons_of_mem t hv, hcv⟩

/-! ## Filters -/

/-- The first filters of a list, as the selection has them. -/
theorem take_filters (list : Text) (n : Nat) :
    (filters list).take n = ((records list).take n).map trimBlank :=
  (List.map_take ..).symm

theorem lineEnd_notMem_filters {list f : Text} (h : f ∈ filters list) : '\n' ∉ f ∧ '\r' ∉ f := by
  obtain ⟨r, hr, rfl⟩ := List.mem_map.mp h
  obtain ⟨hn, hreturn⟩ := record_of_mem_records hr
  -- a character of the filter is a character of the record
  exact ⟨fun hmem => hn (mem_of_mem_trimBy hmem), fun hmem => hreturn (mem_of_mem_trimBy hmem)⟩

/-! ## The contents of a selection -/

section
variable {list other : Text} {n : Nat} {s s' : Selection}

theorem contents_of_select (h : select list n = .ok s) :
    s.contents = joinLines ((filters list).take n) := by
  obtain ⟨_, rfl⟩ := select_eq_ok_iff.mp h
  rfl

theorem take_filters_ne_nil (h : select list n = .ok s) (hn : 1 ≤ n) :
    (filters list).take n ≠ [] := by
  obtain ⟨hle, _⟩ := select_eq_ok_iff.mp h
  rw [← length_filters] at hle
  intro hnil
  have hlength := congrArg List.length hnil
  rw [List.length_take, Nat.min_eq_left hle, List.length_nil] at hlength
  omega

theorem contents_zero (h : select list 0 = .ok s) : s.contents = [] := by
  rw [contents_of_select h]
  rfl

theorem cutAt_contents (h : select list n = .ok s) (hn : 1 ≤ n) :
    cutAt '\n' s.contents = ((records list).take n).map trimBlank := by
  rw [contents_of_select h, cutAt_joinLines (take_filters_ne_nil h hn), take_filters]
  intro f hf
  exact (lineEnd_notMem_filters (List.mem_of_mem_take hf)).1

/-- There is one piece for each filter, so there is one newline less. -/
theorem count_contents (h : select list n = .ok s) (hn : 1 ≤ n) :
    s.contents.count '\n' = n - 1 := by
  obtain ⟨hle, _⟩ := select_eq_ok_iff.mp h
  have hpieces : s.contents.count '\n' + 1 = n := by
    calc s.contents.count '\n' + 1 = (cutAt '\n' s.contents).length := (length_cutAt ..).symm
      _ = (((records list).take n).map trimBlank).length := by rw [cutAt_contents h hn]
      _ = n := by rw [List.length_map, List.length_take, Nat.min_eq_left hle]
  omega

theorem return_notMem_contents (h : select list n = .ok s) : '\r' ∉ s.contents := by
  rw [contents_of_select h]
  intro hmem
  rcases mem_joinLines hmem with hnewline | ⟨f, hf, hreturn⟩
  · exact absurd hnewline (by decide)
  · exact (lineEnd_notMem_filters (List.mem_of_mem_take hf)).2 hreturn

theorem contents_eq_iff (h : select list n = .ok s) (h' : select other n = .ok s') :
    s.contents = s'.contents ↔
      ((records list).take n).map trimBlank = ((records other).take n).map trimBlank := by
  constructor
  · intro heq
    cases n with
    | zero => rfl
    | succ n =>
      have hn : 1 ≤ n + 1 := Nat.le_add_left 1 n
      rw [← cutAt_contents h hn, ← cutAt_contents h' hn, heq]
  · intro heq
    rw [contents_of_select h, contents_of_select h', take_filters, take_filters, heq]

end

/-- Asking for more filters than there are records is refused, with both numbers. Any other selection
holds exactly the records asked for, trimmed: its contents are cut at their newlines into these, in
their order. So two lists give the same contents exactly if these records, trimmed, are the same. -/
theorem selection_recoverable (list : Text) (n : Nat) :
    (select list n = .error ⟨n, (records list).length⟩ ↔ (records list).length < n) ∧
    (n ≤ (records list).length →
      ∃ s, select list n = .ok s ∧ s.selected = n ∧ s.available = (records list).length ∧
        '\r' ∉ s.contents ∧ (n = 0 → s.contents = []) ∧
        (1 ≤ n → s.contents.count '\n' = n - 1 ∧
          cutAt '\n' s.contents = ((records list).take n).map trimBlank)) ∧
    ∀ other s s', select list n = .ok s → select other n = .ok s' →
      (s.contents = s'.contents ↔
        ((records list).take n).map trimBlank = ((records other).take n).map trimBlank) := by
  refine ⟨?_, ?_, ?_⟩
  · rw [select_eq_error_iff]
    exact and_iff_left rfl
  · intro hn
    have h := select_eq_ok_iff.mpr ⟨hn, rfl⟩
    refine ⟨_, h, rfl, rfl, return_notMem_contents h, ?_, ?_⟩
    · intro hzero
      subst hzero
      exact contents_zero h
    · intro hone
      exact ⟨count_contents h hone, cutAt_contents h hone⟩
  · intro other s s' h h'
    exact contents_eq_iff h h'

/-- Blank records keep their places, at the end too. -/
example : select " a\n \r\n\rb".toList 3 = .ok ⟨"a\n\n".toList, 3, 4⟩ := rfl

end SiteFilter
