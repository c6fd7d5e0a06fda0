import Mathlib.Data.List.Forall2
import SiteFilter.Proofs.Line.Decomposition
import SiteFilter.Proofs.Text.Trimming
import SiteFilter.Selection

/-!
# Blank characters around records

Blank characters at the ends of a record are trimmed, however many there are. Put around the records
of a site list they leave its lines what they are, but for their bodies, as long as none of them is a
line end itself; so the list keeps its filters.

What is proved:
  1. `decomposes_padded` — lines that are padded are the lines of what they make up.
  2. `filters_padded` — its filters are those of the text that was padded.
  3. `trimBlank_takes_ends` — what trimming takes away, and that padding changes no selection.
-/

namespace SiteFilter

/-- Whether a character is blank and ends no line. -/
def isPadding (c : Char) : Bool := isBlank c && c ≠ '\n' && c ≠ '\r'

/-- The line `m` is `l` with padding around its body. -/
def Padded (l m : Line) : Prop :=
  ∃ front back, AllIn isPadding front ∧ AllIn isPadding back ∧
    m = ⟨front ++ l.body ++ back, l.ending⟩

theorem isBlank_of_isPadding {c : Char} (h : isPadding c = true) : isBlank c = true := by
  simp only [isPadding, Bool.and_eq_true] at h
  exact h.1.1

theorem AllIn.noLineEnd {t : Text} (h : AllIn isPadding t) : '\n' ∉ t ∧ '\r' ∉ t := by
  refine ⟨?_, ?_⟩
  · intro hmem
    exact absurd (h _ hmem) (by decide)
  · intro hmem
    exact absurd (h _ hmem) (by decide)

theorem AllIn.isBlank {t : Text} (h : AllIn isPadding t) : AllIn isBlank t :=
  fun c hc => isBlank_of_isPadding (h c hc)

namespace Padded

variable {l m : Line}

theorem ending (h : Padded l m) : m.ending = l.ending := by
  obtain ⟨_, _, _, _, rfl⟩ := h
  rfl

theorem body_eq_nil (h : Padded l m) (hm : m.body = []) : l.body = [] := by
  obtain ⟨front, back, _, _, rfl⟩ := h
  rw [List.append_eq_nil_iff, List.append_eq_nil_iff] at hm
  exact hm.1.2

theorem plain (h : Padded l m) (hl : '\n' ∉ l.body ∧ '\r' ∉ l.body) :
    '\n' ∉ m.body ∧ '\r' ∉ m.body := by
  obtain ⟨front, back, hfront, hback, rfl⟩ := h
  simp only [List.mem_append, not_or]
  exact ⟨⟨⟨hfront.noLineEnd.1, hl.1⟩, hback.noLineEnd.1⟩,
    ⟨hfront.noLineEnd.2, hl.2⟩, hback.noLineEnd.2⟩

theorem trimBlank_body (h : Padded l m) : trimBlank m.body = trimBlank l.body := by
  obtain ⟨front, back, hfront, hback, rfl⟩ := h
  exact trimBy_around hfront.isBlank hback.isBlank l.body

end Padded

/-! ## Padded lines are lines -/

/-- Padding brings no line feed to the front of a text. -/
theorem head?_of_padded {t : Text} {ls ms : List Line} (h : Decomposes t ls)
    (hpadded : List.Forall₂ Padded ls ms) (hhead : (unlines ms).head? = some '\n') :
    t.head? = some '\n' := by
  cases hpadded with
  | nil => cases hhead
  | @cons l m ls ms hm _ =>
    obtain ⟨u, rfl, _, plain, closed, _⟩ := decomposes_cons.mp h
    have hending := hm.ending
    have hplain := (hm.plain plain).1
    have hbody := hm.body_eq_nil
    obtain ⟨body, ending⟩ := m
    simp only at hending hplain hbody
    cases body with
    | cons c rest =>
      -- the front of the text is in the body
      obtain rfl : c = '\n' := by simpa [unlines, Line.text] using hhead
      exact absurd List.mem_cons_self hplain
    | nil =>
      have hnil := hbody rfl
      subst hending
      cases hl : l.ending with
      | lineFeed => simp [Line.text, hnil, hl, Ending.text]
      | endOfText => exact absurd hnil (closed hl).1
      | returnFeed => simp [unlines, Line.text, hl, Ending.text] at hhead
      | carriageReturn => simp [unlines, Line.text, hl, Ending.text] at hhead

/-- By induction on the lines: each may stand where it stood. -/
theorem decomposes_padded {t : Text} {ls ms : List Line} (h : Decomposes t ls)
    (hpadded : List.Forall₂ Padded ls ms) : Decomposes (unlines ms) ms := by
  induction hpadded generalizing t with
  | nil => exact decomposes_nil.mpr rfl
  | @cons l m ls ms hm hms ih =>
    obtain ⟨u, rfl, hrest, plain, closed, alone⟩ := decomposes_cons.mp h
    refine decomposes_cons.mpr ⟨unlines ms, rfl, ih hrest, hm.plain plain, ?_, ?_⟩
    · intro hend
      rw [hm.ending] at hend
      obtain ⟨hbody, hls⟩ := closed hend
      subst hls
      cases hms
      exact ⟨fun hnil => hbody (hm.body_eq_nil hnil), rfl⟩
    · intro hreturn hhead
      rw [hm.ending] at hreturn
      exact alone hreturn (head?_of_padded hrest hms hhead)

theorem trimmed_padded {ls ms : List Line} (h : List.Forall₂ Padded ls ms) :
    ms.map (fun m => trimBlank m.body) = ls.map (fun l => trimBlank l.body) := by
  induction h with
  | nil => rfl
  | cons hm _ ih => rw [List.map_cons, List.map_cons, hm.trimBlank_body, ih]

theorem filters_padded {list : Text} {padded : List Line}
    (h : List.Forall₂ Padded (lines list) padded) : filters (unlines padded) = filters list := by
  have hlines : padded = lines (unlines padded) :=
    (decomposes_padded (decomposes_lines list) h).eq_lines
  calc filters (unlines padded)
      = (lines (unlines padded)).map (fun m => trimBlank m.body) := List.map_map
    _ = padded.map (fun m => trimBlank m.body) := by rw [← hlines]
    _ = (lines list).map (fun l => trimBlank l.body) := trimmed_padded h
    _ = filters list := List.map_map.symm

/-- Trimming takes the longest blank ends off a text and nothing else: a text is what is left between
two blank ends, and a text that neither begins nor ends with a blank character is what is left of it,
whatever blank ends are put around it. So what is left is trimmed already, blank ends that are added
do not matter, and no selection depends on how the records of a list are padded. -/
theorem trimBlank_takes_ends :
    (∀ x, ∃ front back, AllIn isBlank front ∧ AllIn isBlank back ∧
      x = front ++ trimBlank x ++ back ∧ Bare isBlank (trimBlank x)) ∧
    (∀ front y back, AllIn isBlank front → AllIn isBlank back → Bare isBlank y →
      trimBlank (front ++ y ++ back) = y) ∧
    (∀ x, trimBlank (trimBlank x) = trimBlank x) ∧
    (∀ front x back, AllIn isBlank front → AllIn isBlank back →
      trimBlank (front ++ x ++ back) = trimBlank x) ∧
    ∀ list padded n, List.Forall₂ Padded (lines list) padded →
      select (unlines padded) n = select list n := by
  refine ⟨?_, ?_, trimBy_trimBy isBlank, ?_, ?_⟩
  · intro x
    obtain ⟨front, back, hfront, hback, hx⟩ := exists_ends_of_trimBy isBlank x
    exact ⟨front, back, hfront, hback, hx, bare_trimBy isBlank x⟩
  · intro front y back hfront hback hy
    exact trimBy_around_bare hfront hback hy
  · intro front x back hfront hback
    exact trimBy_around hfront hback x
  · intro list padded n h
    exact select_congr (filters_padded h) n

/-- A blank character between a carriage return and its line feed would not be padding. -/
example : select " a\x0B\r\n\t\x1Cb".toList 2 = select "a\r\nb".toList 2 ∧
    select "a\r \nb".toList 2 ≠ select "a\r\nb".toList 2 := by
  decide

end SiteFilter
