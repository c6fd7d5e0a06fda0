import SiteFilter.Proofs.Selection.Continuation
import SiteFilter.Proofs.Selection.Reselection

/-!
# Line ends made one kind

A text can be rewritten to have line feeds only: a line feed is put for every carriage return with its
line feed, and then for every carriage return that is left. The lines of the text stay what they are,
but for their endings, so its records are the pieces between the line feeds of the rewritten text.

What is proved:
  1. `lines_unifyEnds` — the lines of the rewritten text.
  2. `records_eq_pieces` — where there is no carriage return, records are pieces between line feeds.
  3. `records_around` — a character that is no line end has its place within a record.
  4. `unifyEnds_keeps_selection` — all of it, and what is selected.
-/

namespace SiteFilter

/-! ## Rewriting -/

/-- A line feed in place of every carriage return with its line feed. -/
def foldReturnFeeds : Text → Text
  | [] => []
  | '\r' :: '\n' :: rest => '\n' :: foldReturnFeeds rest
  | c :: rest => c :: foldReturnFeeds rest

/-- A line feed in place of every carriage return. -/
def feedReturns (t : Text) : Text := t.map fun c => if c = '\r' then '\n' else c

/-- A text with line feeds for all its line ends. -/
def unifyEnds (t : Text) : Text := feedReturns (foldReturnFeeds t)

theorem unifyEnds_returnFeed (rest : Text) :
    unifyEnds ('\r' :: '\n' :: rest) = '\n' :: unifyEnds rest := rfl

/-- In front of anything but a line feed, a carriage return is one of those that are left. -/
theorem unifyEnds_return {rest : Text} (h : rest.head? ≠ some '\n') :
    unifyEnds ('\r' :: rest) = '\n' :: unifyEnds rest := by
  have hfold : foldReturnFeeds ('\r' :: rest) = '\r' :: foldReturnFeeds rest := by
    rw [foldReturnFeeds]
    intro more _ hmore
    exact h (by rw [hmore]; rfl)
  show feedReturns (foldReturnFeeds ('\r' :: rest)) = '\n' :: unifyEnds rest
  rw [hfold]
  rfl

theorem unifyEnds_cons {c : Char} (hr : c ≠ '\r') (rest : Text) :
    unifyEnds (c :: rest) = c :: unifyEnds rest := by
  have hfold : foldReturnFeeds (c :: rest) = c :: foldReturnFeeds rest := by
    rw [foldReturnFeeds]
    intro _ hc _
    exact hr hc
  show feedReturns (foldReturnFeeds (c :: rest)) = c :: unifyEnds rest
  rw [hfold]
  show (if c = '\r' then '\n' else c) :: unifyEnds rest = c :: unifyEnds rest
  rw [if_neg hr]

theorem return_notMem_unifyEnds (t : Text) : '\r' ∉ unifyEnds t := by
  intro hmem
  obtain ⟨c, _, hc⟩ := List.mem_map.mp hmem
  split at hc
  · exact absurd hc (by decide)
  · next hne => exact hne hc

/-! ## The lines of a rewritten text -/

def Ending.unified : Ending → Ending
  | .endOfText => .endOfText
  | _ => .lineFeed

def Line.unified (l : Line) : Line := { l with ending := l.ending.unified }

theorem unified_extend (c : Char) (ls : List Line) :
    (Line.extend c ls).map Line.unified = Line.extend c (ls.map Line.unified) := by
  cases ls <;> rfl

/-- Along the lines of the text: each is rewritten by itself. -/
theorem lines_unifyEnds (t : Text) : lines (unifyEnds t) = (lines t).map Line.unified := by
  fun_induction lines t with
  | case1 => rfl
  | case2 rest ih =>
    rw [unifyEnds_cons (by decide), lines, ih]
    rfl
  | case3 rest ih =>
    rw [unifyEnds_returnFeed, lines, ih]
    rfl
  | case4 rest hrest ih =>
    have hhead : rest.head? ≠ some '\n' := by
      intro hfeed
      obtain ⟨more, rfl⟩ := List.head?_eq_some_iff.mp hfeed
      exact hrest more rfl
    rw [unifyEnds_return hhead, lines, ih]
    rfl
  | case5 c rest hn _ hr ih =>
    rw [unifyEnds_cons hr, lines_cons hn hr, ih, unified_extend]

theorem records_unifyEnds (t : Text) : records (unifyEnds t) = records t := by
  rw [records, lines_unifyEnds, List.map_map]
  rfl

/-! ## Pieces -/

/-- The pieces without the last one, if that is empty. -/
def dropBlankLast (pieces : List Text) : List Text :=
  if pieces.getLast? = some [] then pieces.dropLast else pieces

theorem joinLines_cutAt (t : Text) : joinLines (cutAt '\n' t) = t := by
  induction t with
  | nil => rfl
  | cons x rest ih =>
    obtain ⟨piece, pieces, hcut⟩ := List.exists_cons_of_ne_nil (cutAt_ne_nil '\n' rest)
    rw [cutAt, hcut]
    rw [hcut] at ih
    by_cases hx : x = '\n'
    · rw [if_pos hx, hx, ← ih]
      rfl
    · rw [if_neg hx, ← ih]
      cases pieces <;> rfl

theorem mem_of_mem_cutAt {α : Type} [DecidableEq α] {c x : α} {t piece : List α}
    (h : piece ∈ cutAt c t) (hx : x ∈ piece) : x ∈ t ∧ x ≠ c := by
  induction t generalizing piece with
  | nil =>
    rw [cutAt, List.mem_singleton] at h
    subst h
    cases hx
  | cons y rest ih =>
    obtain ⟨first, pieces, hcut⟩ := List.exists_cons_of_ne_nil (cutAt_ne_nil c rest)
    rw [cutAt, hcut] at h
    rw [hcut] at ih
    by_cases hy : y = c
    · rw [if_pos hy] at h
      rcases List.mem_cons.mp h with rfl | h
      · cases hx
      · obtain ⟨hmem, hne⟩ := ih h hx
        exact ⟨List.mem_cons_of_mem y hmem, hne⟩
    · rw [if_neg hy] at h
      -- only the first piece has grown, by `y`
      rcases List.mem_cons.mp h with rfl | h
      · rcases List.mem_cons.mp hx with rfl | hx
        · exact ⟨List.mem_cons_self, hy⟩
        · obtain ⟨hmem, hne⟩ := ih List.mem_cons_self hx
          exact ⟨List.mem_cons_of_mem y hmem, hne⟩
      · obtain ⟨hmem, hne⟩ := ih (List.mem_cons_of_mem first h) hx
        exact ⟨List.mem_cons_of_mem y hmem, hne⟩

theorem records_eq_pieces {t : Text} (h : '\r' ∉ t) :
    records t = dropBlankLast (cutAt '\n' t) := by
  have plain : ∀ piece ∈ cutAt '\n' t, '\n' ∉ piece ∧ '\r' ∉ piece := by
    intro piece hpiece
    refine ⟨?_, ?_⟩
    · intro hmem
      exact (mem_of_mem_cutAt hpiece hmem).2 rfl
    · intro hmem
      exact h (mem_of_mem_cutAt hpiece hmem).1
  calc records t = records (joinLines (cutAt '\n' t)) := by rw [joinLines_cutAt]
    _ = dropBlankLast (cutAt '\n' t) := records_joinLines plain

/-! ## All other characters -/

section
variable {c : Char} (hn : c ≠ '\n') (hr : c ≠ '\r')
include hn hr

theorem records_cons (b : Text) : ∃ y after, records (c :: b) = (c :: y) :: after := by
  rw [records, lines_cons hn hr]
  cases lines b with
  | nil => exact ⟨[], [], rfl⟩
  | cons l ls => exact ⟨l.body, ls.map Line.body, rfl⟩

/-- A character that is no line end stands within a record: what is open in front of it goes on
through it into what follows. -/
theorem records_around (a b : Text) :
    ∃ before x y after, records (a ++ c :: b) = before ++ (x ++ c :: y) :: after ∧
      ((records a = before ∧ x = []) ∨ records a = before ++ [x]) ∧
      records (c :: b) = (c :: y) :: after := by
  obtain ⟨y, after, hb⟩ := records_cons hn hr b
  by_cases hnil : a = []
  · subst hnil
    exact ⟨[], [], y, after, hb, .inl ⟨rfl, rfl⟩, hb⟩
  by_cases hends : EndsLine a
  · have hseam : a.getLast? = some '\n' ∨
        (a.getLast? = some '\r' ∧ (c :: b).head? ≠ some '\n') := by
      rcases hends with hfeed | hreturn
      · exact .inl hfeed
      · exact .inr ⟨hreturn, by simpa using hn⟩
    refine ⟨records a, [], y, after, ?_, .inl ⟨rfl, rfl⟩, hb⟩
    rw [records_append_of_endsLine hseam, hb]
    rfl
  · obtain ⟨before, last, first, rest, ha, hfirst, happend⟩ :=
      records_append_of_open hnil hends (List.cons_ne_nil c b)
    rw [hb] at hfirst
    obtain ⟨rfl, rfl⟩ := List.cons.inj hfirst
    exact ⟨before, last, y, after, happend, .inr ha, hb⟩

end

/-! ## What is selected -/

/-- Rewritten to have line feeds only, a list keeps its records, and they are the pieces between the
line feeds, without a last one that is empty. So every selection from it stays the same, a refused one
too. No other character parts records, be it a vertical tab, a form feed, an information separator,
U+0085, U+2028 or U+2029. -/
theorem unifyEnds_keeps_selection (list : Text) :
    records list = records (unifyEnds list) ∧
    records list = dropBlankLast (cutAt '\n' (unifyEnds list)) ∧
    (∀ n, select list n = select (unifyEnds list) n) ∧
    ∀ c, c ≠ '\n' → c ≠ '\r' → ∀ a b, list = a ++ c :: b →
      ∃ before x y after, records list = before ++ (x ++ c :: y) :: after ∧
        ((records a = before ∧ x = []) ∨ records a = before ++ [x]) ∧
        records (c :: b) = (c :: y) :: after := by
  have hrecords := records_unifyEnds list
  refine ⟨hrecords.symm, ?_, ?_, ?_⟩
  · rw [← hrecords]
    exact records_eq_pieces (return_notMem_unifyEnds list)
  · intro n
    apply select_congr
    unfold filters
    rw [hrecords]
  · intro c hn hr a b hlist
    rw [hlist]
    exact records_around hn hr a b

/-- Folding leaves a carriage return in front of a line feed here, and both become line feeds. -/
example : unifyEnds "a\r\r\n\x0Bb\r".toList = "a\n\n\x0Bb\n".toList ∧
    records "a\r\r\n\x0Bb\r".toList = [['a'], [], ['\x0B', 'b']] := by
  decide

end SiteFilter
