import SiteFilter.Line

/-!
# The decomposition of a text into lines

A text is decomposed by lines that make it up when written one after the other, such that no body
holds a line end character, only the last line may be closed by the end of the text and then has a
body, and no carriage return that closes a line alone has a line feed behind it.

What is proved:
  1. `decomposes_lines` — every text is decomposed by its lines.
  2. `Decomposes.eq_lines` — nothing else decomposes it: lines that satisfy the conditions are read
     back from what they make up, whatever their bodies and endings.
  3. `records_decomposition` — so the records of a text are the bodies of its one decomposition.

Both directions go line by line: `decomposes_cons` takes the first line off a decomposition and
`lines_text_append` takes it off the text.
-/

namespace SiteFilter

/-- The lines `ls` are a way to read the text `t`. -/
structure Decomposes (t : Text) (ls : List Line) : Prop where
  whole : unlines ls = t
  plain : ∀ l ∈ ls, '\n' ∉ l.body ∧ '\r' ∉ l.body
  /-- The end of the text closes no line but the last, and no line without a body. -/
  closed : ∀ before l after, ls = before ++ l :: after → l.ending = .endOfText →
    l.body ≠ [] ∧ after = []
  /-- A carriage return that closes a line alone is not followed by a line feed. -/
  alone : ∀ before l after, ls = before ++ l :: after → l.ending = .carriageReturn →
    (unlines after).head? ≠ some '\n'

/-! ## The first line of a text -/

theorem lines_cons {c : Char} (hn : c ≠ '\n') (hr : c ≠ '\r') (t : Text) :
    lines (c :: t) = Line.extend c (lines t) := by
  rw [lines]
  · exact hn
  · -- a carriage return in front of a line feed
    intro rest h _
    exact hr h
  · exact hr

theorem lines_return {t : Text} (h : t.head? ≠ some '\n') :
    lines ('\r' :: t) = ⟨[], .carriageReturn⟩ :: lines t := by
  rw [lines]
  intro rest hrest
  apply h
  rw [hrest]
  rfl

/-- A line in front of a text is its first line, if its ending can stand there. -/
theorem lines_text_append {l : Line} {t : Text} (plain : '\n' ∉ l.body ∧ '\r' ∉ l.body)
    (closed : l.ending = .endOfText → l.body ≠ [] ∧ t = [])
    (alone : l.ending = .carriageReturn → t.head? ≠ some '\n') :
    lines (l.text ++ t) = l :: lines t := by
  obtain ⟨body, ending⟩ := l
  obtain ⟨hn, hr⟩ := plain
  simp only at hn hr closed alone
  induction body with
  | nil =>
    cases ending with
    | lineFeed => simp [Line.text, Ending.text, lines]
    | returnFeed => simp [Line.text, Ending.text, lines]
    | carriageReturn => simpa [Line.text, Ending.text] using lines_return (alone rfl)
    | endOfText => exact absurd rfl (closed rfl).1
  | cons c rest ih =>
    have hcn : c ≠ '\n' := fun e => hn (by simp [e])
    have hcr : c ≠ '\r' := fun e => hr (by simp [e])
    have hrn : '\n' ∉ rest := fun m => hn (by simp [m])
    have hrr : '\r' ∉ rest := fun m => hr (by simp [m])
    show lines (c :: ((⟨rest, ending⟩ : Line).text ++ t)) = ⟨c :: rest, ending⟩ :: lines t
    rw [lines_cons hcn hcr]
    by_cases hopen : rest = [] ∧ ending = .endOfText
    · -- nothing is left of the line, and nothing of the text
      obtain ⟨rfl, rfl⟩ := hopen
      rw [(closed rfl).2]
      rfl
    · have hrest : ending = .endOfText → rest ≠ [] ∧ t = [] := by
        intro he
        refine ⟨?_, (closed he).2⟩
        intro hb
        exact hopen ⟨hb, he⟩
      rw [ih hrest hrn hrr]
      rfl

/-! ## The first line of a decomposition -/

theorem decomposes_nil {t : Text} : Decomposes t [] ↔ t = [] := by
  constructor
  · intro h
    exact h.whole.symm
  · intro h
    subst h
    exact ⟨rfl, by simp, by simp, by simp⟩

/-- A decomposition is its first line, if that can stand in front of the rest of the text, and a
decomposition of the rest. -/
theorem decomposes_cons {t : Text} {l : Line} {ls : List Line} :
    Decomposes t (l :: ls) ↔ ∃ u, t = l.text ++ u ∧ Decomposes u ls ∧
      ('\n' ∉ l.body ∧ '\r' ∉ l.body) ∧ (l.ending = .endOfText → l.body ≠ [] ∧ ls = []) ∧
      (l.ending = .carriageReturn → u.head? ≠ some '\n') := by
  constructor
  · intro h
    refine ⟨unlines ls, h.whole.symm, ?_, h.plain l (by simp), h.closed [] l ls rfl,
      h.alone [] l ls rfl⟩
    refine ⟨rfl, fun x hx => h.plain x (List.mem_cons_of_mem l hx), ?_, ?_⟩
    · intro before x after hls
      exact h.closed (l :: before) x after (by rw [hls]; rfl)
    · intro before x after hls
      exact h.alone (l :: before) x after (by rw [hls]; rfl)
  · intro hfirst
    obtain ⟨u, rfl, h, plain, closed, alone⟩ := hfirst
    refine ⟨by rw [unlines_cons, h.whole], ?_, ?_, ?_⟩
    · intro x hx
      rcases List.mem_cons.mp hx with rfl | hx
      · exact plain
      · exact h.plain x hx
    · intro before x after hls
      cases before with
      | nil =>
        obtain ⟨rfl, rfl⟩ := List.cons.inj hls
        exact closed
      | cons y before =>
        exact h.closed before x after (List.cons.inj hls).2
    · intro before x after hls
      cases before with
      | nil =>
        obtain ⟨rfl, rfl⟩ := List.cons.inj hls
        rw [h.whole]
        exact alone
      | cons y before =>
        exact h.alone before x after (List.cons.inj hls).2

theorem Decomposes.extend {t : Text} {ls : List Line} (h : Decomposes t ls) {c : Char}
    (hn : c ≠ '\n') (hr : c ≠ '\r') : Decomposes (c :: t) (Line.extend c ls) := by
  cases ls with
  | nil =>
    obtain rfl := decomposes_nil.mp h
    refine decomposes_cons.mpr ⟨[], rfl, decomposes_nil.mpr rfl, ?_, ?_, ?_⟩
    · simp [hn.symm, hr.symm]
    · simp
    · simp
  | cons l ls =>
    obtain ⟨u, rfl, hrest, plain, closed, alone⟩ := decomposes_cons.mp h
    refine decomposes_cons.mpr ⟨u, rfl, hrest, ?_, ?_, alone⟩
    · simp [hn.symm, hr.symm, plain]
    · intro he
      exact ⟨by simp, (closed he).2⟩

/-! ## Existence and uniqueness -/

theorem decomposes_lines (t : Text) : Decomposes t (lines t) := by
  fun_induction lines t with
  | case1 => exact decomposes_nil.mpr rfl
  | case2 rest ih => exact decomposes_cons.mpr ⟨rest, rfl, ih, by simp, by simp, by simp⟩
  | case3 rest ih => exact decomposes_cons.mpr ⟨rest, rfl, ih, by simp, by simp, by simp⟩
  | case4 rest hrest ih =>
    refine decomposes_cons.mpr ⟨rest, rfl, ih, by simp, by simp, ?_⟩
    intro _ hhead
    -- with a line feed behind it the carriage return would have taken it in
    obtain ⟨more, rfl⟩ := List.head?_eq_some_iff.mp hhead
    exact hrest more rfl
  | case5 c rest hn _ hr ih => exact ih.extend hn hr

theorem Decomposes.eq_lines {t : Text} {ls : List Line} (h : Decomposes t ls) : ls = lines t := by
  induction ls generalizing t with
  | nil =>
    obtain rfl := decomposes_nil.mp h
    rfl
  | cons l ls ih =>
    obtain ⟨u, rfl, hrest, plain, closed, alone⟩ := decomposes_cons.mp h
    -- no lines left means no text left
    have hend : l.ending = .endOfText → l.body ≠ [] ∧ u = [] := by
      intro he
      obtain ⟨hbody, rfl⟩ := closed he
      exact ⟨hbody, decomposes_nil.mp hrest⟩
    rw [lines_text_append plain hend alone, ← ih hrest]

/-- A text has one decomposition into lines, and its records are the bodies of those lines. What
satisfies the conditions of a decomposition is what it is read back as. Only the empty text has no
record. -/
theorem records_decomposition (t : Text) :
    (∃ ls, Decomposes t ls ∧ records t = ls.map Line.body ∧ ∀ ls', Decomposes t ls' → ls' = ls) ∧
    (∀ ls, Decomposes (unlines ls) ls → records (unlines ls) = ls.map Line.body) ∧
    (records t = [] ↔ t = []) := by
  refine ⟨⟨lines t, decomposes_lines t, rfl, ?_⟩, ?_, ?_, ?_⟩
  · intro ls' h
    exact h.eq_lines
  · intro ls h
    rw [records, ← h.eq_lines]
  · intro h
    have hlines : lines t = [] := List.map_eq_nil_iff.mp h
    calc t = unlines (lines t) := (unlines_lines t).symm
      _ = [] := by rw [hlines]; rfl
  · intro h
    rw [h]
    rfl

/-- Two carriage returns in a row close two lines, the second together with its line feed. -/
example : lines "\r\r\n\n\ra".toList =
    [⟨[], .carriageReturn⟩, ⟨[], .returnFeed⟩, ⟨[], .lineFeed⟩, ⟨[], .carriageReturn⟩,
      ⟨['a'], .endOfText⟩] := by
  decide

end SiteFilter
