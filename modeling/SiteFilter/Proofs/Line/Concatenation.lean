import SiteFilter.Proofs.Line.Decomposition

/-!
# The lines of a text that is continued

A text behind another one changes no line of the first but its last, and that one only where it is
still open: a carriage return takes in the line feed that follows it, and a line that the end of the
text closed goes on into the first line of the text behind it.

What is proved:
  1. `lines_append_of_eq_concat` — what becomes of the last line says what becomes of all lines.
  2. `lines_returned`, `lines_body_append` — the two ways in which a last line goes on.
  3. `getLast?_eq_lineFeed_iff`, `getLast?_eq_return_iff` — the last character of a text says how its
     last line is closed.
  4. `records_append_of_endsLine`, `records_append_lineFeed`, `records_append_of_open` — the records
     of a continued text, by the characters on the two sides of the seam.
  5. `exists_records_append` — in every case, the records before the last are kept and the last one
     is kept or grows.
-/

namespace SiteFilter

/-- Whether a text ends in a line end character. -/
def EndsLine (t : Text) : Prop := t.getLast? = some '\n' ∨ t.getLast? = some '\r'

/-! ## The last line -/

theorem exists_lines_eq_concat {t : Text} (h : t ≠ []) : ∃ before l, lines t = before ++ [l] := by
  rcases List.eq_nil_or_concat (lines t) with hnil | ⟨before, l, hlines⟩
  · apply absurd _ h
    rw [← unlines_lines t, hnil]
    rfl
  · exact ⟨before, l, by rw [hlines, List.concat_eq_append]⟩

/-- Only the last line of a text depends on what stands behind the text. -/
theorem lines_append_of_eq_concat {a : Text} {before : List Line} {l : Line}
    (h : lines a = before ++ [l]) (b : Text) : lines (a ++ b) = before ++ lines (l.text ++ b) := by
  have decomposed : Decomposes a (before ++ [l]) := h ▸ decomposes_lines a
  clear h
  induction before generalizing a with
  | nil =>
    obtain rfl : l.text = a := by simpa [unlines] using decomposed.whole
    rfl
  | cons m before ih =>
    obtain ⟨u, rfl, rest, plain, closed, alone⟩ := decomposes_cons.mp decomposed
    have hu : u ≠ [] := by
      rintro rfl
      have hlines : before ++ [l] = [] := rest.eq_lines
      simp at hlines
    rw [List.append_assoc, lines_text_append plain, ih rest, List.cons_append]
    · intro hend
      have := (closed hend).2
      simp at this
    · -- the character behind `m` is the one that was there before
      intro hreturn
      obtain ⟨c, u, rfl⟩ := List.exists_cons_of_ne_nil hu
      exact alone hreturn

/-- A carriage return takes in the line feed that follows it. -/
theorem lines_returned {body : Text} (plain : '\n' ∉ body ∧ '\r' ∉ body) (b : Text) :
    lines ((⟨body, .carriageReturn⟩ : Line).text ++ '\n' :: b) = ⟨body, .returnFeed⟩ :: lines b := by
  have split : (⟨body, .carriageReturn⟩ : Line).text ++ '\n' :: b =
      (⟨body, .returnFeed⟩ : Line).text ++ b := by
    simp [Line.text, Ending.text]
  rw [split]
  exact lines_text_append plain (by simp) (by simp)

/-- Characters that end no line go into the first line of what follows them. -/
theorem lines_body_append {body b : Text} (plain : '\n' ∉ body ∧ '\r' ∉ body) {m : Line}
    {ms : List Line} (h : lines b = m :: ms) :
    lines (body ++ b) = ⟨body ++ m.body, m.ending⟩ :: ms := by
  obtain ⟨hn, hr⟩ := plain
  induction body with
  | nil => exact h
  | cons c rest ih =>
    rw [List.mem_cons, not_or] at hn hr
    rw [List.cons_append, lines_cons (Ne.symm hn.1) (Ne.symm hr.1), ih hn.2 hr.2]
    rfl

/-! ## The last character -/

section
variable {a : Text} {before : List Line} {l : Line}

theorem plain_of_eq_concat (h : lines a = before ++ [l]) : '\n' ∉ l.body ∧ '\r' ∉ l.body :=
  body_of_mem_lines (t := a) (by rw [h]; simp)

theorem body_ne_nil_of_eq_concat (h : lines a = before ++ [l]) (hend : l.ending = .endOfText) :
    l.body ≠ [] :=
  ((decomposes_lines a).closed before l [] h hend).1

theorem text_ne_nil_of_eq_concat (h : lines a = before ++ [l]) : l.text ≠ [] := by
  have hbody := body_ne_nil_of_eq_concat h
  unfold Line.text
  cases hending : l.ending with
  | endOfText => simpa [Ending.text] using hbody hending
  | _ => simp [Ending.text]

/-- The last character of a text is the last one of its last line. -/
theorem getLast?_of_eq_concat (h : lines a = before ++ [l]) : a.getLast? = l.text.getLast? := by
  have whole : a = unlines before ++ l.text := by
    rw [← unlines_lines a, h]
    simp [unlines]
  rw [whole, List.getLast?_append,
    Option.or_of_isSome (List.getLast?_isSome.mpr (text_ne_nil_of_eq_concat h))]

/-- A character that is not in the body of the last line ends the text only with that line's
ending. -/
theorem getLast?_eq_iff_ending (h : lines a = before ++ [l]) {c : Char} (hc : c ∉ l.body) :
    a.getLast? = some c ↔ l.ending.text.getLast? = some c := by
  rw [getLast?_of_eq_concat h, Line.text, List.getLast?_append]
  cases l.ending.text.getLast? with
  | none =>
    rw [Option.none_or]
    refine iff_of_false ?_ (by simp)
    intro hlast
    exact hc (List.mem_of_getLast? hlast)
  | some d => rw [Option.some_or]

theorem getLast?_eq_lineFeed_iff (h : lines a = before ++ [l]) :
    a.getLast? = some '\n' ↔ l.ending = .lineFeed ∨ l.ending = .returnFeed := by
  rw [getLast?_eq_iff_ending h (plain_of_eq_concat h).1]
  cases l.ending <;> simp [Ending.text]

theorem getLast?_eq_return_iff (h : lines a = before ++ [l]) :
    a.getLast? = some '\r' ↔ l.ending = .carriageReturn := by
  rw [getLast?_eq_iff_ending h (plain_of_eq_concat h).2]
  cases l.ending <;> simp [Ending.text]

end

/-! ## The records of a continued text -/

theorem records_append_of_eq_concat {a : Text} {before : List Line} {l : Line}
    (h : lines a = before ++ [l]) (b : Text) :
    records (a ++ b) = before.map Line.body ++ (lines (l.text ++ b)).map Line.body := by
  rw [records, lines_append_of_eq_concat h, List.map_append]

/-- A line that is closed stays as it is. -/
theorem records_append_of_endsLine {a b : Text}
    (h : a.getLast? = some '\n' ∨ (a.getLast? = some '\r' ∧ b.head? ≠ some '\n')) :
    records (a ++ b) = records a ++ records b := by
  have hne : a ≠ [] := by
    rintro rfl
    simp at h
  obtain ⟨before, l, hlines⟩ := exists_lines_eq_concat hne
  rw [getLast?_eq_lineFeed_iff hlines, getLast?_eq_return_iff hlines] at h
  have hfirst : lines (l.text ++ b) = l :: lines b := by
    apply lines_text_append (plain_of_eq_concat hlines)
    · intro hend
      simp [hend] at h
    · intro hreturn
      simpa [hreturn] using h
  rw [records_append_of_eq_concat hlines, hfirst, records, records, hlines]
  simp

theorem records_append_lineFeed {a : Text} (h : a.getLast? = some '\r') (b : Text) :
    records (a ++ '\n' :: b) = records a ++ records b := by
  have hne : a ≠ [] := by
    rintro rfl
    simp at h
  obtain ⟨before, l, hlines⟩ := exists_lines_eq_concat hne
  have plain := plain_of_eq_concat hlines
  obtain ⟨body, ending⟩ := l
  obtain rfl : ending = .carriageReturn := (getLast?_eq_return_iff hlines).mp h
  rw [records_append_of_eq_concat hlines, lines_returned plain, records, records, hlines]
  simp

/-- A last line that only the end of the text closed goes on into the first line behind it. -/
theorem records_append_of_open {a b : Text} (hne : a ≠ []) (h : ¬ EndsLine a) (hb : b ≠ []) :
    ∃ before last first after, records a = before ++ [last] ∧ records b = first :: after ∧
      records (a ++ b) = before ++ (last ++ first) :: after := by
  obtain ⟨before, l, hlines⟩ := exists_lines_eq_concat hne
  obtain ⟨m, ms, hb⟩ : ∃ m ms, lines b = m :: ms := by
    apply List.exists_cons_of_ne_nil
    intro hnil
    apply hb
    rw [← unlines_lines b, hnil]
    rfl
  have plain := plain_of_eq_concat hlines
  unfold EndsLine at h
  rw [getLast?_eq_lineFeed_iff hlines, getLast?_eq_return_iff hlines] at h
  obtain ⟨body, ending⟩ := l
  obtain rfl : ending = .endOfText := by cases ending <;> simp at h ⊢
  have htext : (⟨body, .endOfText⟩ : Line).text = body := List.append_nil body
  refine ⟨before.map Line.body, body, m.body, ms.map Line.body, ?_, ?_, ?_⟩
  · rw [records, hlines, List.map_append]
    rfl
  · rw [records, hb]
    rfl
  · rw [records_append_of_eq_concat hlines, htext, lines_body_append plain hb]
    rfl

/-- Whatever is put behind a text, its records before the last are kept, and the last one is kept
or, if no line end closes it, continued. -/
theorem exists_records_append {a : Text} (hne : a ≠ []) (b : Text) :
    ∃ before last more after, records a = before ++ [last] ∧
      records (a ++ b) = before ++ (last ++ more) :: after ∧ (EndsLine a → more = []) := by
  obtain ⟨before, l, hlines⟩ := exists_lines_eq_concat hne
  have hrecords : records a = before.map Line.body ++ [l.body] := by
    rw [records, hlines, List.map_append]
    rfl
  by_cases hends : EndsLine a
  · have hclosed : ∃ rest, records (a ++ b) = records a ++ rest := by
      by_cases hseam : a.getLast? = some '\r' ∧ b.head? = some '\n'
      · obtain ⟨hreturn, hfeed⟩ := hseam
        obtain ⟨b', rfl⟩ := List.head?_eq_some_iff.mp hfeed
        exact ⟨records b', records_append_lineFeed hreturn b'⟩
      · refine ⟨records b, records_append_of_endsLine ?_⟩
        cases hends with
        | inl hfeed => exact .inl hfeed
        | inr hreturn => exact .inr ⟨hreturn, fun hfeed => hseam ⟨hreturn, hfeed⟩⟩
    obtain ⟨rest, hrest⟩ := hclosed
    refine ⟨_, l.body, [], rest, hrecords, ?_, fun _ => rfl⟩
    rw [hrest, hrecords, List.append_nil, List.append_assoc, List.singleton_append]
  · by_cases hb : b = []
    · subst hb
      refine ⟨_, l.body, [], [], hrecords, ?_, fun _ => rfl⟩
      rw [List.append_nil, List.append_nil, hrecords]
    · obtain ⟨before, last, first, after, ha, _, happend⟩ := records_append_of_open hne hends hb
      exact ⟨before, last, first, after, ha, happend, fun h => absurd h hends⟩

end SiteFilter
