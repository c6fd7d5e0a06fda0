import SiteFilter.Text.Basic

/-!
# Lines and records

A text is read as lines. A line is a body without line end characters and the ending that closes
it: a line feed, a carriage return with its line feed, a carriage return alone, or the end of the
text. The records of a text are the bodies of its lines.

What holds here:
  1. Nothing is lost: the lines of a text, written one after the other, are the text
     (`unlines_lines`).
  2. A body holds no line end character (`body_of_mem_lines`).
  3. The end of the text closes a line only if the line has a body, so a text that ends in a line
     end opens no further record and the empty text has none.
-/

namespace SiteFilter

inductive Ending where
  | lineFeed
  | returnFeed
  | carriageReturn
  | endOfText
  deriving DecidableEq, Repr

def Ending.text : Ending → Text
  | .lineFeed => ['\n']
  | .returnFeed => ['\r', '\n']
  | .carriageReturn => ['\r']
  | .endOfText => []

structure Line where
  body : Text
  ending : Ending
  deriving DecidableEq, Repr

/-- The characters of a line, ending included. -/
def Line.text (l : Line) : Text := l.body ++ l.ending.text

/-- `c` in front of the first of some lines; where there is none, a line of its own that the end
of the text closes. -/
def Line.extend (c : Char) : List Line → List Line
  | [] => [⟨[c], .endOfText⟩]
  | l :: rest => { l with body := c :: l.body } :: rest

/-- The lines of a text. A carriage return takes a line feed that follows it into its ending. -/
def lines : Text → List Line
  | [] => []
  | '\n' :: rest => ⟨[], .lineFeed⟩ :: lines rest
  | '\r' :: '\n' :: rest => ⟨[], .returnFeed⟩ :: lines rest
  | '\r' :: rest => ⟨[], .carriageReturn⟩ :: lines rest
  | c :: rest => Line.extend c (lines rest)

def unlines (ls : List Line) : Text := ls.flatMap Line.text

/-- The records of a text: the bodies of its lines. -/
def records (t : Text) : List Text := (lines t).map Line.body

/-! ## Nothing is lost -/

theorem unlines_cons (l : Line) (ls : List Line) : unlines (l :: ls) = l.text ++ unlines ls := rfl

theorem unlines_extend (c : Char) (ls : List Line) :
    unlines (Line.extend c ls) = c :: unlines ls := by
  cases ls <;> simp [Line.extend, unlines, Line.text, Ending.text]

theorem unlines_lines (t : Text) : unlines (lines t) = t := by
  fun_induction lines t with
  | case1 => rfl
  | case2 rest ih => simp [unlines_cons, Line.text, Ending.text, ih]
  | case3 rest ih => simp [unlines_cons, Line.text, Ending.text, ih]
  | case4 rest _ ih => simp [unlines_cons, Line.text, Ending.text, ih]
  | case5 c rest _ _ _ ih => simp [unlines_extend, ih]

/-! ## Bodies hold no line end -/

theorem body_of_mem_lines {t : Text} {l : Line} (h : l ∈ lines t) :
    '\n' ∉ l.body ∧ '\r' ∉ l.body := by
  fun_induction lines t generalizing l with
  | case1 => simp at h
  | case2 rest ih =>
    rcases List.mem_cons.mp h with rfl | h
    · simp
    · exact ih h
  | case3 rest ih =>
    rcases List.mem_cons.mp h with rfl | h
    · simp
    · exact ih h
  | case4 rest _ ih =>
    rcases List.mem_cons.mp h with rfl | h
    · simp
    · exact ih h
  | case5 c rest hn _ hr ih =>
    have hcn : '\n' ≠ c := fun e => hn e.symm
    have hcr : '\r' ≠ c := fun e => hr e.symm
    -- `c` has become the first character of the first line of the rest
    cases hls : lines rest with
    | nil =>
      rw [hls] at h
      simp only [Line.extend, List.mem_singleton] at h
      subst h
      simp [hcn, hcr]
    | cons m ms =>
      rw [hls] at h ih
      rcases List.mem_cons.mp h with rfl | h
      · have := ih (l := m) (by simp)
        simp [hcn, hcr, this]
      · exact ih (List.mem_cons_of_mem m h)

/-- A record holds no line end character. -/
theorem record_of_mem_records {t r : Text} (h : r ∈ records t) : '\n' ∉ r ∧ '\r' ∉ r := by
  obtain ⟨l, hl, rfl⟩ := List.mem_map.mp h
  exact body_of_mem_lines hl

end SiteFilter
