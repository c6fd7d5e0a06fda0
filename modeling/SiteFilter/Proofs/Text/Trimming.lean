import SiteFilter.Text.Blank

/-!
# Trimmed texts

A text is bare for a class of characters if none of the class stands at either of its ends. Trimming
leaves a bare text behind and changes no bare text, so a text is trimmed once for all.

What is proved:
  1. `bare_trimBy` — what is trimmed is bare.
  2. `trimBy_of_bare` — what is bare is not changed by trimming.
  3. `trimBy_trimBy` — trimming twice is trimming once.
  4. `exists_ends_of_trimBy`, `trimBy_around_bare` — a text is a bare text between two texts of the
     class in one way only, up to the ends, and trimming finds it.
  5. `trimBy_around` — so texts of the class at its ends do not matter to what is trimmed.
-/

namespace SiteFilter

/-- No character in `p` stands at either end of the text. -/
structure Bare (p : Char → Bool) (t : Text) : Prop where
  first : ∀ c, t.head? = some c → p c = false
  last : ∀ c, t.getLast? = some c → p c = false

variable {p : Char → Bool} {t : Text}

theorem dropWhile_of_first (h : ∀ c, t.head? = some c → p c = false) : t.dropWhile p = t := by
  cases t with
  | nil => rfl
  | cons c rest => rw [List.dropWhile_cons_of_neg (by simp [h c rfl])]

theorem first_dropWhile {c : Char} (h : (t.dropWhile p).head? = some c) : p c = false := by
  have hfirst := List.head?_dropWhile_not p t
  rw [h] at hfirst
  exact hfirst

/-- What is dropped at the front takes nothing from the end, unless it is everything. -/
theorem last_dropWhile {c : Char} (h : (t.dropWhile p).getLast? = some c) :
    t.getLast? = some c := by
  rw [← List.takeWhile_append_dropWhile (p := p) (l := t), List.getLast?_append, h, Option.some_or]

theorem bare_trimBy (p : Char → Bool) (t : Text) : Bare p (trimBy p t) := by
  unfold trimBy
  constructor
  · intro c hc
    rw [List.head?_reverse] at hc
    have hfront := last_dropWhile hc
    rw [List.getLast?_reverse] at hfront
    exact first_dropWhile hfront
  · intro c hc
    rw [List.getLast?_reverse] at hc
    exact first_dropWhile hc

theorem trimBy_of_bare (h : Bare p t) : trimBy p t = t := by
  unfold trimBy
  rw [dropWhile_of_first h.first, dropWhile_of_first, List.reverse_reverse]
  intro c hc
  rw [List.head?_reverse] at hc
  exact h.last c hc

theorem trimBy_trimBy (p : Char → Bool) (t : Text) : trimBy p (trimBy p t) = trimBy p t :=
  trimBy_of_bare (bare_trimBy p t)

/-! ## What is taken away -/

/-- A text of characters in `p` alone. -/
def AllIn (p : Char → Bool) (t : Text) : Prop := ∀ c ∈ t, p c = true

theorem AllIn.append {u : Text} (ht : AllIn p t) (hu : AllIn p u) : AllIn p (t ++ u) := by
  intro c hc
  rcases List.mem_append.mp hc with hmem | hmem
  · exact ht c hmem
  · exact hu c hmem

theorem AllIn.reverse (h : AllIn p t) : AllIn p t.reverse := by
  intro c hc
  exact h c (List.mem_reverse.mp hc)

theorem allIn_takeWhile (p : Char → Bool) (t : Text) : AllIn p (t.takeWhile p) := by
  intro c hc
  exact List.all_eq_true.mp List.all_takeWhile c hc

theorem exists_ends_of_trimBy (p : Char → Bool) (t : Text) :
    ∃ front back, AllIn p front ∧ AllIn p back ∧ t = front ++ trimBy p t ++ back := by
  refine ⟨t.takeWhile p, ((t.dropWhile p).reverse.takeWhile p).reverse, allIn_takeWhile p t,
    (allIn_takeWhile p _).reverse, ?_⟩
  have hback : trimBy p t ++ ((t.dropWhile p).reverse.takeWhile p).reverse = t.dropWhile p := by
    rw [trimBy, ← List.reverse_append, List.takeWhile_append_dropWhile, List.reverse_reverse]
  rw [List.append_assoc, hback, List.takeWhile_append_dropWhile]

theorem trimBy_of_allIn (h : AllIn p t) : trimBy p t = [] := by
  have hdrop : t.dropWhile p = [] := by
    have hpast : (t ++ []).dropWhile p = [] := List.dropWhile_append_of_pos h
    rwa [List.append_nil] at hpast
  rw [trimBy, hdrop]
  rfl

theorem trimBy_eq_nil_iff {p : Char → Bool} {t : Text} : trimBy p t = [] ↔ AllIn p t := by
  refine ⟨?_, trimBy_of_allIn⟩
  intro hnil
  obtain ⟨front, back, hfront, hback, ht⟩ := exists_ends_of_trimBy p t
  rw [ht, hnil, List.append_nil]
  exact hfront.append hback

theorem trimBy_around_bare {front back : Text} (hfront : AllIn p front) (hback : AllIn p back)
    (h : Bare p t) : trimBy p (front ++ t ++ back) = t := by
  by_cases ht : t = []
  · subst ht
    apply trimBy_of_allIn
    rw [List.append_nil]
    exact hfront.append hback
  -- what is dropped at either end stops at a character of `t`
  have hfirst : (t ++ back).dropWhile p = t ++ back := by
    apply dropWhile_of_first
    intro c hc
    rw [List.head?_append, Option.or_of_isSome (List.isSome_head?.mpr ht)] at hc
    exact h.first c hc
  have hlast : t.reverse.dropWhile p = t.reverse := by
    apply dropWhile_of_first
    intro c hc
    rw [List.head?_reverse] at hc
    exact h.last c hc
  rw [trimBy, List.append_assoc, List.dropWhile_append_of_pos hfront, hfirst, List.reverse_append,
    List.dropWhile_append_of_pos hback.reverse, hlast, List.reverse_reverse]

theorem trimBy_around {front back : Text} (hfront : AllIn p front) (hback : AllIn p back)
    (t : Text) : trimBy p (front ++ t ++ back) = trimBy p t := by
  obtain ⟨front', back', hfront', hback', ht⟩ := exists_ends_of_trimBy p t
  calc trimBy p (front ++ t ++ back)
      = trimBy p ((front ++ front') ++ trimBy p t ++ (back' ++ back)) := by
        conv => lhs; rw [ht]
        simp only [List.append_assoc]
    _ = trimBy p t :=
        trimBy_around_bare (hfront.append hfront') (hback'.append hback) (bare_trimBy p t)

end SiteFilter
