import SiteFilter.Proofs.Line.Concatenation
import SiteFilter.Selection

/-!
# A site list that is added to

Entries put behind a site list make it longer and never shorter. A selection that needs only records
that are complete is the same before and after.

What is proved:
  1. `length_records_le_append` — no record is lost by what is put behind a list.
  2. `take_records_append` — nor does a complete record change.
  3. `records_concatenation` — the records of two texts put together, by what stands at the seam, and
     both consequences.
-/

namespace SiteFilter

/-- The first `n` records of a list are complete: more of them follow, or a line end closes the
last. -/
def CompleteTo (list : Text) (n : Nat) : Prop :=
  n < (records list).length ∨ (n = (records list).length ∧ EndsLine list)

variable {a : Text} {n : Nat}

theorem length_records_le_append (a b : Text) :
    (records a).length ≤ (records (a ++ b)).length := by
  by_cases hne : a = []
  · subst hne
    exact Nat.zero_le _
  · obtain ⟨before, last, more, after, ha, happend, _⟩ := exists_records_append hne b
    rw [ha, happend]
    simp only [List.length_append, List.length_cons, List.length_nil]
    omega

theorem take_records_append (h : CompleteTo a n) (b : Text) :
    (records (a ++ b)).take n = (records a).take n := by
  have hne : a ≠ [] := by
    rintro rfl
    rcases h with h | ⟨_, h⟩
    · exact absurd h (Nat.not_lt_zero n)
    · simp [EndsLine] at h
  obtain ⟨before, last, more, after, ha, happend, hends⟩ := exists_records_append hne b
  unfold CompleteTo at h
  rw [ha, List.length_append, List.length_singleton] at h
  rw [ha, happend]
  rcases h with hlt | ⟨rfl, hclosed⟩
  · -- the last record is not among them
    have hle : n ≤ before.length := Nat.le_of_lt_succ hlt
    rw [List.take_append_of_le_length hle, List.take_append_of_le_length hle]
  · rw [hends hclosed, List.append_nil, List.take_append, List.take_append]
    simp

theorem le_length_of_completeTo (h : CompleteTo a n) : n ≤ (records a).length := by
  rcases h with hlt | ⟨heq, _⟩
  · exact Nat.le_of_lt hlt
  · exact Nat.le_of_eq heq

theorem select_append (h : CompleteTo a n) (b : Text) :
    ∃ s s', select a n = .ok s ∧ select (a ++ b) n = .ok s' ∧ s'.contents = s.contents := by
  have hle := le_length_of_completeTo h
  refine ⟨_, _, select_eq_ok_iff.mpr ⟨hle, rfl⟩,
    select_eq_ok_iff.mpr ⟨Nat.le_trans hle (length_records_le_append a b), rfl⟩, ?_⟩
  show joinLines (((records (a ++ b)).map trimBlank).take n) =
    joinLines (((records a).map trimBlank).take n)
  rw [← List.map_take, ← List.map_take, take_records_append h]

/-- The records of two texts put together are those of the first and those of the second, but for
what stands at the seam: a line feed that belongs to the carriage return before it opens no record,
and where no line end stands before the seam the last record on the one side and the first on the
other are one. So records are never lost to what is put behind them, and a selection of complete
records stays the same. -/
theorem records_concatenation (a b : Text) :
    (a = [] → records (a ++ b) = records b) ∧
    (b = [] → records (a ++ b) = records a) ∧
    (∀ b', a.getLast? = some '\r' → b = '\n' :: b' → records (a ++ b) = records a ++ records b') ∧
    (a.getLast? = some '\n' ∨ (a.getLast? = some '\r' ∧ b.head? ≠ some '\n') →
      records (a ++ b) = records a ++ records b) ∧
    (a ≠ [] → ¬ EndsLine a → b ≠ [] →
      ∃ before last first after, records a = before ++ [last] ∧ records b = first :: after ∧
        records (a ++ b) = before ++ (last ++ first) :: after) ∧
    (records a).length ≤ (records (a ++ b)).length ∧
    ∀ n, CompleteTo a n →
      ∃ s s', select a n = .ok s ∧ select (a ++ b) n = .ok s' ∧ s'.contents = s.contents := by
  refine ⟨?_, ?_, ?_, records_append_of_endsLine, records_append_of_open,
    length_records_le_append a b, ?_⟩
  · rintro rfl
    rfl
  · rintro rfl
    rw [List.append_nil]
  · rintro b' hreturn rfl
    exact records_append_lineFeed hreturn b'
  · intro n hcomplete
    exact select_append hcomplete b

/-- A text cut between a carriage return and its line feed. -/
example : records "a\r".toList = [['a']] ∧ records "\nb".toList = [[], ['b']] ∧
    records "a\r\nb".toList = [['a'], ['b']] := by
  decide

end SiteFilter
