import SiteFilter.Line
import SiteFilter.Text.Blank

/-!
# Selecting filters

The filters of a site list are its records, trimmed. A selection is the first `n` of them, one to a
line: a newline stands between neighbours and none after the last. Asking for more filters than
there are records is a shortage and selects nothing.

`select_eq_ok_iff` says when a selection succeeds and what it then holds, and `select_eq_error_iff`
when it does not.
-/

namespace SiteFilter

/-- The filters of a site list: its records, trimmed. -/
def filters (list : Text) : List Text := (records list).map trimBlank

/-- The first filters of a site list, as they are written out. -/
structure Selection where
  /-- The filters, a newline between neighbours. -/
  contents : Text
  selected : Nat
  available : Nat
  deriving DecidableEq, Repr

/-- More filters were asked for than there are. -/
structure Shortage where
  requested : Nat
  available : Nat
  deriving DecidableEq, Repr

def Shortage.message (s : Shortage) : Text :=
  "n (".toList ++ decimal s.requested ++ ") > number of available filters (".toList ++
    decimal s.available ++ ")".toList

def select (list : Text) (n : Nat) : Except Shortage Selection :=
  let available := (records list).length
  if available < n then .error ⟨n, available⟩
  else
    let chosen := (filters list).take n
    .ok ⟨joinLines chosen, chosen.length, available⟩

theorem length_filters (list : Text) : (filters list).length = (records list).length := by
  simp [filters]

/-- A selection is of the filters of a list alone. -/
theorem select_congr {list other : Text} (h : filters list = filters other) (n : Nat) :
    select list n = select other n := by
  have hlength : (records list).length = (records other).length := by
    rw [← length_filters, h, length_filters]
  unfold select
  rw [h, hlength]

theorem select_eq_error_iff {list : Text} {n : Nat} {s : Shortage} :
    select list n = .error s ↔ (records list).length < n ∧ s = ⟨n, (records list).length⟩ := by
  unfold select
  simp only
  split
  · next h => simp [h, eq_comm]
  · next h => simp [h]

theorem select_eq_ok_iff {list : Text} {n : Nat} {s : Selection} :
    select list n = .ok s ↔
      n ≤ (records list).length ∧
        s = ⟨joinLines ((filters list).take n), n, (records list).length⟩ := by
  unfold select
  simp only
  split
  · next h => simp; omega
  · next h =>
    have hn : n ≤ (records list).length := by omega
    have hlen : ((filters list).take n).length = n := by
      rw [List.length_take, length_filters]; omega
    simp [hn, hlen, eq_comm]

end SiteFilter
