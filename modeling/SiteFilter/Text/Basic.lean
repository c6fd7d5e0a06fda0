/-!
# Text and bytes

The two kinds of content that everything else works on. A text is the list of its characters and a
byte string the list of its bytes, so that every function on them is a recursion on the data.

What is here:
  1. `joinLines` puts a newline between texts and none after the last one.
  2. `cutAt` is the way back: it cuts at every occurrence of an element and keeps empty pieces, the
     last one too. What is joined from texts without a newline is cut into those texts
     (`cutAt_joinLines`).
  3. `decimal` writes a number in decimal digits.
-/

namespace SiteFilter

abbrev Text := List Char

abbrev Bytes := List UInt8

/-- A number in decimal digits, without leading zeros. -/
def decimal (n : Nat) : Text := Nat.toDigits 10 n

/-- The texts with one newline between neighbours and nothing after the last. -/
def joinLines : List Text → Text
  | [] => []
  | [t] => t
  | t :: u :: rest => t ++ '\n' :: joinLines (u :: rest)

/-- The pieces of a list between the occurrences of `c`: one more than `c` occurs, so the empty
list has one piece, the empty one. -/
def cutAt {α : Type} [DecidableEq α] (c : α) : List α → List (List α)
  | [] => [[]]
  | x :: rest =>
    if x = c then [] :: cutAt c rest
    else match cutAt c rest with
      | [] => [[x]]
      | piece :: pieces => (x :: piece) :: pieces

/-! ## Joining and cutting -/

theorem cutAt_ne_nil {α : Type} [DecidableEq α] (c : α) (t : List α) : cutAt c t ≠ [] := by
  cases t with
  | nil => simp [cutAt]
  | cons x rest =>
    rw [cutAt]
    split
    · simp
    · split <;> simp

theorem cutAt_of_notMem {α : Type} [DecidableEq α] {c : α} {t : List α} (h : c ∉ t) :
    cutAt c t = [t] := by
  induction t with
  | nil => rfl
  | cons x rest ih =>
    have hx : x ≠ c := fun e => h (by simp [e])
    have hrest : c ∉ rest := fun m => h (by simp [m])
    simp [cutAt, hx, ih hrest]

theorem cutAt_append_cons {α : Type} [DecidableEq α] {c : α} {t : List α} (h : c ∉ t)
    (rest : List α) : cutAt c (t ++ c :: rest) = t :: cutAt c rest := by
  induction t with
  | nil => simp [cutAt]
  | cons x more ih =>
    have hx : x ≠ c := fun e => h (by simp [e])
    have hmore : c ∉ more := fun m => h (by simp [m])
    simp [cutAt, hx, ih hmore]

/-- Cutting at newlines takes joined texts apart again. -/
theorem cutAt_joinLines {ts : List Text} (hne : ts ≠ []) (h : ∀ t ∈ ts, '\n' ∉ t) :
    cutAt '\n' (joinLines ts) = ts := by
  induction ts with
  | nil => exact absurd rfl hne
  | cons t rest ih =>
    have ht : '\n' ∉ t := h t (by simp)
    cases rest with
    | nil => simpa [joinLines] using cutAt_of_notMem ht
    | cons u more =>
      have hrest : ∀ x ∈ u :: more, '\n' ∉ x := fun x hx => h x (List.mem_cons_of_mem t hx)
      simp only [joinLines]
      rw [cutAt_append_cons ht, ih (by simp) hrest]

end SiteFilter
