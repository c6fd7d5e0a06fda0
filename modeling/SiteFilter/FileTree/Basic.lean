import SiteFilter.Path

/-!
# File trees

All directories and files, as what stands at each location below the root, and the working directory,
from which the paths start that do not start at the root. The view is `get?`: two locations are
either equal or do not concern each other, so an operation is described by what it does to the view
(`get?_put`, `get?_erase`).

The root, the working directory and what lies between them are directories, whatever else there is
(`get?_on_way`).
-/

namespace SiteFilter

/-- Where something stands in a tree: the names on the way from the root. -/
abbrev Location := List Name

inductive Entry where
  | directory
  | file (contents : Bytes)
  deriving DecidableEq, Repr

structure FileTree where
  /-- Directories and files by location. -/
  entries : List (Location × Entry)
  /-- The working directory. -/
  working : Location
  deriving DecidableEq, Repr

namespace FileTree

/-- Nothing but a working directory, which is not the root. -/
def empty : FileTree := ⟨[], [[0x77]]⟩

def find? (l : Location) : List (Location × Entry) → Option Entry
  | [] => none
  | (k, e) :: rest => if k = l then some e else find? l rest

/-- What stands at a location. On the way to the working directory there is always a directory. -/
def get? (t : FileTree) (l : Location) : Option Entry :=
  if l <+: t.working then some .directory else find? l t.entries

/-- The entries with `e` at a location, in the place of the entry that was there, else at the
end. -/
def store (l : Location) (e : Entry) : List (Location × Entry) → List (Location × Entry)
  | [] => [(l, e)]
  | (k, x) :: rest => if k = l then (l, e) :: rest else (k, x) :: store l e rest

def put (t : FileTree) (l : Location) (e : Entry) : FileTree :=
  { t with entries := store l e t.entries }

/-- The tree without a location and everything below it. -/
def erase (t : FileTree) (l : Location) : FileTree :=
  { t with entries := t.entries.filter fun entry => !l.isPrefixOf entry.1 }

/-! ## The view -/

theorem find?_store (l : Location) (e : Entry) (l' : Location) (es : List (Location × Entry)) :
    find? l' (store l e es) = if l' = l then some e else find? l' es := by
  induction es with
  | nil => simp [store, find?, eq_comm]
  | cons head rest ih =>
    obtain ⟨k, x⟩ := head
    by_cases hk : k = l
    · subst hk
      by_cases hl : l' = k
      · simp [store, find?, hl]
      · have hl' : k ≠ l' := fun h => hl h.symm
        simp [store, find?, hl, hl']
    · by_cases hl : k = l'
      · subst hl
        simp [store, find?, hk]
      · simp [store, find?, hk, hl, ih]

theorem get?_on_way {t : FileTree} {l : Location} (h : l <+: t.working) :
    t.get? l = some .directory := if_pos h

/-- At a location without a directory the working directory is not concerned. -/
theorem not_on_way_of_get? {t : FileTree} {l : Location} (h : t.get? l ≠ some .directory) :
    ¬ l <+: t.working :=
  fun hway => h (get?_on_way hway)

/-- Putting an entry at a location changes the tree there and nowhere else. -/
theorem get?_put {t : FileTree} {l : Location} (h : ¬ l <+: t.working) (e : Entry)
    (l' : Location) : (t.put l e).get? l' = if l' = l then some e else t.get? l' := by
  by_cases hl : l' <+: t.working
  · have hne : l' ≠ l := by
      intro heq
      rw [heq] at hl
      exact h hl
    rw [if_neg hne, get?_on_way hl]
    exact get?_on_way hl
  · simp [get?, put, hl, find?_store]

/-- Putting back what is there changes nothing. -/
theorem put_of_get? {t : FileTree} {l : Location} {e : Entry} (hl : ¬ l <+: t.working)
    (h : t.get? l = some e) : t.put l e = t := by
  have hfind : find? l t.entries = some e := by simpa [get?, hl] using h
  suffices ∀ es, find? l es = some e → store l e es = es by
    rw [put, this t.entries hfind]
  intro es
  induction es with
  | nil => intro h; cases h
  | cons head rest ih =>
    obtain ⟨k, x⟩ := head
    intro h
    by_cases hk : k = l
    · subst hk
      simp only [find?, if_true, Option.some.injEq] at h
      simp [store, h]
    · simp only [find?, hk, if_false] at h
      simp [store, hk, ih h]

/-- Erasing a location takes away what stands there and below, and nothing else. -/
theorem get?_erase {t : FileTree} {l : Location} (h : ¬ l <+: t.working) (l' : Location) :
    (t.erase l).get? l' = if l <+: l' then none else t.get? l' := by
  by_cases hl : l' <+: t.working
  · rw [if_neg fun hbelow => h (hbelow.trans hl), get?_on_way hl]
    exact get?_on_way hl
  · simp only [get?, hl, if_false, erase]
    induction t.entries with
    | nil => simp [find?]
    | cons head rest ih =>
      obtain ⟨k, x⟩ := head
      -- an entry at `k` goes exactly if `k` is below `l`
      by_cases hk : l.isPrefixOf k
      · rw [List.filter_cons_of_neg (by simp [hk]), ih]
        by_cases hkl : k = l'
        · subst hkl
          simp [List.isPrefixOf_iff_prefix.mp hk]
        · simp [find?, hkl]
      · rw [List.filter_cons_of_pos (by simp [hk])]
        by_cases hkl : k = l'
        · subst hkl
          have : ¬ l <+: k := fun hp => hk (List.isPrefixOf_iff_prefix.mpr hp)
          simp [find?, this]
        · simp [find?, hkl, ih]

end FileTree

end SiteFilter
