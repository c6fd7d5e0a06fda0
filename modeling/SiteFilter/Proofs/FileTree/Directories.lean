import SiteFilter.FileTree.Access

/-!
# Where a path leads depends on the directories

A walk through a tree looks at every location on its way only to see whether a directory stands there.
So trees with the same directories and the same working directory have the same ways through them,
whatever their files hold.

What is proved:
  1. `walk_eq_ok_congr`, `approach_eq_ok_congr` — in trees with the same directories a path is
     looked up in the same directory.
  2. `target_eq_ok_congr` — and writes the same file.
  3. `locate_named_iff`, `target_named_iff` — what a path with a name as its last component leads to
     and what it writes, from the directory in which it is looked up.
-/

namespace SiteFilter.FileTree

/-- Two trees have directories at the same locations, and one of them as their working directory. -/
structure SameDirectories (t u : FileTree) : Prop where
  working : t.working = u.working
  directory (l : Location) : t.get? l = some .directory ↔ u.get? l = some .directory

namespace SameDirectories

variable {t u v : FileTree}

theorem refl (t : FileTree) : SameDirectories t t := ⟨rfl, fun _ => Iff.rfl⟩

theorem symm (h : SameDirectories t u) : SameDirectories u t :=
  ⟨h.working.symm, fun l => (h.directory l).symm⟩

theorem trans (h : SameDirectories t u) (h' : SameDirectories u v) : SameDirectories t v :=
  ⟨h.working.trans h'.working, fun l => (h.directory l).trans (h'.directory l)⟩

theorem start (h : SameDirectories t u) (p : Path) : t.start p = u.start p := by
  unfold FileTree.start
  rw [h.working]

end SameDirectories

/-! ## Steps and walks -/

theorem step_named_iff {t : FileTree} {d next : Location} {n : Name} :
    t.step d (.named n) = .ok next ↔
      n.length ≤ nameLimit ∧ ∃ e, t.get? (d ++ [n]) = some e ∧ next = d ++ [n] := by
  simp only [step]
  split
  · next hlong => simp; omega
  · next hshort =>
    have hlen : n.length ≤ nameLimit := by omega
    cases hget : t.get? (d ++ [n]) <;> simp [hlen, eq_comm]

theorem step_directory_congr {t u : FileTree} (h : SameDirectories t u) {d next : Location}
    {c : Path.Component} :
    (t.step d c = .ok next ∧ t.get? next = some .directory) ↔
      (u.step d c = .ok next ∧ u.get? next = some .directory) := by
  cases c with
  | here => exact and_congr Iff.rfl (h.directory next)
  | up => exact and_congr Iff.rfl (h.directory next)
  | named n =>
    -- what stands under the name is the directory that the step leads to
    rw [step_named_iff, step_named_iff]
    constructor
    · intro hstep
      obtain ⟨⟨hlen, e, hget, rfl⟩, hdir⟩ := hstep
      have hdir' : u.get? (d ++ [n]) = some .directory := (h.directory _).mp hdir
      exact ⟨⟨hlen, .directory, hdir', rfl⟩, hdir'⟩
    · intro hstep
      obtain ⟨⟨hlen, e, hget, rfl⟩, hdir⟩ := hstep
      have hdir' : t.get? (d ++ [n]) = some .directory := (h.directory _).mpr hdir
      exact ⟨⟨hlen, .directory, hdir', rfl⟩, hdir'⟩

theorem walk_cons_iff {t : FileTree} {d last : Location} {c : Path.Component}
    {rest : List Path.Component} :
    t.walk d (c :: rest) = .ok last ↔
      ∃ next, (t.step d c = .ok next ∧ t.get? next = some .directory) ∧
        t.walk next rest = .ok last := by
  rw [walk]
  cases hstep : t.step d c with
  | error fault => simp
  | ok next =>
    simp only [Except.ok.injEq, and_assoc, exists_eq_left']
    cases t.get? next with
    | none => simp
    | some e => cases e <;> simp

theorem walk_eq_ok_congr {t u : FileTree} (h : SameDirectories t u) {d last : Location}
    {cs : List Path.Component} : t.walk d cs = .ok last ↔ u.walk d cs = .ok last := by
  induction cs generalizing d with
  | nil => exact Iff.rfl
  | cons c rest ih =>
    rw [walk_cons_iff, walk_cons_iff]
    apply exists_congr
    intro next
    exact and_congr (step_directory_congr h) ih

/-! ## The directory in which a path is looked up -/

theorem approach_iff {t : FileTree} {p : Path} {directory : Location} :
    t.approach p = .ok directory ↔
      p.fault? = none ∧ t.walk (t.start p) p.route.through = .ok directory := by
  rw [approach]
  cases p.fault? <;> simp

theorem approach_eq_ok_congr {t u : FileTree} (h : SameDirectories t u) {p : Path}
    {directory : Location} : t.approach p = .ok directory ↔ u.approach p = .ok directory := by
  rw [approach_iff, approach_iff, h.start]
  exact and_congr Iff.rfl (walk_eq_ok_congr h)

/-! ## What a path leads to and what it writes -/

theorem locate_iff {t : FileTree} {p : Path} {l : Location} :
    t.locate p = .ok l ↔
      ∃ directory, t.approach p = .ok directory ∧ t.step directory p.route.last = .ok l := by
  rw [locate]
  cases t.approach p <;> simp

/-- A path with a name as its last component leads to what its directory holds under that name. -/
theorem locate_named_iff {t : FileTree} {p : Path} {n : Name} (hlast : p.route.last = .named n)
    {l : Location} :
    t.locate p = .ok l ↔
      n.length ≤ nameLimit ∧ ∃ d e, t.approach p = .ok d ∧
        t.get? (d ++ [n]) = some e ∧ l = d ++ [n] := by
  rw [locate_iff, hlast]
  constructor
  · intro hlocate
    obtain ⟨d, happroach, hstep⟩ := hlocate
    obtain ⟨hlen, e, hget, rfl⟩ := step_named_iff.mp hstep
    exact ⟨hlen, d, e, happroach, hget, rfl⟩
  · intro hfound
    obtain ⟨hlen, d, e, happroach, hget, rfl⟩ := hfound
    exact ⟨d, happroach, step_named_iff.mpr ⟨hlen, e, hget, rfl⟩⟩

/-- What a path writes: a file under its last name, where its directory holds no directory. -/
theorem target_named_iff {t : FileTree} {p : Path} {l : Location} :
    t.target p = .ok l ↔
      ∃ d n, p.route.last = .named n ∧ p.route.trailing = false ∧ n.length ≤ nameLimit ∧
        t.approach p = .ok d ∧ t.get? (d ++ [n]) ≠ some .directory ∧ l = d ++ [n] := by
  rw [target]
  cases happroach : t.approach p with
  | error fault => simp
  | ok directory =>
    cases hlast : p.route.last with
    | here => simp
    | up => simp
    | named n =>
      cases htrailing : p.route.trailing with
      | true => simp
      | false =>
        by_cases hlong : nameLimit < n.length
        · have hlen : ¬ n.length ≤ nameLimit := by omega
          simp [hlong, hlen]
        · have hlen : n.length ≤ nameLimit := by omega
          -- only a directory under the name is in the way of a file
          cases hget : t.get? (directory ++ [n]) with
          | none => simp [hlong, hlen, hget, eq_comm]
          | some e => cases e <;> simp [hlong, hlen, hget, eq_comm]

theorem target_eq_ok_congr {t u : FileTree} (h : SameDirectories t u) {p : Path} {l : Location} :
    t.target p = .ok l ↔ u.target p = .ok l := by
  rw [target_named_iff, target_named_iff]
  apply exists_congr
  intro d
  apply exists_congr
  intro n
  rw [approach_eq_ok_congr h, ne_eq, ne_eq, h.directory (d ++ [n])]

end SiteFilter.FileTree
