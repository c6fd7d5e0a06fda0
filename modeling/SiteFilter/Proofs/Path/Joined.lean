import SiteFilter.FileTree.Walk
import SiteFilter.SitePaths

/-!
# Joined paths

The path of a file in a base directory describes a way through all components of the base to the
name of the file, however the base is written: with slashes side by side or at its end, through `.`
or `..`, from the root of all directories or not.

What is proved:
  1. `route_join` — the way that a joined path describes is the base's, with the name as its last
     component and no slash behind it.
  2. `fault?_join` — what keeps a joined path from being followed is a byte zero in the base or its
     length.

So the two files of one base directory are looked up in the same directory, and one of them can be
followed where the other cannot only by its length.
-/

namespace SiteFilter

/-- A name under which a directory can hold a file. -/
structure IsFileName (name : Name) : Prop where
  nonempty : name ≠ []
  noSlash : slash ∉ name
  noZero : 0 ∉ name
  notHere : name ≠ [dot]
  notUp : name ≠ [dot, dot]
  short : name.length ≤ nameLimit

theorem isFileName_siteList : IsFileName SitePaths.siteListName :=
  ⟨by decide, by decide, by decide, by decide, by decide, by decide⟩

theorem isFileName_filterFile : IsFileName SitePaths.filterFileName :=
  ⟨by decide, by decide, by decide, by decide, by decide, by decide⟩

/-- A cut at an occurrence of the separator leaves the pieces on its two sides as they are. -/
theorem cutAt_append_separator {α : Type} [DecidableEq α] (c : α) (a b : List α) :
    cutAt c (a ++ c :: b) = cutAt c a ++ cutAt c b := by
  induction a with
  | nil => simp [cutAt]
  | cons x rest ih =>
    by_cases hx : x = c
    · simp [cutAt, hx, ih]
    · rw [List.cons_append, cutAt, if_neg hx, ih, cutAt, if_neg hx]
      -- `x` joins the first piece of the rest, on both sides
      cases hrest : cutAt c rest with
      | nil => exact absurd hrest (cutAt_ne_nil c rest)
      | cons piece pieces => rfl

namespace Path

/-- A joined path is the base and the name, or both with a slash between them that the base does not
end in. -/
theorem join_cases (base : Path) (name : Name) :
    (base = [] ∧ base.join name = name) ∨
    (∃ b, base = b ++ [slash] ∧ base.join name = b ++ slash :: name) ∨
    (base ≠ [] ∧ base.join name = base ++ slash :: name) := by
  by_cases hbase : base = []
  · left
    exact ⟨hbase, by simp [join, hbase]⟩
  · right
    by_cases hlast : base.getLast? = some slash
    · left
      obtain ⟨b, rfl⟩ := List.getLast?_eq_some_iff.mp hlast
      exact ⟨b, rfl, by simp [join]⟩
    · right
      exact ⟨hbase, by simp [join, hbase, hlast]⟩

/-! ## The way of a joined path -/

theorem components_append_slash (a b : Path) :
    components (a ++ slash :: b) = components a ++ components b := by
  simp only [components, cutAt_append_separator, List.filter_append, List.map_append]

theorem components_nil : components [] = [] := rfl

theorem components_fileName {name : Name} (h : IsFileName name) :
    components name = [.named name] := by
  simp [components, cutAt_of_notMem h.noSlash, h.nonempty, Component.ofName, h.notHere, h.notUp]

theorem components_join {name : Name} (h : IsFileName name) (base : Path) :
    components (base.join name) = components base ++ [.named name] := by
  rcases join_cases base name with ⟨rfl, hjoin⟩ | ⟨b, rfl, hjoin⟩ | ⟨_, hjoin⟩
  · rw [hjoin, components_fileName h]
    rfl
  · rw [hjoin, components_append_slash, components_append_slash, components_nil,
      components_fileName h, List.append_nil]
  · rw [hjoin, components_append_slash, components_fileName h]

theorem head?_fileName {name : Name} (h : IsFileName name) : name.head? ≠ some slash := by
  intro hhead
  obtain ⟨rest, rfl⟩ := List.head?_eq_some_iff.mp hhead
  apply h.noSlash
  exact List.mem_cons_self

theorem head?_join {name : Name} (h : IsFileName name) (base : Path) :
    (base.join name).head? = some slash ↔ base.head? = some slash := by
  rcases join_cases base name with ⟨rfl, hjoin⟩ | ⟨b, rfl, hjoin⟩ | ⟨hbase, hjoin⟩
  · simp [hjoin, head?_fileName h]
  · rw [hjoin]
    cases b <;> simp
  · rw [hjoin]
    cases base with
    | nil => exact absurd rfl hbase
    | cons a rest => simp

theorem getLast?_join {name : Name} (h : IsFileName name) (base : Path) :
    (base.join name).getLast? ≠ some slash := by
  -- whatever stands in front, the last byte is the name's
  have hname : ∀ a : Path, (a ++ name).getLast? ≠ some slash := by
    intro a hlast
    rw [List.getLast?_append, List.getLast?_eq_some_getLast h.nonempty, Option.some_or,
      ← List.getLast?_eq_some_getLast h.nonempty] at hlast
    exact h.noSlash (List.mem_of_getLast? hlast)
  rcases join_cases base name with ⟨_, hjoin⟩ | ⟨b, _, hjoin⟩ | ⟨_, hjoin⟩
  · simpa [hjoin] using hname []
  · simpa [hjoin] using hname (b ++ [slash])
  · simpa [hjoin] using hname (base ++ [slash])

/-- The way to a file in a base directory: through all of the base, to the name. -/
theorem route_join {name : Name} (h : IsFileName name) (base : Path) :
    (base.join name).route = ⟨base.head? = some slash, components base, .named name, false⟩ := by
  simp only [route, components_join h, List.dropLast_concat, List.getLast?_concat,
    Option.getD_some, getLast?_join h, decide_false, Route.mk.injEq, and_true]
  exact decide_eq_decide.mpr (head?_join h base)

/-! ## What keeps a joined path from being followed -/

theorem zero_mem_join {name : Name} (h : IsFileName name) (base : Path) :
    0 ∈ base.join name ↔ 0 ∈ base := by
  have hname := h.noZero
  have hslash : (0 : UInt8) ≠ slash := by decide
  rcases join_cases base name with ⟨rfl, hjoin⟩ | ⟨b, rfl, hjoin⟩ | ⟨_, hjoin⟩
  · simp [hjoin, hname]
  · simp [hjoin, hname, hslash]
  · simp [hjoin, hname, hslash]

theorem join_ne_nil {name : Name} (h : IsFileName name) (base : Path) : base.join name ≠ [] := by
  have hname := h.nonempty
  rcases join_cases base name with ⟨_, hjoin⟩ | ⟨b, _, hjoin⟩ | ⟨_, hjoin⟩ <;> simp [hjoin, hname]

theorem fault?_join {name : Name} (h : IsFileName name) (base : Path) :
    (base.join name).fault? =
      if 0 ∈ base then some .zeroInPath
      else if pathLimit < (base.join name).length then some .nameTooLong
      else none := by
  simp only [fault?, zero_mem_join h, join_ne_nil h, if_false]

theorem fault?_join_eq_none {name : Name} (h : IsFileName name) {base : Path} :
    (base.join name).fault? = none ↔ 0 ∉ base ∧ (base.join name).length ≤ pathLimit := by
  rw [fault?_join h]
  by_cases hzero : 0 ∈ base
  · simp [hzero]
  · by_cases hlong : pathLimit < (base.join name).length
    · simp [hzero, hlong]
    · have hshort : (base.join name).length ≤ pathLimit := by omega
      simp [hzero, hlong, hshort]

end Path

end SiteFilter
