import SiteFilter.Proofs.Path.Joined

/-!
# Base directories with the same files

A base directory is kept as it is given, and two that are written differently may still give their
files the same paths. That happens in one case only: a name gets a slash in front of it if the base
directory has none at its end, so it makes no difference whether that slash has been written before.
An empty base directory gets no slash, and a second slash is one more.

The site list and the filter file end differently, so no base directories, however they are written,
give the one the path of the other.

What is proved:
  1. `Path.join_eq_append` — what stands in front of a name depends on the base directory alone.
  2. `Path.join_nil_eq_iff` — the base directories that put the same in front of a name.
  3. `Path.join_ne_join` — names of which neither ends in the other have no path in common.
  4. `base_directories_collide` — all of it, for the two files.
-/

namespace SiteFilter

/-- The base directory takes a name behind it without a slash between them. -/
def TakesName (base : Path) : Prop := base = [] ∨ base.getLast? = some slash

/-- The second base directory is the first, which is not empty and does not end in a slash, with one
slash behind it. -/
def AddsSlash (a b : Path) : Prop :=
  a ≠ [] ∧ a.getLast? ≠ some slash ∧ b = a ++ [slash]

variable {a b : Path}

theorem takesName_append_slash (a : Path) : TakesName (a ++ [slash]) :=
  .inr List.getLast?_concat

theorem addsSlash_iff : AddsSlash a b ↔ ¬ TakesName a ∧ b = a ++ [slash] := by
  unfold AddsSlash TakesName
  rw [not_or, and_assoc]

namespace Path

theorem join_eq_append (base : Path) (name : Name) : base.join name = base.join [] ++ name := by
  unfold join
  split
  · rw [List.append_nil]
  · rw [List.append_assoc, List.singleton_append]

theorem join_nil_of_takesName (h : TakesName a) : a.join [] = a := by
  unfold TakesName at h
  rw [join, if_pos h, List.append_nil]

theorem join_nil_of_not_takesName (h : ¬ TakesName a) : a.join [] = a ++ [slash] := by
  unfold TakesName at h
  rw [join, if_neg h]

theorem join_nil_of_addsSlash (h : AddsSlash a b) : a.join [] = b.join [] := by
  obtain ⟨ha, rfl⟩ := addsSlash_iff.mp h
  rw [join_nil_of_not_takesName ha, join_nil_of_takesName (takesName_append_slash a)]

/-- The cases are which of the two base directories lack their slash. -/
theorem join_nil_eq_iff : a.join [] = b.join [] ↔ a = b ∨ AddsSlash a b ∨ AddsSlash b a := by
  constructor
  · intro h
    by_cases ha : TakesName a
    · rw [join_nil_of_takesName ha] at h
      by_cases hb : TakesName b
      · rw [join_nil_of_takesName hb] at h
        exact .inl h
      · rw [join_nil_of_not_takesName hb] at h
        exact .inr (.inr (addsSlash_iff.mpr ⟨hb, h⟩))
    · rw [join_nil_of_not_takesName ha] at h
      by_cases hb : TakesName b
      · rw [join_nil_of_takesName hb] at h
        exact .inr (.inl (addsSlash_iff.mpr ⟨ha, h.symm⟩))
      · rw [join_nil_of_not_takesName hb] at h
        exact .inl (List.append_cancel_right h)
  · intro h
    rcases h with rfl | h | h
    · rfl
    · exact join_nil_of_addsSlash h
    · exact (join_nil_of_addsSlash h).symm

theorem join_eq_join_iff (name : Name) :
    a.join name = b.join name ↔ a = b ∨ AddsSlash a b ∨ AddsSlash b a := by
  rw [← join_nil_eq_iff, join_eq_append a, join_eq_append b, List.append_left_inj]

theorem join_ne_join {m n : Name} (hmn : ¬ m <:+ n) (hnm : ¬ n <:+ m) (a b : Path) :
    a.join m ≠ b.join n := by
  intro h
  rw [join_eq_append a, join_eq_append b] at h
  -- both names are at the end of one path
  have hm : m <:+ b.join [] ++ n := ⟨a.join [], h⟩
  have hn : n <:+ b.join [] ++ n := List.suffix_append _ _
  rcases List.suffix_or_suffix_of_suffix hm hn with hsuffix | hsuffix
  · exact hmn hsuffix
  · exact hnm hsuffix

end Path

/-- Two base directories give their site lists the same path exactly if they give their filter files
the same, and that is if they are the same themselves or one adds to the other the slash that it
lacks. A site list never has the path of a filter file, whatever the two base directories are. The
base directory itself is kept as it is given. -/
theorem base_directories_collide (a b : Path) :
    ((SitePaths.ofBase a).siteList = (SitePaths.ofBase b).siteList ↔
      (SitePaths.ofBase a).filterFile = (SitePaths.ofBase b).filterFile) ∧
    ((SitePaths.ofBase a).filterFile = (SitePaths.ofBase b).filterFile ↔
      a = b ∨ AddsSlash a b ∨ AddsSlash b a) ∧
    (SitePaths.ofBase a).siteList ≠ (SitePaths.ofBase b).filterFile ∧
    (SitePaths.ofBase a).base = a := by
  have hsite := Path.join_eq_join_iff (a := a) (b := b) SitePaths.siteListName
  have hfilter := Path.join_eq_join_iff (a := a) (b := b) SitePaths.filterFileName
  have hnames : ¬ SitePaths.siteListName <:+ SitePaths.filterFileName ∧
      ¬ SitePaths.filterFileName <:+ SitePaths.siteListName := by decide
  exact ⟨hsite.trans hfilter.symm, hfilter, Path.join_ne_join hnames.1 hnames.2 a b, rfl⟩

end SiteFilter
