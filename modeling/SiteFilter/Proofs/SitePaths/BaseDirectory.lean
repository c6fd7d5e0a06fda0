import SiteFilter.Proofs.Run.Outcome
import SiteFilter.Proofs.Text.Lossy
import SiteFilter.Proofs.Text.Trimming

/-!
# The base directory, byte for byte

Whether a variable is set is decided on its value as it is shown, and a value that is shown as white
space throughout is the form of white space: an ill-formed part is shown as a character that is none.
So any byte that cannot be read as white space keeps a value, and a value that is kept is the base
directory as it is.

What is proved:
  1. `isBlankValue_iff` — the values that say nothing are the forms of white space.
  2. `setting?_eq_some_iff` — what a variable is set to.
  3. `Path.join_of_ne_nil` — how a name is put behind a base directory.
  4. `base_directory_resolved` — which base directory is found, and the paths under it.
-/

namespace SiteFilter

/-- The bytes are the form of a text of white space alone, which may be empty. -/
def IsWhiteSpaceForm (value : Bytes) : Prop :=
  ∃ t, AllIn isWhiteSpace t ∧ value = Utf8.encode t

/-- The variable has this value, and it says something. -/
def IsSetTo (env : Environment) (name : String) (value : Bytes) : Prop :=
  env.get? name = some value ∧ ¬ IsWhiteSpaceForm value

/-- What stands between a base directory and a name: a slash, unless there is one already. -/
def slashBehind (base : Path) : Bytes := if base.getLast? = some slash then [] else [slash]

/-! ## Values that say nothing -/

theorem isBlankValue_iff_trim {value : Bytes} :
    Environment.isBlankValue value = true ↔ trimWhiteSpace (Utf8.lossy value) = [] := by
  rw [trimWhiteSpace, trimBy_eq_nil_iff, Environment.isBlankValue, List.all_eq_true]
  exact Iff.rfl

theorem isBlankValue_iff {value : Bytes} :
    Environment.isBlankValue value = true ↔ IsWhiteSpaceForm value := by
  rw [Environment.isBlankValue, List.all_eq_true]
  refine ⟨?_, ?_⟩
  · intro hall
    cases hread : Utf8.decode? value with
    | none =>
      -- an ill-formed part is shown as no white space
      have hshown := hall _ (Utf8.replacement_mem_lossy hread)
      exact absurd hshown (by decide)
    | some t =>
      have hvalue := Utf8.decode?_eq_some_iff.mp hread
      rw [hvalue, Utf8.lossy_encode] at hall
      exact ⟨t, hall, hvalue⟩
  · intro hform
    obtain ⟨t, hall, rfl⟩ := hform
    rw [Utf8.lossy_encode]
    exact hall

theorem setting?_eq_some_iff {env : Environment} {name : String} {value : Bytes} :
    env.setting? name = some value ↔ IsSetTo env name value := by
  unfold Environment.setting? IsSetTo
  rw [Option.filter_eq_some_iff, ← isBlankValue_iff, Bool.not_eq_true']
  rw [Bool.not_eq_true]

theorem setting?_eq_none_iff {env : Environment} {name : String} :
    env.setting? name = none ↔ ∀ value, ¬ IsSetTo env name value := by
  rw [Option.eq_none_iff_forall_ne_some]
  simp only [ne_eq, setting?_eq_some_iff]

theorem not_isWhiteSpaceForm_of_separator {value : Bytes} {b : UInt8} (hmem : b ∈ value)
    (hb : 0x1C ≤ b.toNat ∧ b.toNat ≤ 0x1F) : ¬ IsWhiteSpaceForm value := by
  intro hform
  obtain ⟨t, hall, rfl⟩ := hform
  have hascii : b.toNat < 0x80 := by omega
  -- the byte is a character of the text, and that character is no white space
  have hshown := (Utf8.mem_encode_iff hascii).mp hmem
  have hwhite := hall _ hshown
  rw [isWhiteSpace, List.any_eq_true] at hwhite
  obtain ⟨range, hrange, hin⟩ := hwhite
  rw [Utf8.toNat_charOfAscii hascii, Bool.and_eq_true, decide_eq_true_eq, decide_eq_true_eq] at hin
  simp only [whiteSpaceRanges, List.mem_cons, List.not_mem_nil, or_false] at hrange
  rcases hrange with rfl | rfl | rfl | rfl | rfl | rfl | rfl | rfl | rfl | rfl <;>
    simp only at hin <;> omega

/-! ## Paths under a base directory -/

theorem IsSetTo.ne_nil {env : Environment} {name : String} {value : Bytes}
    (h : IsSetTo env name value) : value ≠ [] := by
  intro hnil
  apply h.2
  refine ⟨[], ?_, hnil⟩
  intro c hc
  cases hc

theorem Path.join_of_ne_nil {base : Path} (h : base ≠ []) (name : Name) :
    base.join name = base ++ slashBehind base ++ name := by
  unfold Path.join slashBehind
  by_cases hlast : base.getLast? = some slash
  · rw [if_pos (.inr hlast), if_pos hlast, List.append_nil]
  · have hneither : ¬ (base = [] ∨ base.getLast? = some slash) := by
      rw [not_or]
      exact ⟨h, hlast⟩
    rw [if_neg hneither, if_neg hlast, List.append_assoc]
    rfl

/-! ## Resolution -/

theorem namesBase_iff {env : Environment} {base : Path} :
    NamesBase env base ↔ IsSetTo env "MALSITES_ROOT" base ∨
      ((∀ value, ¬ IsSetTo env "MALSITES_ROOT" value) ∧ IsSetTo env "HOME" base) := by
  unfold NamesBase
  rw [setting?_eq_some_iff, setting?_eq_none_iff, setting?_eq_some_iff]
  exact Iff.rfl

theorem resolve_eq_baseUnset_iff {env : Environment} :
    SitePaths.resolve env = .error .baseUnset ↔
      (∀ value, ¬ IsSetTo env "MALSITES_ROOT" value) ∧ ∀ value, ¬ IsSetTo env "HOME" value := by
  refine ⟨?_, ?_⟩
  · intro hunset
    have hnone : ∀ base, ¬ NamesBase env base := by
      intro base hbase
      rw [resolve_iff_namesBase.mpr ⟨base, hbase, rfl⟩] at hunset
      cases hunset
    have hroot : ∀ value, ¬ IsSetTo env "MALSITES_ROOT" value := by
      intro value hvalue
      exact hnone value (namesBase_iff.mpr (.inl hvalue))
    refine ⟨hroot, ?_⟩
    intro value hvalue
    exact hnone value (namesBase_iff.mpr (.inr ⟨hroot, hvalue⟩))
  · intro hboth
    obtain ⟨hroot, hhome⟩ := hboth
    apply resolve_of_namesNone
    intro base hbase
    rcases namesBase_iff.mp hbase with hset | ⟨_, hset⟩
    · exact hroot base hset
    · exact hhome base hset

theorem resolve_of_namesBase {env : Environment} {base : Path} (h : NamesBase env base) :
    SitePaths.resolve env = .ok ⟨base,
      base ++ slashBehind base ++ Utf8.encode "malicious_site_list.txt".toList,
      base ++ slashBehind base ++ Utf8.encode "malicious_sites_trunc.txt".toList⟩ := by
  have hne : base ≠ [] := by
    rcases namesBase_iff.mp h with hset | ⟨_, hset⟩
    · exact hset.ne_nil
    · exact hset.ne_nil
  rw [resolve_iff_namesBase.mpr ⟨base, h, rfl⟩]
  unfold SitePaths.ofBase
  rw [Path.join_of_ne_nil hne, Path.join_of_ne_nil hne]
  rfl

/-- A variable counts as set exactly if its value is not the form of white space, so a value with an
ill-formed part does, and so does one with an information separator. There is no base directory
exactly if neither variable is set. Otherwise the base directory is the value of the first that is,
byte for byte, and the two files lie in it. The first variable leaves nothing to the others. -/
theorem base_directory_resolved (env : Environment) :
    (∀ name value, env.get? name = some value →
      (trimWhiteSpace (Utf8.lossy value) = [] ↔ IsWhiteSpaceForm value) ∧
      (env.setting? name = some value ↔ ¬ IsWhiteSpaceForm value) ∧
      ((∀ t, value ≠ Utf8.encode t) → env.setting? name = some value) ∧
      ((∃ b ∈ value, 0x1C ≤ b.toNat ∧ b.toNat ≤ 0x1F) → env.setting? name = some value)) ∧
    (SitePaths.resolve env = .error .baseUnset ↔
      (∀ value, ¬ IsSetTo env "MALSITES_ROOT" value) ∧ ∀ value, ¬ IsSetTo env "HOME" value) ∧
    (∀ base, IsSetTo env "MALSITES_ROOT" base ∨
        ((∀ value, ¬ IsSetTo env "MALSITES_ROOT" value) ∧ IsSetTo env "HOME" base) →
      SitePaths.resolve env = .ok ⟨base,
        base ++ slashBehind base ++ Utf8.encode "malicious_site_list.txt".toList,
        base ++ slashBehind base ++ Utf8.encode "malicious_sites_trunc.txt".toList⟩) ∧
    ∀ other base, IsSetTo env "MALSITES_ROOT" base → IsSetTo other "MALSITES_ROOT" base →
      SitePaths.resolve env = SitePaths.resolve other := by
  refine ⟨?_, resolve_eq_baseUnset_iff, ?_, ?_⟩
  · intro name value hvalue
    have hset : env.setting? name = some value ↔ ¬ IsWhiteSpaceForm value := by
      rw [setting?_eq_some_iff]
      exact and_iff_right hvalue
    refine ⟨isBlankValue_iff_trim.symm.trans isBlankValue_iff, hset, ?_, ?_⟩
    · intro hform
      rw [hset]
      intro hwhite
      obtain ⟨t, _, ht⟩ := hwhite
      exact hform t ht
    · intro hseparator
      obtain ⟨b, hmem, hb⟩ := hseparator
      rw [hset]
      exact not_isWhiteSpaceForm_of_separator hmem hb
  · intro base hbase
    exact resolve_of_namesBase (namesBase_iff.mpr hbase)
  · intro other base hset hset'
    rw [resolve_of_namesBase (namesBase_iff.mpr (.inl hset)),
      resolve_of_namesBase (namesBase_iff.mpr (.inl hset'))]

end SiteFilter
