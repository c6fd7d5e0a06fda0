import SiteFilter.Proofs.CommandLine.Numeral
import SiteFilter.Proofs.CommandLine.Progress

/-!
# The grammar of the command line

An accepted command line is made of units, each of which gives one of the two parameters its value:
at most one unit for each, in either order, and two dashes at the end if one likes. What it asks for
is decided by the values in its units alone, not by how they are spelled or ordered.

What is proved:
  1. `countUnit_iff`, `levelUnit_iff` — the spellings of a unit are the ways in which arguments can
     give a good value.
  2. `readFrom_composed` — units are read one after the other, each from its own slot.
  3. `exists_composed_of_readFrom` — nothing but units is read, by induction on the length of the
     line.
  4. `read_accepts_grammar` — both halves, and that spelling and order do not matter.
-/

namespace SiteFilter.CommandLine

/-! ## The grammar -/

/-- The spellings of a count. -/
inductive CountUnit (n : Nat) : List Bytes → Prop where
  | letterApart {value : Bytes} : CountValue value n → CountUnit n [spelled "-n", value]
  | letterAttached {value : Bytes} : CountValue value n → CountUnit n [spelled "-n" ++ value]
  | letterEquals {value : Bytes} : CountValue value n → CountUnit n [spelled "-n=" ++ value]
  | nameApart {value : Bytes} : CountValue value n → CountUnit n [spelled "--count", value]
  | nameEquals {value : Bytes} : CountValue value n → CountUnit n [spelled "--count=" ++ value]

/-- The name of a level on the command line. -/
def levelWord : Level → String
  | .error => "error"
  | .warn => "warn"
  | .info => "info"
  | .debug => "debug"
  | .trace => "trace"

/-- The spellings of a level. -/
inductive LevelUnit (level : Level) : List Bytes → Prop where
  | nameApart : LevelUnit level [spelled "--log-level", spelled (levelWord level)]
  | nameEquals : LevelUnit level [spelled "--log-level=" ++ spelled (levelWord level)]

/-- Units one after the other, at most one for each parameter, and the values they give. -/
inductive Composed : Option Nat → Option Level → List Bytes → Prop where
  | nil : Composed none none []
  | count {n : Nat} {level : Option Level} {us rest : List Bytes} :
      CountUnit n us → Composed none level rest → Composed (some n) level (us ++ rest)
  | level {count : Option Nat} {level : Level} {us rest : List Bytes} :
      LevelUnit level us → Composed count none rest → Composed count (some level) (us ++ rest)

/-- A command line of the grammar, and what it asks for. -/
def Grammatical (arguments : List Bytes) (options : Options) : Prop :=
  ∃ count level us, Composed count level us ∧
    (arguments = us ∨ arguments = us ++ [spelled "--"]) ∧
    options = ⟨count.getD 2, level.getD .info⟩

/-! ## Units -/

theorem levelOfName?_eq_some_iff {name : Text} {level : Level} :
    levelOfName? name = some level ↔ name = (levelWord level).toList := by
  constructor
  · intro h
    unfold levelOfName? at h
    -- each name is asked for in turn, and the one that is found is the level's
    repeat' split at h
    all_goals cases h
    all_goals assumption
  · intro heq
    subst heq
    cases level <;> rfl

theorem readLevel_eq_ok_iff {value : Bytes} {level : Level} :
    readLevel value = .ok level ↔ value = spelled (levelWord level) := by
  have hword : spelled (levelWord level) ≠ [] := by cases level <;> decide
  unfold readLevel
  split
  · next hempty =>
    subst hempty
    simp [hword.symm]
  · have hread : (Utf8.decode? value).bind levelOfName? = some level ↔
        value = spelled (levelWord level) := by
      rw [Option.bind_eq_some_iff]
      simp only [Utf8.decode?_eq_some_iff, levelOfName?_eq_some_iff, exists_eq_right]
      exact Iff.rfl
    rw [← hread]
    cases (Utf8.decode? value).bind levelOfName? <;> simp

theorem countUnit_iff {n : Nat} {us : List Bytes} :
    CountUnit n us ↔ ∃ value, Gives .count value us ∧ readCount value = .ok n := by
  simp only [readCount_eq_ok_iff]
  constructor
  · intro h
    have hoperand : ∀ {value : Bytes}, CountValue value n → Word.ofArgument value = .operand := by
      intro value hvalue
      obtain ⟨b, rest, rfl, hdash, _⟩ := hvalue.exists_head
      exact Word.ofArgument_eq_operand (by simpa using hdash)
    cases h with
    | letterApart hvalue =>
      have hflag := Word.ofArgument_eq_count_none_iff.mpr (.inl rfl)
      exact ⟨_, .apart hflag (hoperand hvalue), hvalue⟩
    | nameApart hvalue =>
      have hflag := Word.ofArgument_eq_count_none_iff.mpr (.inr rfl)
      exact ⟨_, .apart hflag (hoperand hvalue), hvalue⟩
    | @letterAttached value hvalue =>
      have hhead : value ≠ [] ∧ value.head? ≠ some equalsSign := by
        obtain ⟨b, rest, rfl, _, hequals⟩ := hvalue.exists_head
        exact ⟨by simp, by simpa using hequals⟩
      have ha := Word.ofArgument_eq_count_some_iff.mpr (.inl ⟨rfl, hhead⟩)
      exact ⟨value, .attached ha, hvalue⟩
    | letterEquals hvalue =>
      exact ⟨_, .attached (Word.ofArgument_eq_count_some_iff.mpr (.inr (.inl rfl))), hvalue⟩
    | nameEquals hvalue =>
      exact ⟨_, .attached (Word.ofArgument_eq_count_some_iff.mpr (.inr (.inr rfl))), hvalue⟩
  · intro hboth
    obtain ⟨value, hgives, hvalue⟩ := hboth
    cases hgives with
    | apart hflag _ =>
      rcases Word.ofArgument_eq_count_none_iff.mp hflag with rfl | rfl
      · exact .letterApart hvalue
      · exact .nameApart hvalue
    | attached ha =>
      rcases Word.ofArgument_eq_count_some_iff.mp ha with ⟨rfl, _⟩ | rfl | rfl
      · exact .letterAttached hvalue
      · exact .letterEquals hvalue
      · exact .nameEquals hvalue

theorem levelUnit_iff {level : Level} {us : List Bytes} :
    LevelUnit level us ↔ ∃ value, Gives .level value us ∧ readLevel value = .ok level := by
  simp only [readLevel_eq_ok_iff]
  constructor
  · intro h
    cases h with
    | nameApart =>
      refine ⟨_, .apart (Word.ofArgument_eq_level_none_iff.mpr rfl) ?_, rfl⟩
      cases level <;> decide
    | nameEquals => exact ⟨_, .attached (Word.ofArgument_eq_level_some_iff.mpr rfl), rfl⟩
  · intro hboth
    obtain ⟨value, hgives, rfl⟩ := hboth
    cases hgives with
    | apart hflag _ =>
      obtain rfl := Word.ofArgument_eq_level_none_iff.mp hflag
      exact .nameApart
    | attached ha =>
      obtain rfl := Word.ofArgument_eq_level_some_iff.mp ha
      exact .nameEquals

/-! ## Slots -/

theorem take_count_iff {p p' : Progress} {value : Bytes} :
    p.take .count (some value) = .ok p' ↔
      p.count = none ∧ ∃ n, readCount value = .ok n ∧ p' = { p with count := some n } := by
  unfold Progress.take
  cases hcount : p.count with
  | some m => simp
  | none => cases hvalue : readCount value <;> simp [hvalue, eq_comm]

theorem take_level_iff {p p' : Progress} {value : Bytes} :
    p.take .level (some value) = .ok p' ↔
      p.level = none ∧ ∃ level, readLevel value = .ok level ∧ p' = { p with level := some level } := by
  unfold Progress.take
  cases hlevel : p.level with
  | some level => simp
  | none => cases hvalue : readLevel value <;> simp [hvalue, eq_comm]

theorem finish_of_waiting {p : Progress} (h : p.waiting = none) :
    p.finish = .ok ⟨p.count.getD 2, p.level.getD .info⟩ := by
  rw [Progress.finish, Progress.settle_of_waiting h]
  rfl

/-! ## Units are read -/

theorem readFrom_countUnit {p : Progress} {n : Nat} {us rest : List Bytes} (h : CountUnit n us)
    (hwaiting : p.waiting = none) (hfree : p.count = none) :
    readFrom p (us ++ rest) = readFrom { p with count := some n } rest := by
  obtain ⟨value, hgives, hvalue⟩ := countUnit_iff.mp h
  exact readFrom_gives hwaiting hgives (take_count_iff.mpr ⟨hfree, n, hvalue, rfl⟩)

theorem readFrom_levelUnit {p : Progress} {level : Level} {us rest : List Bytes}
    (h : LevelUnit level us) (hwaiting : p.waiting = none) (hfree : p.level = none) :
    readFrom p (us ++ rest) = readFrom { p with level := some level } rest := by
  obtain ⟨value, hgives, hvalue⟩ := levelUnit_iff.mp h
  exact readFrom_gives hwaiting hgives (take_level_iff.mpr ⟨hfree, level, hvalue, rfl⟩)

/-- Units are read into the slots that are free for them. -/
theorem readFrom_composed {count : Option Nat} {level : Option Level} {us tail : List Bytes}
    (h : Composed count level us) {p : Progress} (hwaiting : p.waiting = none)
    (hcount : count.isSome → p.count = none) (hlevel : level.isSome → p.level = none) :
    readFrom p (us ++ tail) = readFrom ⟨count.or p.count, level.or p.level, none⟩ tail := by
  induction h generalizing p with
  | nil =>
    obtain ⟨_, _, _⟩ := p
    obtain rfl := hwaiting
    rfl
  | count hunit _ ih =>
    rw [List.append_assoc, readFrom_countUnit hunit hwaiting (hcount rfl)]
    exact ih hwaiting (by simp) hlevel
  | level hunit _ ih =>
    rw [List.append_assoc, readFrom_levelUnit hunit hwaiting (hlevel rfl)]
    exact ih hwaiting hcount (by simp)

/-! ## Nothing but units is read -/

theorem Gives.length_pos {parameter : Parameter} {value : Bytes} {us : List Bytes}
    (h : Gives parameter value us) : 0 < us.length := by
  cases h <;> simp

theorem exists_composed_of_readFrom {p : Progress} {arguments : List Bytes} {options : Options}
    (hwaiting : p.waiting = none) (h : readFrom p arguments = .ok options) :
    ∃ count level us, Composed count level us ∧
      (count.isSome → p.count = none) ∧ (level.isSome → p.level = none) ∧
      (arguments = us ∨ arguments = us ++ [spelled "--"]) ∧
      options = ⟨(count.or p.count).getD 2, (level.or p.level).getD .info⟩ := by
  induction hsize : arguments.length using Nat.strongRecOn generalizing p arguments with
  | _ size ih =>
    subst hsize
    rcases exists_gives_of_readFrom hwaiting h with
      ⟨hend, hfinish⟩ | ⟨parameter, value, us, rest, p', rfl, hgives, htake, hrest⟩
    · rw [finish_of_waiting hwaiting] at hfinish
      cases hfinish
      exact ⟨none, none, [], .nil, by simp, by simp, hend, rfl⟩
    · have hshorter : rest.length < (us ++ rest).length := by
        have := hgives.length_pos
        rw [List.length_append]
        omega
      have hwaiting' : p'.waiting = none := (Progress.take_waiting htake).trans hwaiting
      obtain ⟨count, level, vs, hvs, hcount, hlevel, hend, hoptions⟩ :=
        ih _ hshorter hwaiting' hrest rfl
      have hend' : us ++ rest = us ++ vs ∨ us ++ rest = (us ++ vs) ++ [spelled "--"] := by
        rcases hend with rfl | rfl
        · exact .inl rfl
        · exact .inr (List.append_assoc us vs _).symm
      -- the slot that was filled is no longer free, so no second unit for it follows
      cases parameter with
      | count =>
        obtain ⟨hfree, n, hvalue, rfl⟩ := take_count_iff.mp htake
        obtain rfl : count = none := by
          cases count with
          | none => rfl
          | some m => exact absurd (hcount rfl) (by simp)
        have hunit := countUnit_iff.mpr ⟨value, hgives, hvalue⟩
        exact ⟨some n, level, us ++ vs, .count hunit hvs, fun _ => hfree, hlevel, hend', hoptions⟩
      | level =>
        obtain ⟨hfree, l, hvalue, rfl⟩ := take_level_iff.mp htake
        obtain rfl : level = none := by
          cases level with
          | none => rfl
          | some m => exact absurd (hlevel rfl) (by simp)
        have hunit := levelUnit_iff.mpr ⟨value, hgives, hvalue⟩
        exact ⟨count, some l, us ++ vs, .level hunit hvs, hcount, fun _ => hfree, hend', hoptions⟩

/-! ## The command line -/

theorem read_composed {count : Option Nat} {level : Option Level} {us : List Bytes}
    (h : Composed count level us) {arguments : List Bytes}
    (hend : arguments = us ∨ arguments = us ++ [spelled "--"]) :
    read arguments = .ok ⟨count.getD 2, level.getD .info⟩ := by
  have hread : ∀ tail, read (us ++ tail) = readFrom ⟨count, level, none⟩ tail := by
    intro tail
    rw [read, readFrom_composed h rfl (fun _ => rfl) (fun _ => rfl)]
    simp only [Progress.start, Option.or_none]
  have hfinish : (⟨count, level, none⟩ : Progress).finish = .ok ⟨count.getD 2, level.getD .info⟩ :=
    finish_of_waiting rfl
  rcases hend with rfl | rfl
  · have := hread []
    rw [List.append_nil, readFrom] at this
    exact this.trans hfinish
  · exact (hread _).trans hfinish

/-- A command line is accepted exactly if it is of the grammar, and asks for what its units say. So
every spelling of a count and of a level and either order come to the same. -/
theorem read_accepts_grammar :
    (∀ arguments options, read arguments = .ok options ↔ Grammatical arguments options) ∧
    ∀ n level us vs, CountUnit n us → LevelUnit level vs →
      read us = .ok ⟨n, .info⟩ ∧ read vs = .ok ⟨2, level⟩ ∧
      read (us ++ vs) = .ok ⟨n, level⟩ ∧ read (vs ++ us) = .ok ⟨n, level⟩ := by
  constructor
  · intro arguments options
    constructor
    · intro h
      obtain ⟨count, level, us, hus, _, _, hend, hoptions⟩ := exists_composed_of_readFrom rfl h
      refine ⟨count, level, us, hus, hend, ?_⟩
      simpa [Progress.start] using hoptions
    · intro hboth
      obtain ⟨count, level, us, hus, hend, rfl⟩ := hboth
      exact read_composed hus hend
  · intro n level us vs hus hvs
    have hcount : Composed (some n) none us := by
      have := Composed.count hus .nil
      rwa [List.append_nil] at this
    have hlevel : Composed none (some level) vs := by
      have := Composed.level hvs .nil
      rwa [List.append_nil] at this
    exact ⟨read_composed hcount (.inl rfl), read_composed hlevel (.inl rfl),
      read_composed (.count hus hlevel) (.inl rfl), read_composed (.level hvs hcount) (.inl rfl)⟩

end SiteFilter.CommandLine
