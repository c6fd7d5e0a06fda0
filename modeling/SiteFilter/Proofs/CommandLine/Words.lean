import SiteFilter.CommandLine.Options

/-!
# How parameters are spelled

Which arguments are the two parameters, alone or with a value attached, and which arguments can
stand as a value of their own.

What is proved:
  1. `ofArgument_cases`, `ofLong_cases` — what decides the kind of a word.
  2. `ofArgument_eq_terminator_iff` — two dashes and nothing else end the options.
  3. `ofArgument_eq_parameter_iff` — a parameter is a letter, if it has one, or a long name; a value
     is attached to the letter, with an equals sign between them if one likes, or to the name behind
     an equals sign.
  4. `ofArgument_eq_operand` — what does not begin with a dash can stand as a value of its own.
-/

namespace SiteFilter.CommandLine

/-- The argument that a string spells. -/
def spelled (s : String) : Bytes := Utf8.encode s.toList

/-- The long name of a parameter, without its dashes. -/
def Parameter.longName : Parameter → Bytes
  | .count => spelled "count"
  | .level => spelled "log-level"

theorem Parameter.longName_inj {a b : Parameter} (h : a.longName = b.longName) : a = b := by
  have hdistinct : Parameter.count.longName ≠ Parameter.level.longName := by decide
  cases a <;> cases b
  · rfl
  · exact absurd h hdistinct
  · exact absurd h.symm hdistinct
  · rfl

theorem Parameter.equalsSign_notMem_longName (parameter : Parameter) :
    equalsSign ∉ parameter.longName := by
  cases parameter <;> decide

namespace Word

variable {parameter : Parameter} {value : Bytes} {attached : Option Bytes}

/-! ## Long names -/

/-- What stands behind a long name that a value is attached to or not. -/
def behindName : Option Bytes → Bytes
  | none => []
  | some value => equalsSign :: value

/-- A name without an equals sign and what is attached to it are found at the first equals sign. -/
theorem cut_at_equalsSign_iff {body name : Bytes} (hname : equalsSign ∉ name) :
    (body.takeWhile (· ≠ equalsSign) = name ∧
      (body.dropWhile (· ≠ equalsSign)).tail? = attached) ↔ body = name ++ behindName attached := by
  constructor
  · intro hboth
    obtain ⟨htake, htail⟩ := hboth
    have hsplit := List.takeWhile_append_dropWhile (p := (· ≠ equalsSign)) (l := body)
    rw [htake] at hsplit
    rw [← hsplit]
    cases hdrop : body.dropWhile (· ≠ equalsSign) with
    | nil =>
      rw [hdrop] at htail
      subst htail
      rfl
    | cons x rest =>
      rw [hdrop] at htail
      subst htail
      -- the name ends at an equals sign
      have hx := List.head?_dropWhile_not (· ≠ equalsSign) body
      rw [hdrop] at hx
      have hx : x = equalsSign := by simpa using hx
      rw [hx]
      rfl
  · intro heq
    subst heq
    have hall : ∀ x ∈ name, decide (x ≠ equalsSign) = true := by
      intro x hx
      apply decide_eq_true
      intro heq
      subst heq
      exact hname hx
    rw [List.takeWhile_append_of_pos hall, List.dropWhile_append_of_pos hall]
    cases attached <;> simp [behindName]

/-- What two dashes make is decided by the long name alone. -/
theorem ofLong_cases (body : Bytes) :
    (∃ parameter : Parameter, body.takeWhile (· ≠ equalsSign) = parameter.longName ∧
      ofLong body = .parameter parameter (body.dropWhile (· ≠ equalsSign)).tail?) ∨
    ((∀ parameter : Parameter, body.takeWhile (· ≠ equalsSign) ≠ parameter.longName) ∧
      (∀ parameter attached, ofLong body ≠ .parameter parameter attached) ∧
      ofLong body ≠ .terminator) := by
  unfold ofLong
  simp only
  generalize body.takeWhile (· ≠ equalsSign) = name
  generalize (body.dropWhile (· ≠ equalsSign)).tail? = found
  split
  · next hcount => exact .inl ⟨.count, hcount, rfl⟩
  · next hcount =>
    split
    · next hlevel => exact .inl ⟨.level, hlevel, rfl⟩
    · next hlevel =>
      -- any other long name is no parameter
      have hname : ∀ parameter : Parameter, name ≠ parameter.longName := by
        intro parameter
        cases parameter
        · exact hcount
        · exact hlevel
      refine .inr ⟨hname, ?_⟩
      split
      · cases found <;> simp
      · split
        · cases found <;> simp
        · simp

theorem ofLong_eq_parameter_iff {body : Bytes} :
    ofLong body = .parameter parameter attached ↔
      body = parameter.longName ++ behindName attached := by
  rw [← cut_at_equalsSign_iff parameter.equalsSign_notMem_longName]
  rcases ofLong_cases body with ⟨found, hname, hword⟩ | ⟨hname, hword, _⟩
  · rw [hname, hword, Word.parameter.injEq]
    refine and_congr_left fun _ => ?_
    constructor
    · intro heq
      subst heq
      rfl
    · exact Parameter.longName_inj
  · exact iff_of_false (hword _ _) fun h => hname _ h.1

theorem ofLong_ne_terminator (body : Bytes) : ofLong body ≠ .terminator := by
  rcases ofLong_cases body with ⟨_, _, hword⟩ | ⟨_, _, hword⟩
  · rw [hword]
    simp
  · exact hword

/-! ## Letters -/

/-- The letter of the count. -/
def countLetter : UInt8 := 0x6E

theorem ofCluster_eq_parameter_iff {letters : Bytes} :
    ofCluster letters = .parameter parameter attached ↔
      parameter = .count ∧ ∃ rest, letters = countLetter :: rest ∧ clusterValue rest = attached := by
  cases letters with
  | nil => simp [ofCluster]
  | cons b rest =>
    rw [ofCluster]
    split
    · next hb =>
      obtain rfl : b = countLetter := hb
      simp [eq_comm]
    · next hb =>
      have hletter : b ≠ countLetter := hb
      split
      · simp [hletter]
      · split <;> simp [hletter]

theorem clusterValue_eq_none_iff {rest : Bytes} : clusterValue rest = none ↔ rest = [] := by
  cases rest with
  | nil => simp [clusterValue]
  | cons b more =>
    rw [clusterValue]
    split <;> simp

theorem clusterValue_eq_some_iff {rest : Bytes} :
    clusterValue rest = some value ↔
      rest = equalsSign :: value ∨
        (rest = value ∧ value ≠ [] ∧ value.head? ≠ some equalsSign) := by
  cases rest with
  | nil =>
    rw [clusterValue]
    refine iff_of_false (by simp) ?_
    intro hor
    rcases hor with h | ⟨rfl, hne, _⟩
    · cases h
    · exact hne rfl
  | cons b more =>
    rw [clusterValue]
    split
    · next hb =>
      subst hb
      constructor
      · intro h
        cases h
        exact .inl rfl
      · intro hor
        rcases hor with h | ⟨rfl, _, hhead⟩
        · cases h
          rfl
        · exact absurd rfl hhead
    · next hb =>
      constructor
      · intro h
        cases h
        exact .inr ⟨rfl, by simp, by simpa using hb⟩
      · intro hor
        rcases hor with h | ⟨rfl, _, _⟩
        · cases h
          exact absurd rfl hb
        · rfl

theorem ofCluster_ne_terminator (letters : Bytes) : ofCluster letters ≠ .terminator := by
  cases letters with
  | nil => simp [ofCluster]
  | cons b rest =>
    rw [ofCluster]
    split
    · simp
    · split
      · simp
      · split <;> simp

/-! ## Arguments -/

/-- An argument is told by the dashes at its beginning. -/
theorem ofArgument_cases (a : Bytes) :
    ((a.head? ≠ some dash ∨ a = [dash]) ∧ ofArgument a = .operand) ∨
    (∃ b rest, b ≠ dash ∧ a = dash :: b :: rest ∧ ofArgument a = ofCluster (b :: rest)) ∨
    (a = [dash, dash] ∧ ofArgument a = .terminator) ∨
    ∃ body, body ≠ [] ∧ a = dash :: dash :: body ∧ ofArgument a = ofLong body := by
  unfold ofArgument
  split
  · exact .inl ⟨.inl (by simp), rfl⟩
  · next x rest =>
    split
    · next hx => exact .inl ⟨.inl (by simpa using hx), rfl⟩
    · next hx =>
      obtain rfl : x = dash := by simpa using hx
      split
      · exact .inl ⟨.inr rfl, rfl⟩
      · next b body =>
        split
        · next hb => exact .inr (.inl ⟨b, body, hb, rfl, rfl⟩)
        · next hb =>
          obtain rfl : b = dash := by simpa using hb
          split
          · next hbody => exact .inr (.inr (.inl ⟨by rw [hbody], rfl⟩))
          · next hbody => exact .inr (.inr (.inr ⟨body, hbody, rfl, rfl⟩))

theorem ofArgument_eq_parameter_iff {a : Bytes} :
    ofArgument a = .parameter parameter attached ↔
      (parameter = .count ∧ ∃ rest, a = dash :: countLetter :: rest ∧
        clusterValue rest = attached) ∨
      a = dash :: dash :: (parameter.longName ++ behindName attached) := by
  have hdistinct : countLetter ≠ dash := by decide
  have hname : parameter.longName ≠ [] := by cases parameter <;> decide
  rcases ofArgument_cases a with
    ⟨hoperand, hword⟩ | ⟨b, rest, hb, rfl, hword⟩ | ⟨rfl, hword⟩ | ⟨body, hbody, rfl, hword⟩
  · rw [hword]
    refine iff_of_false (by simp) ?_
    rcases hoperand with hhead | rfl
    · intro hor
      rcases hor with ⟨_, rest, rfl, _⟩ | rfl <;> exact hhead rfl
    · simp
  · rw [hword, ofCluster_eq_parameter_iff]
    simp [hb]
  · rw [hword]
    simp [hdistinct.symm, hname]
  · rw [hword, ofLong_eq_parameter_iff]
    simp [hdistinct.symm]

theorem ofArgument_eq_terminator_iff {a : Bytes} :
    ofArgument a = .terminator ↔ a = spelled "--" := by
  have hspelled : spelled "--" = [dash, dash] := rfl
  rw [hspelled]
  rcases ofArgument_cases a with
    ⟨hoperand, hword⟩ | ⟨b, rest, hb, rfl, hword⟩ | ⟨rfl, hword⟩ | ⟨body, hbody, rfl, hword⟩
  · rw [hword]
    refine iff_of_false (by simp) ?_
    rcases hoperand with hhead | rfl
    · intro heq
      subst heq
      exact hhead rfl
    · simp
  · rw [hword]
    simp [ofCluster_ne_terminator, hb]
  · exact iff_of_true hword rfl
  · rw [hword]
    simp [ofLong_ne_terminator, hbody]

theorem ofArgument_eq_operand {a : Bytes} (h : a.head? ≠ some dash) :
    ofArgument a = .operand := by
  cases a with
  | nil => rfl
  | cons x rest =>
    have hx : x ≠ dash := by simpa using h
    simp [ofArgument, hx]

/-! ## The two parameters -/

theorem ofArgument_eq_count_none_iff {a : Bytes} :
    ofArgument a = .parameter .count none ↔ a = spelled "-n" ∨ a = spelled "--count" := by
  have hshort : spelled "-n" = [dash, countLetter] := rfl
  have hlong : spelled "--count" = dash :: dash :: (Parameter.count.longName ++ []) := rfl
  rw [ofArgument_eq_parameter_iff, hshort, hlong]
  simp [clusterValue_eq_none_iff, behindName]

theorem ofArgument_eq_count_some_iff {a : Bytes} :
    ofArgument a = .parameter .count (some value) ↔
      (a = spelled "-n" ++ value ∧ value ≠ [] ∧ value.head? ≠ some equalsSign) ∨
      a = spelled "-n=" ++ value ∨ a = spelled "--count=" ++ value := by
  have hshort : spelled "-n" = [dash, countLetter] := rfl
  have hequals : spelled "-n=" = [dash, countLetter, equalsSign] := rfl
  have hlong : spelled "--count=" = dash :: dash :: (Parameter.count.longName ++ [equalsSign]) := rfl
  rw [ofArgument_eq_parameter_iff, hshort, hequals, hlong]
  simp only [clusterValue_eq_some_iff, behindName, true_and]
  constructor
  · intro hor
    rcases hor with ⟨rest, rfl, rfl | ⟨rfl, hne, hhead⟩⟩ | rfl
    · exact .inr (.inl rfl)
    · exact .inl ⟨rfl, hne, hhead⟩
    · right
      right
      simp
  · intro hor
    rcases hor with ⟨rfl, hne, hhead⟩ | rfl | rfl
    · exact .inl ⟨value, rfl, .inr ⟨rfl, hne, hhead⟩⟩
    · exact .inl ⟨_, rfl, .inl rfl⟩
    · right
      simp

theorem ofArgument_eq_level_none_iff {a : Bytes} :
    ofArgument a = .parameter .level none ↔ a = spelled "--log-level" := by
  have hlong : spelled "--log-level" = dash :: dash :: (Parameter.level.longName ++ []) := rfl
  rw [ofArgument_eq_parameter_iff, hlong]
  simp [behindName]

theorem ofArgument_eq_level_some_iff {a : Bytes} :
    ofArgument a = .parameter .level (some value) ↔ a = spelled "--log-level=" ++ value := by
  have hlong :
      spelled "--log-level=" = dash :: dash :: (Parameter.level.longName ++ [equalsSign]) := rfl
  rw [ofArgument_eq_parameter_iff, hlong]
  simp [behindName]

end Word

end SiteFilter.CommandLine
