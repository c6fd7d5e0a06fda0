import SiteFilter.Proofs.CommandLine.Words

/-!
# How a command line is read on

The step of reading: from a point where nothing waits, a line that is accepted either ends there or
goes on with arguments that give one parameter its value. The value may stand apart or be attached;
where it stands apart it is looked at later, but with the same result.

What is proved:
  1. `readFrom_of_settle` — a value that has come and is good may as well be taken at once.
  2. `readFrom_apart`, `readFrom_gives` — a parameter waits with the operand behind it, and arguments
     that give a good value move the reading on by that value.
  3. `exists_gives_of_readFrom` — a line that is accepted ends, or begins with such arguments and the
     rest is accepted from there.
-/

namespace SiteFilter.CommandLine

/-- Arguments that give a parameter its value: behind the parameter, or attached to it. -/
inductive Gives (parameter : Parameter) (value : Bytes) : List Bytes → Prop where
  | apart {flag : Bytes} :
      Word.ofArgument flag = .parameter parameter none → Word.ofArgument value = .operand →
      Gives parameter value [flag, value]
  | attached {a : Bytes} :
      Word.ofArgument a = .parameter parameter (some value) → Gives parameter value [a]

variable {p p' : Progress} {parameter : Parameter} {value : Bytes} {arguments rest : List Bytes}
  {options : Options}

namespace Progress

/-- The same values taken, and nothing that waits. -/
def idle (p : Progress) : Progress := { p with waiting := none }

theorem idle_of_waiting (h : p.waiting = none) : p.idle = p := by
  cases p
  subst h
  rfl

theorem settle_of_waiting (h : p.waiting = none) : p.settle = .ok p := by
  rw [settle, h]

theorem take_waiting {v : Option Bytes} (h : p.take parameter v = .ok p') :
    p'.waiting = p.waiting := by
  unfold take at h
  split at h
  · cases h
  · split at h
    · cases h
    · split at h
      · cases h
        rfl
      · cases h
  · split at h
    · cases h
    · split at h
      · cases h
        rfl
      · cases h

theorem waiting_of_settle (h : p.settle = .ok p') : p'.waiting = none := by
  unfold settle at h
  split at h
  · next hwaiting =>
    cases h
    exact hwaiting
  · exact take_waiting h

end Progress

theorem finish_of_settle (h : p.settle = .ok p') : p.finish = p'.finish := by
  rw [Progress.finish, Progress.finish, h, Progress.settle_of_waiting (Progress.waiting_of_settle h)]

/-- Where no value is awaited, what waits may as well be taken at once, if it is good. -/
theorem readFrom_of_settle (hvalue : p.awaitsValue = false) (h : p.settle = .ok p') :
    readFrom p arguments = readFrom p' arguments := by
  have hwaiting := Progress.waiting_of_settle h
  have hvalue' : p'.awaitsValue = false := by simp [Progress.awaitsValue, hwaiting]
  cases arguments with
  | nil =>
    rw [readFrom, readFrom]
    exact finish_of_settle h
  | cons a rest =>
    rw [readFrom.eq_def, readFrom.eq_def p']
    simp only [h, Progress.settle_of_waiting hwaiting, hvalue, hvalue', finish_of_settle h,
      Bool.false_eq_true, if_false]

/-- A line is accepted while what waits is not good, only if it goes on with an operand, as the value
that is awaited. -/
theorem exists_operand_of_readFrom {fault : UsageFault} (hsettle : p.settle = .error fault)
    (h : readFrom p arguments = .ok options) :
    ∃ value rest, arguments = value :: rest ∧ Word.ofArgument value = .operand ∧
      p.awaitsValue = true ∧ readFrom (p.supply value) rest = .ok options := by
  have hfinish : p.finish = .error (.fault fault) := by rw [Progress.finish, hsettle]
  cases arguments with
  | nil =>
    rw [readFrom, hfinish] at h
    cases h
  | cons a rest =>
    rw [readFrom.eq_def] at h
    simp only [hsettle, hfinish] at h
    cases hword : Word.ofArgument a with
    | operand =>
      simp only [hword] at h
      split at h
      · next hawaits => exact ⟨a, rest, rfl, hword, hawaits, h⟩
      · cases h
    | terminator =>
      rw [hword] at h
      cases rest <;> cases h
    | _ =>
      rw [hword] at h
      cases h

/-- Where no value is awaited, a line is accepted only if what waits is good. -/
theorem exists_settle_of_readFrom (hvalue : p.awaitsValue = false)
    (h : readFrom p arguments = .ok options) : ∃ p', p.settle = .ok p' := by
  cases hsettle : p.settle with
  | ok p' => exact ⟨p', rfl⟩
  | error fault =>
    obtain ⟨_, _, _, _, hawaits, _⟩ := exists_operand_of_readFrom hsettle h
    rw [hvalue] at hawaits
    cases hawaits

/-! ## One step -/

/-- The same progress, with a parameter that waits, and with its value if that has come. -/
def Progress.waitFor (p : Progress) (parameter : Parameter) (value : Option Bytes) : Progress :=
  { p with waiting := some (parameter, value) }

theorem Progress.settle_waitFor (hwaiting : p.waiting = none) :
    (p.waitFor parameter (some value)).settle = p.take parameter (some value) := by
  conv => rhs; rw [← p.idle_of_waiting hwaiting]
  rfl

/-- A parameter takes the operand behind it as its value and waits with it. -/
theorem readFrom_apart (hwaiting : p.waiting = none) {flag : Bytes}
    (hflag : Word.ofArgument flag = .parameter parameter none)
    (hvalue : Word.ofArgument value = .operand) :
    readFrom p (flag :: value :: rest) = readFrom (p.waitFor parameter (some value)) rest := by
  have hsettle := Progress.settle_of_waiting hwaiting
  calc readFrom p (flag :: value :: rest)
      = readFrom (p.waitFor parameter none) (value :: rest) := by
        rw [readFrom.eq_def]
        simp only [hflag, hsettle]
        rfl
    _ = readFrom (p.waitFor parameter (some value)) rest := by
        rw [readFrom.eq_def]
        simp only [hvalue]
        rfl

theorem readFrom_gives (hwaiting : p.waiting = none) {us : List Bytes}
    (hus : Gives parameter value us) (htake : p.take parameter (some value) = .ok p') :
    readFrom p (us ++ rest) = readFrom p' rest := by
  cases hus with
  | attached ha =>
    rw [List.singleton_append, readFrom.eq_def]
    simp only [ha, Progress.settle_of_waiting hwaiting, htake]
  | @apart flag hflag hvalue =>
    have hsupplied := (Progress.settle_waitFor hwaiting).trans htake
    calc readFrom p (flag :: value :: rest)
        = readFrom (p.waitFor parameter (some value)) rest := readFrom_apart hwaiting hflag hvalue
      _ = readFrom p' rest := readFrom_of_settle rfl hsupplied

/-- A line that is accepted while a value is awaited begins with that value, and the value is good. -/
theorem exists_value_of_readFrom (hwaiting : p.waiting = none)
    (h : readFrom (p.waitFor parameter none) arguments = .ok options) :
    ∃ value rest p', arguments = value :: rest ∧ Word.ofArgument value = .operand ∧
      p.take parameter (some value) = .ok p' ∧ readFrom p' rest = .ok options := by
  have hmissing : (p.waitFor parameter none).settle = .error (.valueMissing parameter) := by
    cases parameter <;> rfl
  obtain ⟨value, rest, rfl, hword, _, hrest⟩ := exists_operand_of_readFrom hmissing h
  have hrest : readFrom (p.waitFor parameter (some value)) rest = .ok options := hrest
  obtain ⟨p', hsettle⟩ := exists_settle_of_readFrom rfl hrest
  rw [readFrom_of_settle rfl hsettle] at hrest
  exact ⟨value, rest, p', rfl, hword, (Progress.settle_waitFor hwaiting).symm.trans hsettle, hrest⟩

/-- Where nothing waits, a line that is accepted ends or goes on with a good value. -/
theorem exists_gives_of_readFrom (hwaiting : p.waiting = none)
    (h : readFrom p arguments = .ok options) :
    ((arguments = [] ∨ arguments = [spelled "--"]) ∧ p.finish = .ok options) ∨
    ∃ parameter value us rest p', arguments = us ++ rest ∧ Gives parameter value us ∧
      p.take parameter (some value) = .ok p' ∧ readFrom p' rest = .ok options := by
  have hsettle := Progress.settle_of_waiting hwaiting
  cases arguments with
  | nil =>
    rw [readFrom] at h
    exact .inl ⟨.inl rfl, h⟩
  | cons a rest =>
    rw [readFrom.eq_def] at h
    simp only [hsettle] at h
    cases hword : Word.ofArgument a with
    | terminator =>
      rw [hword] at h
      obtain rfl := Word.ofArgument_eq_terminator_iff.mp hword
      cases rest with
      | nil => exact .inl ⟨.inr rfl, h⟩
      | cons b more => cases h
    | parameter parameter attached =>
      rw [hword] at h
      right
      cases attached with
      | none =>
        obtain ⟨value, rest, p', rfl, hvalue, htake, hrest⟩ := exists_value_of_readFrom hwaiting h
        exact ⟨parameter, value, [a, value], rest, p', rfl, .apart hword hvalue, htake, hrest⟩
      | some value =>
        cases htake : p.take parameter (some value) with
        | error fault =>
          simp only [htake] at h
          cases h
        | ok p' =>
          simp only [htake] at h
          exact ⟨parameter, value, [a], rest, p', rfl, .attached hword, htake, h⟩
    | operand =>
      have hvalue : p.awaitsValue = false := by simp [Progress.awaitsValue, hwaiting]
      rw [hword] at h
      simp [hvalue] at h
    | _ =>
      rw [hword] at h
      cases h

end SiteFilter.CommandLine
