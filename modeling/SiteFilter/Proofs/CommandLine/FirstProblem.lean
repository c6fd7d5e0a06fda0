import SiteFilter.Proofs.CommandLine.Grammar
import SiteFilter.Proofs.CommandLine.Requests
import SiteFilter.Proofs.Run.Repetition
import SiteFilter.Proofs.Text.Lossy

/-!
# The first problem decides

A line that is accepted leaves nothing unsettled behind it, so the argument that follows is looked at
with all that came before in order. If that argument stops the reading, nothing behind it is looked
at. A value that stands apart from its parameter is looked at later than an attached one, so an
argument that has no place is reported before it.

What is proved:
  1. `countRefusal_iff`, `ofArgument_of_misplaced` — what is wrong with a value that is no count,
     and with an argument that has no place, word for word.
  2. `exists_read_append` — how far an accepted line has been read when the next argument comes.
  3. `first_problem_decides` — what stops a line behind an accepted one, whatever follows.
-/

namespace SiteFilter.CommandLine

/-! ## Arguments that stop a line -/

/-- The long names that are known. -/
def knownNames : List Text :=
  ["count".toList, "log-level".toList, "help".toList, "version".toList]

/-- The argument `t` has no place on a line, and is shown as `shown`: all of an operand, and of a long
option that is not known what stands before the equals sign. -/
inductive Misplaced : Text → Text → Prop where
  | operand {t : Text} : t.head? ≠ some '-' ∨ t = ['-'] → Misplaced t t
  | option {name : Text} : name ≠ [] → '=' ∉ name → name ∉ knownNames →
      Misplaced ("--".toList ++ name) ("--".toList ++ name)
  | optionWithValue {name value : Text} : '=' ∉ name → name ∉ knownNames →
      Misplaced ("--".toList ++ name ++ '=' :: value) ("--".toList ++ name)

/-- The argument is an option that gives a count or announces one. -/
def IsCountOption (a : Bytes) : Prop :=
  spelled "-n" <+: a ∨ a = spelled "--count" ∨ spelled "--count=" <+: a

/-- The argument is the option for the count with this value attached. -/
def AttachesCount (a value : Bytes) : Prop :=
  a = spelled "--count=" ++ value ∨ a = spelled "-n=" ++ value ∨
    (a = spelled "-n" ++ value ∧ value ≠ [] ∧ value.head? ≠ some equalsSign)

/-- The words for what is wrong with a text for a count. -/
inductive CountReason : CountFault → Text → Prop where
  | empty : CountReason .empty "cannot parse integer from empty string".toList
  | invalidDigit : CountReason .invalidDigit "invalid digit found in string".toList
  | tooLarge : CountReason .tooLarge "number too large to fit in target type".toList

/-- What is wrong with a value that is no count, and the words for it. -/
inductive CountRefusal (value : Bytes) : UsageFault → Text → Prop where
  | notUtf8 : (∀ t, value ≠ Utf8.encode t) →
      CountRefusal value .notUtf8 "invalid UTF-8 was detected in one or more arguments".toList
  | notCount {t reason : Text} {fault : CountFault} : value = Utf8.encode t →
      Count.ofText t = .error fault → CountReason fault reason →
      CountRefusal value (.badCount t fault)
        ("invalid value '".toList ++ visible t ++ "' for '--count <COUNT>': ".toList ++ reason)

theorem countReason_iff {fault : CountFault} {reason : Text} :
    CountReason fault reason ↔ reason = fault.message := by
  constructor
  · intro h
    cases h <;> rfl
  · intro heq
    subst heq
    cases fault with
    | empty => exact .empty
    | invalidDigit => exact .invalidDigit
    | tooLarge => exact .tooLarge

theorem message_badCount (t : Text) (fault : CountFault) :
    (UsageFault.badCount t fault).message =
      "invalid value '".toList ++ visible t ++ "' for '--count <COUNT>': ".toList ++
        fault.message := by
  have hback : "' for '--count <COUNT>': ".toList =
      "' for '".toList ++ Parameter.count.usage ++ "': ".toList := rfl
  show "invalid value '".toList ++ visible t ++ "' for '".toList ++ Parameter.count.usage ++
    "': ".toList ++ fault.message = _
  rw [hback]
  simp only [List.append_assoc]

theorem countRefusal_iff {value : Bytes} {fault : UsageFault} {message : Text} :
    CountRefusal value fault message ↔
      readCount value = .error fault ∧ message = fault.message := by
  constructor
  · intro h
    cases h with
    | notUtf8 hform =>
      refine ⟨?_, rfl⟩
      unfold readCount
      cases hread : Utf8.decode? value with
      | none => rfl
      | some t => exact absurd (Utf8.decode?_eq_some_iff.mp hread) (hform t)
    | notCount ht hcount hreason =>
      subst ht
      refine ⟨?_, ?_⟩
      · simp only [readCount, Utf8.decode?_encode, hcount]
      · rw [message_badCount, countReason_iff.mp hreason]
  · intro h
    obtain ⟨hrefused, rfl⟩ := h
    unfold readCount at hrefused
    cases hread : Utf8.decode? value with
    | none =>
      simp only [hread] at hrefused
      cases hrefused
      apply CountRefusal.notUtf8
      intro t ht
      rw [Utf8.decode?_eq_some_iff.mpr ht] at hread
      cases hread
    | some t =>
      have ht := Utf8.decode?_eq_some_iff.mp hread
      cases hcount : Count.ofText t with
      | ok n =>
        simp only [hread, hcount] at hrefused
        cases hrefused
      | error cause =>
        simp only [hread, hcount] at hrefused
        cases hrefused
        rw [message_badCount]
        exact .notCount ht hcount (countReason_iff.mpr rfl)

/-! ## The words that they are -/

theorem ofArgument_operand {value : Bytes} (h : value = [dash] ∨ value.head? ≠ some dash) :
    Word.ofArgument value = .operand := by
  rcases h with rfl | hhead
  · rfl
  · exact Word.ofArgument_eq_operand hhead

/-- A text whose form begins with a dash begins with one. -/
theorem head?_encode {t : Text} (h : t.head? ≠ some '-') : (Utf8.encode t).head? ≠ some dash := by
  intro hhead
  obtain ⟨rest, hrest⟩ := List.head?_eq_some_iff.mp hhead
  have hscan : t.map some = some '-' :: Utf8.scan rest := by
    rw [← Utf8.scan_encode, hrest]
    exact Utf8.scan_encodeChar_append '-' rest
  cases t with
  | nil => cases hscan
  | cons c more =>
    rw [List.map_cons] at hscan
    injection hscan with hc
    exact h hc

theorem ofArgument_long {body : Bytes} (h : body ≠ []) :
    Word.ofArgument (dash :: dash :: body) = Word.ofLong body := by
  simp [Word.ofArgument, h]

theorem ofLong_of_notMem {name : Text} (hequals : '=' ∉ name) (hname : name ∉ knownNames)
    (attached : Option Bytes) :
    Word.ofLong (Utf8.encode name ++ Word.behindName attached) =
      .unknown ("--".toList ++ name) := by
  have hbytes : equalsSign ∉ Utf8.encode name := by
    rw [Utf8.mem_encode_iff (by decide)]
    exact hequals
  have hcut := (Word.cut_at_equalsSign_iff hbytes).mpr
    (rfl : Utf8.encode name ++ Word.behindName attached = _)
  simp only [knownNames, List.mem_cons, List.not_mem_nil, or_false, not_or] at hname
  obtain ⟨hcount, hlevel, hhelp, hversion⟩ := hname
  unfold Word.ofLong
  rw [hcut.1]
  simp only
  rw [if_neg fun h => hcount (Utf8.encode_inj h), if_neg fun h => hlevel (Utf8.encode_inj h),
    if_neg fun h => hhelp (Utf8.encode_inj h), if_neg fun h => hversion (Utf8.encode_inj h),
    Utf8.lossy_encode]

theorem ofArgument_of_misplaced {t shown : Text} (h : Misplaced t shown) :
    (Word.ofArgument (Utf8.encode t) = .operand ∧ shown = t) ∨
      Word.ofArgument (Utf8.encode t) = .unknown shown := by
  cases h with
  | operand hoperand =>
    refine .inl ⟨ofArgument_operand ?_, rfl⟩
    rcases hoperand with hhead | rfl
    · exact .inr (head?_encode hhead)
    · exact .inl rfl
  | @option name hne hequals hname =>
    right
    have hbody := ofLong_of_notMem hequals hname none
    rw [Word.behindName, List.append_nil] at hbody
    have hform : Utf8.encode name ≠ [] := fun hnil => hne (Utf8.encode_inj hnil)
    rw [Utf8.encode_append, ← hbody]
    exact ofArgument_long hform
  | @optionWithValue name value hequals hname =>
    right
    have hbody := ofLong_of_notMem hequals hname (some (Utf8.encode value))
    have hform : Utf8.encode name ++ Word.behindName (some (Utf8.encode value)) ≠ [] := by
      simp [Word.behindName]
    rw [Utf8.encode_append, Utf8.encode_append, List.append_assoc, ← hbody]
    exact ofArgument_long hform

/-! ## What has been read -/

theorem CountUnit.exists_countOption {n : Nat} {us : List Bytes} (h : CountUnit n us) :
    ∃ a ∈ us, IsCountOption a := by
  cases h with
  | letterApart => exact ⟨_, List.mem_cons_self, .inl (List.prefix_refl _)⟩
  | letterAttached => exact ⟨_, List.mem_cons_self, .inl (List.prefix_append _ _)⟩
  | @letterEquals value =>
    refine ⟨_, List.mem_cons_self, .inl ⟨equalsSign :: value, ?_⟩⟩
    rfl
  | nameApart => exact ⟨_, List.mem_cons_self, .inr (.inl rfl)⟩
  | nameEquals => exact ⟨_, List.mem_cons_self, .inr (.inr (List.prefix_append _ _))⟩

/-- Where a count has been read there is an option that gives it. -/
theorem Composed.exists_countOption {n : Nat} {level : Option Level} {us : List Bytes}
    (h : Composed (some n) level us) : ∃ a ∈ us, IsCountOption a := by
  generalize hcount : some n = count at h
  induction h with
  | nil => cases hcount
  | count hunit _ _ =>
    obtain ⟨a, ha, hoption⟩ := hunit.exists_countOption
    exact ⟨a, List.mem_append_left _ ha, hoption⟩
  | level _ _ ih =>
    obtain ⟨a, ha, hoption⟩ := ih hcount
    exact ⟨a, List.mem_append_right _ ha, hoption⟩

section
variable {line : List Bytes} {options : Options} (accepted : read line = .ok options)
  (unended : spelled "--" ∉ line)
include accepted unended

theorem exists_read_append :
    ∃ p : Progress, p.waiting = none ∧ (∀ tail, read (line ++ tail) = readFrom p tail) ∧
      ((∀ b ∈ line, ¬ IsCountOption b) → p.count = none) := by
  obtain ⟨count, level, us, hus, _, _, hend, _⟩ := exists_composed_of_readFrom rfl accepted
  obtain rfl : line = us := by
    rcases hend with hline | hline
    · exact hline
    · -- two dashes are the last argument of the line
      exact absurd (by simp [hline]) unended
  refine ⟨⟨count, level, none⟩, rfl, ?_, ?_⟩
  · intro tail
    rw [read, readFrom_composed hus rfl (fun _ => rfl) (fun _ => rfl)]
    simp only [Progress.start, Option.or_none]
  · intro hfree
    cases count with
    | none => rfl
    | some n =>
      obtain ⟨a, ha, hoption⟩ := hus.exists_countOption
      exact absurd hoption (hfree a ha)

end

/-! ## What stops the reading -/

section
variable {p : Progress} {rest : List Bytes}

theorem readFrom_asks (hwaiting : p.waiting = none) {request : Request} {a : Bytes}
    (h : Asks request a) : readFrom p (a :: rest) = .error (.request request) := by
  rw [readFrom.eq_def]
  simp only [ofArgument_of_asks h, Progress.settle_of_waiting hwaiting]

theorem readFrom_badCount (hwaiting : p.waiting = none) (hcount : p.count = none)
    {a value : Bytes} (ha : Word.ofArgument a = .parameter .count (some value))
    {fault : UsageFault} (hvalue : readCount value = .error fault) :
    readFrom p (a :: rest) = .error (.fault fault) := by
  have htake : p.take .count (some value) = .error fault := by
    rw [Progress.take]
    simp [hcount, hvalue]
  rw [readFrom.eq_def]
  simp only [ha, Progress.settle_of_waiting hwaiting, htake]

/-- What waits with its value is not looked at. -/
theorem readFrom_misplaced (hvalue : p.awaitsValue = false) {t shown : Text}
    (h : Misplaced t shown) :
    readFrom p (Utf8.encode t :: rest) = .error (.fault (.unexpectedArgument shown)) := by
  rw [readFrom.eq_def]
  rcases ofArgument_of_misplaced h with ⟨hword, rfl⟩ | hword
  · simp only [hword, hvalue, Utf8.lossy_encode]
    rfl
  · simp only [hword]

end

/-! ## The whole line -/

/-- The arguments stop a run that has its handler, which prints this and leaves everything as it is. -/
structure StopsWith (arguments : List Bytes) (stop : Stop) (out : Output) : Prop where
  read : CommandLine.read arguments = .error stop
  run : ∀ around : Surroundings, around.handlerTaken = false →
    ∀ p, SiteFilter.run around arguments p = (p, out)

theorem stopsWith_of_read {arguments : List Bytes} {stop : Stop}
    (h : CommandLine.read arguments = .error stop) : StopsWith arguments stop (.ofStop stop) :=
  ⟨h, fun _ free p => run_of_stop free h p⟩

/-- What is printed about an argument that has no place. -/
def unexpectedOutput (shown : Text) : Output :=
  ⟨2, [], "error: ".toList ++ ("unexpected argument '".toList ++ visible shown ++
    "' found".toList) ++ ['\n']⟩

/-- Behind a line that is accepted and not ended by two dashes, the next argument that is a problem
decides, whatever follows. A request prints its text. An attached value that is no count is refused for
what is wrong with it, unless there is a count already. An operand and a long option that is not known
are unexpected; they are so too behind a count that stands apart, good or bad, which is dropped. -/
theorem first_problem_decides {line : List Bytes} {options : Options}
    (accepted : read line = .ok options) (unended : spelled "--" ∉ line) (rest : List Bytes) :
    (∀ request a, Asks request a →
      ∃ shown, Prints request shown ∧
        StopsWith (line ++ a :: rest) (.request request) ⟨0, shown, []⟩) ∧
    ((∀ b ∈ line, ¬ IsCountOption b) → ∀ a value, AttachesCount a value →
      (∀ n, ¬ CountValue value n) →
      ∃ fault message, CountRefusal value fault message ∧
        StopsWith (line ++ a :: rest) (.fault fault)
          ⟨2, [], "error: ".toList ++ message ++ ['\n']⟩) ∧
    ∀ t shown, Misplaced t shown →
      StopsWith (line ++ Utf8.encode t :: rest) (.fault (.unexpectedArgument shown))
        (unexpectedOutput shown) ∧
      ∀ value, value = [dash] ∨ value.head? ≠ some dash →
        StopsWith (line ++ spelled "-n" :: value :: Utf8.encode t :: rest)
          (.fault (.unexpectedArgument shown)) (unexpectedOutput shown) := by
  obtain ⟨p, hwaiting, hread, hfree⟩ := exists_read_append accepted unended
  have hawaits : p.awaitsValue = false := by simp [Progress.awaitsValue, hwaiting]
  refine ⟨?_, ?_, ?_⟩
  · intro request a ha
    refine ⟨request.text, prints_text request, stopsWith_of_read ?_⟩
    rw [hread]
    exact readFrom_asks hwaiting ha
  · intro hnone a value ha hvalue
    have hword : Word.ofArgument a = .parameter .count (some value) := by
      rw [Word.ofArgument_eq_count_some_iff]
      rcases ha with hname | hequals | hletter
      · exact .inr (.inr hname)
      · exact .inr (.inl hequals)
      · exact .inl hletter
    cases hcount : readCount value with
    | ok n => exact absurd (readCount_eq_ok_iff.mp hcount) (hvalue n)
    | error fault =>
      refine ⟨fault, _, countRefusal_iff.mpr ⟨hcount, rfl⟩, stopsWith_of_read ?_⟩
      rw [hread]
      exact readFrom_badCount hwaiting (hfree hnone) hword hcount
  · intro t shown ht
    refine ⟨?_, ?_⟩
    · apply stopsWith_of_read
      rw [hread]
      exact readFrom_misplaced hawaits ht
    · intro value hvalue
      apply stopsWith_of_read
      have hflag : Word.ofArgument (spelled "-n") = .parameter .count none := rfl
      rw [hread, readFrom_apart hwaiting hflag (ofArgument_operand hvalue)]
      exact readFrom_misplaced rfl ht

/-- In front of an option that is not known: the three requests, one of them in a cluster with a bad
count; a bad count, attached; and the same apart. -/
theorem first_problem_decides_signAlone :
    let line := [spelled "--log-level", spelled "warn"]
    let unknown := spelled "--nope=1"
    (read line = .ok ⟨2, .warn⟩ ∧ spelled "--" ∉ line) ∧
      StopsWith (line ++ [spelled "--version", unknown]) (.request .version)
        ⟨0, "malsites 0.1.0\n".toList, []⟩ ∧
      (∃ shown, Prints .briefHelp shown ∧
        StopsWith (line ++ [spelled "-hn+", unknown]) (.request .briefHelp) ⟨0, shown, []⟩) ∧
      (∃ shown, Prints .fullHelp shown ∧
        StopsWith (line ++ [spelled "--help", unknown]) (.request .fullHelp) ⟨0, shown, []⟩) ∧
      StopsWith (line ++ [spelled "-n+", unknown]) (.fault (.badCount ['+'] .invalidDigit))
        ⟨2, [], "error: ".toList ++ ("invalid value '".toList ++ ['+'] ++
          "' for '--count <COUNT>': ".toList ++ "invalid digit found in string".toList) ++
            ['\n']⟩ ∧
      StopsWith (line ++ [spelled "-n", spelled "+", unknown])
        (.fault (.unexpectedArgument "--nope".toList))
        ⟨2, [], "error: ".toList ++ ("unexpected argument '".toList ++ "--nope".toList ++
          "' found".toList) ++ ['\n']⟩ := by
  intro line unknown
  have accepted : read line = .ok ⟨2, .warn⟩ := rfl
  have unended : spelled "--" ∉ line := by decide
  have hnone : ∀ b ∈ line, ¬ IsCountOption b := by
    unfold IsCountOption
    decide
  have hattaches : AttachesCount (spelled "-n+") (spelled "+") := by
    unfold AttachesCount
    decide
  have hrefused : ∀ n, ¬ CountValue (spelled "+") n := by
    intro n hvalue
    have hread := readCount_eq_ok_iff.mpr hvalue
    cases hread
  have hplace : Misplaced "--nope=1".toList "--nope".toList :=
    @Misplaced.optionWithValue "nope".toList "1".toList (by decide) (by decide)
  obtain ⟨hrequest, hbad, _⟩ := first_problem_decides accepted unended [unknown]
  obtain ⟨_, _, hunexpected⟩ := first_problem_decides accepted unended []
  obtain ⟨_, hversion, hversionStops⟩ := hrequest _ _ .versionName
  obtain ⟨fault, message, hfault, hstops⟩ := hbad hnone _ _ hattaches hrefused
  obtain ⟨hcause, hmessage⟩ := countRefusal_iff.mp hfault
  obtain rfl : .badCount ['+'] .invalidDigit = fault := Except.error.inj hcause
  refine ⟨⟨accepted, unended⟩, ?_, hrequest _ _ (.briefHelp (spelled "n+")),
    hrequest _ _ .fullHelp, ?_, (hunexpected _ _ hplace).2 (spelled "+") (.inr (by decide))⟩
  · obtain rfl := hversion.unique .version
    exact hversionStops
  · rw [hmessage, message_badCount] at hstops
    exact hstops

end SiteFilter.CommandLine
