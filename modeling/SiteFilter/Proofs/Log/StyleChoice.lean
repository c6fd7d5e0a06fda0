import Mathlib.Data.List.Forall2
import SiteFilter.Proofs.Log.LifeCycle
import SiteFilter.Proofs.Run.Course
import SiteFilter.Proofs.Text.EncodedForm
import SiteFilter.Proofs.Text.Trimming

/-!
# Which style the records have

The style of the records is the one that a variable names, and where it names none, the one that fits
what is found around the program. A value names a style if it is the form of the style's name with
white space around it, the letters of the name in either case. Case is that of ASCII letters, white
space is that of Unicode, and a value that is not the form of a text names nothing, wherever the
ill-formed part stands.

What is proved:
  1. `toLower_eq_iff`, `ofName?_eq_some_iff` — a name is compared letter by letter.
  2. `ofValue?_eq_some_iff` — the values that name a style.
  3. `choose_of_names`, `choose_of_namesNone` — the style that is chosen.
  4. `isLogOf_run` — a run leaves records of one style behind, and the report of a fault.
  5. `record_style_chosen` — the style of everything that is logged.
-/

namespace SiteFilter

/-- The characters are the same, or the same ASCII letter in the two cases. -/
def SameButCase (c d : Char) : Prop :=
  c = d ∨ (c.isUpper = true ∧ d.toNat = c.toNat + 0x20) ∨
    (d.isUpper = true ∧ c.toNat = d.toNat + 0x20)

/-! ## Letters -/

theorem isUpper_iff {c : Char} : c.isUpper = true ↔ 0x41 ≤ c.toNat ∧ c.toNat ≤ 0x5A := by
  show decide (c.val ≥ 'A'.val ∧ c.val ≤ 'Z'.val) = true ↔ _
  rw [decide_eq_true_eq]
  exact Iff.rfl

theorem isLower_iff {c : Char} : c.isLower = true ↔ 0x61 ≤ c.toNat ∧ c.toNat ≤ 0x7A := by
  show (decide (c.val ≥ 'a'.val) && decide (c.val ≤ 'z'.val)) = true ↔ _
  rw [Bool.and_eq_true, decide_eq_true_eq, decide_eq_true_eq]
  exact Iff.rfl

theorem isAlpha_iff {c : Char} : c.isAlpha = true ↔ c.isUpper = true ∨ c.isLower = true := by
  show (c.isUpper || c.isLower) = true ↔ _
  rw [Bool.or_eq_true]

theorem toNat_toLower {c : Char} (h : c.isUpper = true) : c.toLower.toNat = c.toNat + 0x20 := by
  have hrange : c.val ≥ 'A'.val ∧ c.val ≤ 'Z'.val := isUpper_iff.mp h
  have hlower : c.toLower = ⟨c.val + 0x20, _⟩ := dif_pos hrange
  rw [hlower]
  show (c.val + 0x20).toNat = c.val.toNat + 0x20
  rw [UInt32.toNat_add]
  -- the code of a letter is far below what thirty-two bits hold
  have hcode : c.val.toNat ≤ 0x5A := hrange.2
  have hstep : (0x20 : UInt32).toNat = 0x20 := rfl
  omega

theorem toLower_of_not_isUpper {c : Char} (h : c.isUpper = false) : c.toLower = c := by
  have hrange : ¬ (c.val ≥ 'A'.val ∧ c.val ≤ 'Z'.val) := by
    intro hrange
    rw [isUpper_iff.mpr hrange] at h
    cases h
  exact dif_neg hrange

theorem isAlpha_of_isLower_toLower {c : Char} (h : c.toLower.isLower = true) :
    c.isAlpha = true := by
  rw [isAlpha_iff]
  cases hc : c.isUpper with
  | true => exact .inl rfl
  | false =>
    rw [toLower_of_not_isUpper hc] at h
    exact .inr h

/-- A character that is no capital letter is what the characters with the same letter become. -/
theorem toLower_eq_iff {c d : Char} (hd : d.isUpper = false) :
    c.toLower = d ↔ SameButCase c d := by
  have hnever : ¬ (d.isUpper = true ∧ c.toNat = d.toNat + 0x20) := by simp [hd]
  unfold SameButCase
  rw [or_iff_left hnever]
  cases hc : c.isUpper with
  | true =>
    have hne : c ≠ d := by
      intro heq
      rw [heq, hd] at hc
      cases hc
    rw [or_iff_right hne, ← Char.toNat_inj, toNat_toLower hc]
    exact ⟨fun h => ⟨rfl, h.symm⟩, fun h => h.2.symm⟩
  | false =>
    rw [toLower_of_not_isUpper hc]
    simp

theorem map_toLower_eq_iff {t u : Text} (hu : ∀ d ∈ u, d.isUpper = false) :
    t.map Char.toLower = u ↔ List.Forall₂ SameButCase t u := by
  induction u generalizing t with
  | nil => rw [List.map_eq_nil_iff, List.forall₂_nil_right_iff]
  | cons d rest ih =>
    have hrest : ∀ e ∈ rest, e.isUpper = false := fun e he => hu e (List.mem_cons_of_mem d he)
    rw [List.forall₂_cons_right_iff, List.map_eq_cons_iff]
    constructor
    · intro h
      obtain ⟨c, more, rfl, hc, hmore⟩ := h
      exact ⟨c, more, (toLower_eq_iff (hu d List.mem_cons_self)).mp hc, (ih hrest).mp hmore, rfl⟩
    · intro h
      obtain ⟨c, more, hc, hmore, rfl⟩ := h
      exact ⟨c, more, rfl, (toLower_eq_iff (hu d List.mem_cons_self)).mpr hc, (ih hrest).mpr hmore⟩

theorem isWhiteSpace_of_isAlpha {c : Char} (h : c.isAlpha = true) : isWhiteSpace c = false := by
  rw [isAlpha_iff, isUpper_iff, isLower_iff] at h
  rw [isWhiteSpace, ← Bool.not_eq_true, List.any_eq_true]
  intro hex
  obtain ⟨range, hmem, hin⟩ := hex
  rw [Bool.and_eq_true, decide_eq_true_eq, decide_eq_true_eq] at hin
  simp only [whiteSpaceRanges, List.mem_cons, List.not_mem_nil, or_false] at hmem
  rcases hmem with rfl | rfl | rfl | rfl | rfl | rfl | rfl | rfl | rfl | rfl <;>
    simp only at hin <;> omega

/-! ## Values that name a style -/

namespace RecordStyle

def name : RecordStyle → Text
  | .human => "human".toList
  | .journal => "journal".toList

/-- The value is the form of a text that is the name of the style, in letters of either case, with
white space around it or none. -/
def Names (value : Bytes) (style : RecordStyle) : Prop :=
  ∃ front word back, value = Utf8.encode (front ++ word ++ back) ∧ AllIn isWhiteSpace front ∧
    AllIn isWhiteSpace back ∧ List.Forall₂ SameButCase word style.name

variable {style : RecordStyle} {word : Text} {value : Bytes}

theorem isLower_of_mem_name {c : Char} (h : c ∈ style.name) : c.isLower = true := by
  have hall : style.name.all Char.isLower = true := by cases style <;> rfl
  exact List.all_eq_true.mp hall c h

theorem isUpper_of_mem_name {c : Char} (h : c ∈ style.name) : c.isUpper = false := by
  obtain ⟨hle, _⟩ := isLower_iff.mp (isLower_of_mem_name h)
  rw [← Bool.not_eq_true, isUpper_iff]
  omega

theorem ofName?_eq_some_iff_map :
    ofName? word = some style ↔ word.map Char.toLower = style.name := by
  have hdistinct : human.name ≠ journal.name := by decide
  unfold ofName?
  simp only
  show (if word.map Char.toLower = human.name then some human
    else if word.map Char.toLower = journal.name then some journal else none) = some style ↔ _
  split
  · next h =>
    rw [h]
    cases style with
    | human => simp
    | journal => simp [hdistinct]
  · next h =>
    split
    · next h' =>
      rw [h']
      cases style with
      | human => simp [hdistinct.symm]
      | journal => simp
    · next h' => cases style <;> simp [h, h']

theorem ofName?_eq_some_iff :
    ofName? word = some style ↔ List.Forall₂ SameButCase word style.name := by
  rw [ofName?_eq_some_iff_map, map_toLower_eq_iff fun _ => isUpper_of_mem_name]

/-- No white space is taken away from the word that names a style. -/
theorem bare_of_ofName? (h : ofName? word = some style) : Bare isWhiteSpace word := by
  have hletters : ∀ c ∈ word, isWhiteSpace c = false := by
    intro c hc
    have hmem : c.toLower ∈ style.name := by
      rw [← ofName?_eq_some_iff_map.mp h]
      exact List.mem_map_of_mem hc
    exact isWhiteSpace_of_isAlpha (isAlpha_of_isLower_toLower (isLower_of_mem_name hmem))
  constructor
  · intro c hc
    exact hletters c (List.mem_of_head? hc)
  · intro c hc
    exact hletters c (List.mem_of_getLast? hc)

theorem ofValue?_eq_some_iff : ofValue? value = some style ↔ Names value style := by
  rw [ofValue?, Option.bind_eq_some_iff]
  simp only [Utf8.decode?_eq_some_iff]
  constructor
  · intro h
    obtain ⟨t, rfl, hname⟩ := h
    obtain ⟨front, back, hfront, hback, ht⟩ := exists_ends_of_trimBy isWhiteSpace t
    exact ⟨front, trimWhiteSpace t, back, congrArg Utf8.encode ht, hfront, hback,
      ofName?_eq_some_iff.mp hname⟩
  · intro h
    obtain ⟨front, word, back, rfl, hfront, hback, hword⟩ := h
    have hname := ofName?_eq_some_iff.mpr hword
    refine ⟨_, rfl, ?_⟩
    rw [trimWhiteSpace, trimBy_around_bare hfront hback (bare_of_ofName? hname)]
    exact hname

/-! ## The style that is chosen -/

/-- The style for what is found around the program: for people on a terminal, where no variable of a
service manager is present, whatever its value. -/
def fitting (env : Environment) (stderrTerminal : Bool) : RecordStyle :=
  if stderrTerminal = true ∧ env.get? "INVOCATION_ID" = none ∧ env.get? "JOURNAL_STREAM" = none then
    .human
  else .journal

variable {env : Environment} {stderrTerminal : Bool}

theorem detect_eq_fitting : detect env stderrTerminal = fitting env stderrTerminal := by
  unfold detect fitting Environment.has
  simp [serviceVariables]

theorem choose_of_names (hvalue : env.get? "MALSITES_LOG_FORMAT" = some value)
    (h : Names value style) : choose env stderrTerminal = style := by
  have hget : env.get? formatVariable = some value := hvalue
  rw [choose, hget, Option.bind_some, ofValue?_eq_some_iff.mpr h, Option.getD_some]

theorem choose_of_namesNone
    (h : ∀ value style, env.get? "MALSITES_LOG_FORMAT" = some value → ¬ Names value style) :
    choose env stderrTerminal = fitting env stderrTerminal := by
  have hnone : (env.get? formatVariable).bind ofValue? = none := by
    rw [Option.eq_none_iff_forall_ne_some]
    intro style hstyle
    obtain ⟨value, hget, hvalue⟩ := Option.bind_eq_some_iff.mp hstyle
    exact h value style hget (ofValue?_eq_some_iff.mp hvalue)
  rw [choose, hnone, Option.getD_none, detect_eq_fitting]

end RecordStyle

/-! ## What is logged -/

/-- The text is a transcript of a logger, and behind it the report of a fault, if there is one. -/
def IsLogOf (logger : Logger) (text : Text) : Prop :=
  ∃ logged report, text = Logging.transcript logger logged ++ report ∧
    (report = [] ∨ ∃ fault, report = Output.reportLine fault)

variable {around : Surroundings} {arguments : List Bytes} {options : CommandLine.Options}

theorem isLogOf_stopped (logger : Logger) (fault : Fault) :
    IsLogOf logger (Output.stopped fault).stderr :=
  ⟨[], _, rfl, .inr ⟨fault, rfl⟩⟩

theorem isLogOf_output (plan : Plan) (ending : Except Fault Selection) :
    IsLogOf plan.logger (plan.output ending).stderr := by
  have hopening : ∃ message, plan.openingRecord =
      Logging.transcript plan.logger [(.debug, message)] :=
    ⟨_, (Logging.transcript_singleton ..).symm⟩
  obtain ⟨message, hopening⟩ := hopening
  show IsLogOf plan.logger (plan.openingRecord ++ plan.closing ending)
  rw [hopening]
  cases ending with
  | error fault => exact ⟨_, _, rfl, .inr ⟨fault, rfl⟩⟩
  | ok s =>
    have hclosing : ∃ message, plan.closingRecord s =
        Logging.transcript plan.logger [(.info, message)] :=
      ⟨_, (Logging.transcript_singleton ..).symm⟩
    obtain ⟨message', hclosing⟩ := hclosing
    refine ⟨[(.debug, message), (.info, message')], [], ?_, .inl rfl⟩
    show _ ++ plan.closingRecord s = _
    rw [hclosing, List.append_nil, ← Logging.transcript_append, List.singleton_append]

/-- A run whose command line is accepted logs with one logger, whatever stage it ends at. -/
theorem isLogOf_run (accepted : CommandLine.read arguments = .ok options) (t : FileTree) :
    IsLogOf
      ⟨.upTo options.level, RecordStyle.choose around.environment around.stderrTerminal⟩
      (run around arguments (.fresh t)).2.stderr := by
  obtain ⟨stage, h⟩ := endsAt_run around arguments (.fresh t)
  generalize (run around arguments (.fresh t)).1 = p', (run around arguments (.fresh t)).2 = out at h
  have hplanned : ∀ {options' paths}, Planned around arguments (.fresh t) options' paths →
      ∀ ending, IsLogOf
        ⟨.upTo options.level, RecordStyle.choose around.environment around.stderrTerminal⟩
        ((around.plan options' paths).output ending).stderr := by
    intro options' paths planned ending
    obtain rfl := Except.ok.inj (accepted.symm.trans planned.accepted)
    exact isLogOf_output _ ending
  cases h with
  | commandLine _ stopped =>
    rw [accepted] at stopped
    cases stopped
  | handler | logger | paths => exact isLogOf_stopped ..
  | reading planned | counting planned | interrupt planned | writing planned | done planned =>
    exact hplanned planned _

/-- Everything that is logged in these surroundings is written in the style: by a process that
installs its logger and logs as it likes, and by a run. -/
structure LogsIn (around : Surroundings) (style : RecordStyle) : Prop where
  chosen : RecordStyle.choose around.environment around.stderrTerminal = style
  process : ∀ steps,
    (Logging.fresh.run (RecordStyle.choose around.environment around.stderrTerminal) steps).1.written =
      Logging.transcript ⟨(Logging.firstAsked? steps).getD .off, style⟩ (Logging.loggedSince steps)
  run : ∀ arguments options t, CommandLine.read arguments = .ok options →
    IsLogOf ⟨.upTo options.level, style⟩ (SiteFilter.run around arguments (.fresh t)).2.stderr

theorem logsIn_of_choose {style : RecordStyle}
    (h : RecordStyle.choose around.environment around.stderrTerminal = style) :
    LogsIn around style := by
  subst h
  refine ⟨rfl, ?_, ?_⟩
  · intro steps
    exact Logging.written_run rfl steps
  · intro arguments options t accepted
    exact isLogOf_run accepted t

/-- A value that names a style decides it, whatever else is found around the program. If there is no
value, or one that names none, such as one that is not the form of a text, then the style is the one
that fits. Everything that is logged has that style. -/
theorem record_style_chosen (around : Surroundings) :
    (∀ value style, around.environment.get? "MALSITES_LOG_FORMAT" = some value →
      RecordStyle.Names value style → LogsIn around style) ∧
    ((∀ value style, around.environment.get? "MALSITES_LOG_FORMAT" = some value →
        ¬ RecordStyle.Names value style) →
      LogsIn around (.fitting around.environment around.stderrTerminal)) ∧
    ∀ value style, (∀ t, value ≠ Utf8.encode t) → ¬ RecordStyle.Names value style := by
  refine ⟨?_, ?_, ?_⟩
  · intro value style hvalue hnames
    exact logsIn_of_choose (RecordStyle.choose_of_names hvalue hnames)
  · intro hnone
    exact logsIn_of_choose (RecordStyle.choose_of_namesNone hnone)
  · intro value style hform hnames
    obtain ⟨front, word, back, heq, _⟩ := hnames
    exact hform _ heq

/-- Where nothing is a terminal: a name in mixed case between white space of more than one byte, which
decides though a service manager is present with a variable that is empty; and the same name with a
control character in front that is no white space, which names nothing. -/
theorem record_style_chosen_mixedCase :
    let named := Utf8.encode "\u2003HuMaN\n".toList
    let unnamed := Utf8.encode "\x1CHuMaN\n".toList
    RecordStyle.Names named .human ∧ (∀ style, ¬ RecordStyle.Names unnamed style) ∧
      LogsIn ⟨⟨[("MALSITES_LOG_FORMAT", named), ("INVOCATION_ID", [])]⟩, false, false, false⟩
        .human ∧
      LogsIn ⟨⟨[("MALSITES_LOG_FORMAT", unnamed)]⟩, false, false, false⟩ .journal := by
  intro named unnamed
  have hnames : RecordStyle.Names named .human :=
    RecordStyle.ofValue?_eq_some_iff.mp (by decide +kernel)
  have hnone : ∀ style, ¬ RecordStyle.Names unnamed style := by
    intro style hstyle
    have hvalue : RecordStyle.ofValue? unnamed = none := by decide +kernel
    rw [RecordStyle.ofValue?_eq_some_iff.mpr hstyle] at hvalue
    cases hvalue
  refine ⟨hnames, hnone, ?_, ?_⟩
  · exact (record_style_chosen _).1 named .human rfl hnames
  · refine (record_style_chosen ⟨⟨[("MALSITES_LOG_FORMAT", unnamed)]⟩, false, false, false⟩).2.1 ?_
    intro value style hget
    obtain rfl : unnamed = value := Option.some.inj hget
    exact hnone style

end SiteFilter
