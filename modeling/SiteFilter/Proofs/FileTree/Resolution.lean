import SiteFilter.Proofs.FileTree.Writing
import SiteFilter.Proofs.Text.EncodedForm

/-!
# What a path resolves to

A path is a way: its components are taken one after the other, each in the directory that the ones
before it lead to. `Leads` says so without following anything, and `Resolves` adds what concerns the
path as a whole: its bytes, its length, where its way starts, and the slash at its end.

What is proved:
  1. `leads_cons_iff`, `leads_concat_iff` — a way from its first component, and from its last.
  2. `walk_iff_leads`, `locate_iff_leads` — following a path finds the location that its components
     lead to.
  3. `readSiteList_iff_resolves` — a text is read exactly from a path that resolves to a file with
     the form of that text.
  4. `target_iff_receives` — a file is written exactly where a path can receive one.
-/

namespace SiteFilter

/-- A path that is followed at all. -/
structure Path.Followed (p : Path) : Prop where
  nonempty : p ≠ []
  noZero : 0 ∉ p
  short : p.length ≤ pathLimit

theorem Path.followed_iff {p : Path} : p.Followed ↔ p.fault? = none := by
  unfold Path.fault?
  constructor
  · intro h
    have hlen : ¬ pathLimit < p.length := Nat.not_lt.mpr h.short
    simp [h.noZero, h.nonempty, hlen]
  · intro h
    split at h
    · cases h
    · next hzero =>
      split at h
      · cases h
      · next hempty =>
        split at h
        · cases h
        · next hlen => exact ⟨hempty, hzero, Nat.not_lt.mp hlen⟩

namespace FileTree

/-- Components lead from one location to another, each of them taken in a directory. The directory
above is where the last name is left out, and the root is above itself. -/
inductive Leads (t : FileTree) : Location → List Path.Component → Location → Prop where
  | arrived {l : Location} : Leads t l [] l
  | here {d last : Location} {rest : List Path.Component} :
      t.get? d = some .directory → Leads t d rest last → Leads t d (.here :: rest) last
  | up {d last : Location} {rest : List Path.Component} :
      t.get? d = some .directory → Leads t d.dropLast rest last → Leads t d (.up :: rest) last
  | named {d last : Location} {n : Name} {e : Entry} {rest : List Path.Component} :
      t.get? d = some .directory → n.length ≤ nameLimit → t.get? (d ++ [n]) = some e →
      Leads t (d ++ [n]) rest last → Leads t d (.named n :: rest) last

/-- Where the way of a path starts: at the root, or at the working directory. -/
def origin (t : FileTree) (p : Path) : Location := if p.head? = some slash then [] else t.working

/-- A path resolves to a location. -/
structure Resolves (t : FileTree) (p : Path) (l : Location) : Prop where
  followed : p.Followed
  leads : t.Leads (t.origin p) p.components l
  /-- A slash at the end asks for a directory. -/
  trailing : p.getLast? = some slash → t.get? l = some .directory

/-- A path can receive a file at a location: the components before the last lead to a directory, and
the last is a name under which no directory stands there. -/
structure Receives (t : FileTree) (p : Path) (l : Location) : Prop where
  followed : p.Followed
  noSlash : p.getLast? ≠ some slash
  parts : ∃ through d n, p.components = through ++ [.named n] ∧ l = d ++ [n] ∧
    n.length ≤ nameLimit ∧ t.Leads (t.origin p) through d ∧ t.get? d = some .directory
  free : t.get? l ≠ some .directory

variable {t : FileTree} {d l last : Location} {p : Path}

/-! ## Ways -/

/-- A way that has a first component takes it in a directory. -/
theorem leads_cons_iff {c : Path.Component} {rest : List Path.Component} :
    t.Leads d (c :: rest) last ↔
      t.get? d = some .directory ∧ ∃ next, t.step d c = .ok next ∧ t.Leads next rest last := by
  constructor
  · intro h
    cases h with
    | here hdir hrest => exact ⟨hdir, d, rfl, hrest⟩
    | up hdir hrest => exact ⟨hdir, d.dropLast, rfl, hrest⟩
    | named hdir hlen hget hrest =>
      exact ⟨hdir, _, step_named_iff.mpr ⟨hlen, _, hget, rfl⟩, hrest⟩
  · intro h
    obtain ⟨hdir, next, hstep, hrest⟩ := h
    cases c with
    | here =>
      obtain rfl := Except.ok.inj hstep
      exact .here hdir hrest
    | up =>
      obtain rfl := Except.ok.inj hstep
      exact .up hdir hrest
    | named n =>
      obtain ⟨hlen, e, hget, rfl⟩ := step_named_iff.mp hstep
      exact .named hdir hlen hget hrest

theorem leads_nil_iff : t.Leads d [] last ↔ d = last := by
  constructor
  · intro h
    cases h
    rfl
  · intro h
    subst h
    exact .arrived

/-- The last component of a way is taken in the directory that the others lead to. -/
theorem leads_concat_iff {cs : List Path.Component} {c : Path.Component} :
    t.Leads d (cs ++ [c]) last ↔
      ∃ directory, (t.Leads d cs directory ∧ t.get? directory = some .directory) ∧
        t.step directory c = .ok last := by
  induction cs generalizing d with
  | nil =>
    rw [List.nil_append, leads_cons_iff]
    simp only [leads_nil_iff, exists_eq_right, and_assoc, exists_eq_left']
  | cons x rest ih =>
    rw [List.cons_append, leads_cons_iff]
    constructor
    · intro h
      obtain ⟨hdir, next, hstep, hrest⟩ := h
      obtain ⟨directory, ⟨hleads, hdir'⟩, hlast⟩ := ih.mp hrest
      exact ⟨directory, ⟨leads_cons_iff.mpr ⟨hdir, next, hstep, hleads⟩, hdir'⟩, hlast⟩
    · intro h
      obtain ⟨directory, ⟨hleads, hdir'⟩, hlast⟩ := h
      obtain ⟨hdir, next, hstep, hrest⟩ := leads_cons_iff.mp hleads
      exact ⟨hdir, next, hstep, ih.mpr ⟨directory, ⟨hrest, hdir'⟩, hlast⟩⟩

/-- A way to a directory starts in one. -/
theorem Leads.directory_start {cs : List Path.Component} (h : t.Leads d cs last)
    (hlast : t.get? last = some .directory) : t.get? d = some .directory := by
  cases cs with
  | nil =>
    obtain rfl := leads_nil_iff.mp h
    exact hlast
  | cons c rest => exact (leads_cons_iff.mp h).1

/-! ## Following a path -/

/-- A walk looks whether it has come to a directory, and a way whether it can go on from one. -/
theorem walk_iff_leads {cs : List Path.Component} (h : t.get? d = some .directory) :
    t.walk d cs = .ok last ↔ t.Leads d cs last ∧ t.get? last = some .directory := by
  induction cs generalizing d with
  | nil =>
    rw [leads_nil_iff, walk, Except.ok.injEq]
    constructor
    · intro heq
      exact ⟨heq, heq ▸ h⟩
    · intro hboth
      exact hboth.1
  | cons c rest ih =>
    rw [walk_cons_iff, leads_cons_iff]
    constructor
    · intro hwalk
      obtain ⟨next, ⟨hstep, hdir⟩, hrest⟩ := hwalk
      obtain ⟨hleads, hlast⟩ := (ih hdir).mp hrest
      exact ⟨⟨h, next, hstep, hleads⟩, hlast⟩
    · intro hboth
      obtain ⟨⟨_, next, hstep, hleads⟩, hlast⟩ := hboth
      have hdir := hleads.directory_start hlast
      exact ⟨next, ⟨hstep, hdir⟩, (ih hdir).mpr ⟨hleads, hlast⟩⟩

theorem start_eq_origin (t : FileTree) (p : Path) : t.start p = t.origin p := by
  simp only [start, origin, Path.route, decide_eq_true_eq]

theorem get?_origin (t : FileTree) (p : Path) : t.get? (t.origin p) = some .directory := by
  apply get?_on_way
  unfold origin
  split
  · exact List.nil_prefix
  · exact List.prefix_refl _

theorem approach_iff_leads {directory : Location} :
    t.approach p = .ok directory ↔
      p.Followed ∧ t.Leads (t.origin p) p.route.through directory ∧
        t.get? directory = some .directory := by
  rw [approach_iff, start_eq_origin, walk_iff_leads (get?_origin t p), Path.followed_iff]

theorem components_eq_concat {c : Path.Component} (h : p.components.getLast? = some c) :
    p.components = p.route.through ++ [p.route.last] := by
  obtain ⟨cs, hcs⟩ := List.getLast?_eq_some_iff.mp h
  simp only [Path.route, hcs, List.dropLast_concat, List.getLast?_concat, Option.getD_some]

theorem locate_iff_leads :
    t.locate p = .ok l ↔ p.Followed ∧ t.Leads (t.origin p) p.components l := by
  rw [locate_iff]
  simp only [approach_iff_leads, and_assoc]
  cases hlast : p.components.getLast? with
  | none =>
    -- a path of slashes alone stays where it starts
    have hnil : p.components = [] := List.getLast?_eq_none_iff.mp hlast
    simp only [Path.route, hnil, List.dropLast_nil, List.getLast?_nil, Option.getD_none,
      leads_nil_iff, step, Except.ok.injEq]
    constructor
    · intro h
      obtain ⟨directory, hfollowed, rfl, _, heq⟩ := h
      exact ⟨hfollowed, heq⟩
    · intro h
      obtain ⟨hfollowed, heq⟩ := h
      exact ⟨t.origin p, hfollowed, rfl, get?_origin t p, heq⟩
  | some c =>
    rw [components_eq_concat hlast, leads_concat_iff]
    simp only [and_assoc]
    constructor
    · intro h
      obtain ⟨directory, hfollowed, hrest⟩ := h
      exact ⟨hfollowed, directory, hrest⟩
    · intro h
      obtain ⟨hfollowed, directory, hrest⟩ := h
      exact ⟨directory, hfollowed, hrest⟩

/-! ## Reading -/

theorem trailing_eq_false_iff : p.route.trailing = false ↔ p.getLast? ≠ some slash := by
  simp only [Path.route, decide_eq_false_iff_not]

/-- A path resolves to a file if its components lead there and no slash follows them. -/
theorem resolves_file_iff {contents : Bytes} (hget : t.get? l = some (.file contents)) :
    t.Resolves p l ↔ t.locate p = .ok l ∧ p.route.trailing = false := by
  rw [locate_iff_leads, trailing_eq_false_iff]
  constructor
  · intro h
    refine ⟨⟨h.followed, h.leads⟩, ?_⟩
    intro hslash
    have hdir : t.get? l = some .directory := h.trailing hslash
    rw [hget] at hdir
    cases hdir
  · intro h
    obtain ⟨⟨hfollowed, hleads⟩, hslash⟩ := h
    exact ⟨hfollowed, hleads, fun htrailing => absurd htrailing hslash⟩

theorem read_iff_resolves {contents : Bytes} :
    t.read p = .ok contents ↔
      ∃ l, t.Resolves p l ∧ t.get? l = some (.file contents) := by
  rw [read_iff]
  apply exists_congr
  intro l
  constructor
  · intro h
    obtain ⟨hlocate, hget, htrailing⟩ := h
    exact ⟨(resolves_file_iff hget).mpr ⟨hlocate, htrailing⟩, hget⟩
  · intro h
    obtain ⟨hresolves, hget⟩ := h
    obtain ⟨hlocate, htrailing⟩ := (resolves_file_iff hget).mp hresolves
    exact ⟨hlocate, hget, htrailing⟩

theorem readSiteList_iff_resolves {text : Text} :
    t.readSiteList p = .ok text ↔
      ∃ l, t.Resolves p l ∧ t.get? l = some (.file (Utf8.encode text)) := by
  have hread : t.readSiteList p = .ok text ↔ t.read p = .ok (Utf8.encode text) := by
    rw [readSiteList_iff]
    unfold HoldsText
    rw [read_iff]
    apply exists_congr
    intro l
    simp only [Utf8.decode?_eq_some_iff]
    constructor
    · intro h
      obtain ⟨bytes, hlocate, hget, htrailing, rfl⟩ := h
      exact ⟨hlocate, hget, htrailing⟩
    · intro h
      obtain ⟨hlocate, hget, htrailing⟩ := h
      exact ⟨_, hlocate, hget, htrailing, rfl⟩
  rw [hread, read_iff_resolves]

/-! ## Writing -/

theorem target_iff_receives : t.target p = .ok l ↔ t.Receives p l := by
  rw [target_named_iff]
  constructor
  · intro h
    obtain ⟨d, n, hlast, htrailing, hlen, happroach, hfree, rfl⟩ := h
    obtain ⟨hfollowed, hleads, hdir⟩ := approach_iff_leads.mp happroach
    refine ⟨hfollowed, trailing_eq_false_iff.mp htrailing, ?_, hfree⟩
    refine ⟨p.route.through, d, n, ?_, rfl, hlen, hleads, hdir⟩
    cases hcomponents : p.components.getLast? with
    | none =>
      simp only [Path.route, hcomponents, Option.getD_none] at hlast
      cases hlast
    | some c => rw [← hlast, components_eq_concat hcomponents]
  · intro h
    obtain ⟨through, d, n, hcomponents, rfl, hlen, hleads, hdir⟩ := h.parts
    have hlast : p.route.last = .named n := by
      simp only [Path.route, hcomponents, List.getLast?_concat, Option.getD_some]
    have hthrough : p.route.through = through := by
      simp only [Path.route, hcomponents, List.dropLast_concat]
    have happroach : t.approach p = .ok d := by
      rw [approach_iff_leads, hthrough]
      exact ⟨h.followed, hleads, hdir⟩
    exact ⟨d, n, hlast, trailing_eq_false_iff.mpr h.noSlash, hlen, happroach, h.free, rfl⟩

/-- What stands already where a path can receive a file is what the path resolves to. -/
theorem Receives.resolves (h : t.Receives p l) {e : Entry} (hget : t.get? l = some e) :
    t.Resolves p l := by
  obtain ⟨through, d, n, hcomponents, rfl, hlen, hleads, hdir⟩ := h.parts
  refine ⟨h.followed, ?_, fun hslash => absurd hslash h.noSlash⟩
  rw [hcomponents]
  refine leads_concat_iff.mpr ⟨d, ⟨hleads, hdir⟩, ?_⟩
  exact step_named_iff.mpr ⟨hlen, e, hget, rfl⟩

end FileTree

end SiteFilter
