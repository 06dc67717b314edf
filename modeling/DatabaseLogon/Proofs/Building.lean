import DatabaseLogon.Proofs.RoundTrip
import Mathlib.Data.List.Induction
import Mathlib.Tactic.TFAE

namespace DatabaseLogon.Dsn

/-!
# Names that are built

A builder keeps of the changes of one field only the last, so the changes of different fields may
come in any order. What it makes of them is refused for the first character that no link can hold,
and is a well-formed name otherwise. The well-formed names are also what connection strings are read
as, although a link is judged by its characters when it is built and by its escaped bytes when it is
read.

* `IsBlank`, `IsControlCode`, `Forbidden` — the characters that no link can hold.
* `Field`, `Change.field`, `current` — the fields of a name, and the change that leaves one as it
  is.
* `Change.last` — of the changes of a field the last, or the standard without one.
* `Builder.current_setAll` — every field of a name in the making is what its last change says.
* `Builder.build_of_allowed`, `Builder.build_of_forbidden` — when a name is refused, and why.
* `Built` — what comes of building a name after some changes.
* `built_iff_parsed` — **the names that are built are the names that are read.**
-/

/-! ### Characters -/

/-- An ASCII blank. -/
def IsBlank (c : Char) : Prop :=
  c ∈ [' ', '\t', '\n', '\x0c', '\r']

/-- An ASCII control character. -/
def IsControlCode (c : Char) : Prop :=
  c.toNat < 0x20 ∨ c.toNat = 0x7F

/-- A character that no link can hold. -/
def Forbidden (c : Char) : Prop :=
  c = '@' ∨ IsBlank c ∨ IsControlCode c

instance : DecidablePred Forbidden := fun c =>
  inferInstanceAs (Decidable (c = '@' ∨ c ∈ _ ∨ c.toNat < 0x20 ∨ c.toNat = 0x7F))

/-- Every blank but the space itself is a control character. -/
theorem isControl_iff {c : Char} : isControl c = true ↔ IsBlank c ∨ IsControlCode c := by
  simp only [isControl, IsControlCode, Bool.or_eq_true, decide_eq_true_eq]
  constructor
  · rintro (low | delete)
    · by_cases space : c.toNat = 0x20
      · left
        rw [← Char.ofNat_toNat c, space]
        exact List.mem_cons_self
      · exact .inr (.inl (by omega))
    · exact .inr (.inr delete)
  · rintro (blank | low | delete)
    · have le : ∀ c ∈ [' ', '\t', '\n', '\x0c', '\r'], c.toNat ≤ 0x20 := by simp
      exact .inl (le c blank)
    · exact .inl (Nat.le_of_lt low)
    · exact .inr delete

theorem isForbidden_iff {c : Char} : isForbidden c = true ↔ Forbidden c := by
  rw [isForbidden, Bool.or_eq_true, decide_eq_true_eq, isControl_iff, Forbidden]

theorem isForbidden_eq_false_iff {c : Char} : isForbidden c = false ↔ ¬ Forbidden c := by
  rw [← isForbidden_iff, Bool.not_eq_true]

theorem find?_isForbidden_eq_none_iff {link : List Char} :
    link.find? isForbidden = none ↔ ∀ c ∈ link, ¬ Forbidden c := by
  rw [List.find?_eq_none]
  exact forall₂_congr fun c _ => not_congr isForbidden_iff

section

variable [ZoneTable]

/-- Well-formed names, said without settling them. -/
theorem wellFormed_iff {d : Dsn} :
    d.WellFormed ↔
      (∀ c ∈ d.connect.toList, ¬ Forbidden c) ∧
        (d.externalAuth = true ↔ d.username = "" ∧ d.password = "" ∧ d.connect = "") := by
  have flag : d.settled = d ↔
      (d.externalAuth = true ↔ d.username = "" ∧ d.password = "" ∧ d.connect = "") := by
    have settled : d.settled = d ↔
        (d.username = "" && d.password = "" && d.connect = "") = d.externalAuth :=
      ⟨fun h => congrArg externalAuth h, fun h => by rw [Dsn.settled, h]⟩
    rw [settled, Bool.eq_iff_iff, @Iff.comm (d.externalAuth = true)]
    simp only [Bool.and_eq_true, decide_eq_true_eq, and_assoc]
  constructor
  · intro h
    exact ⟨fun c hc => isForbidden_eq_false_iff.mp (h.link c hc), flag.mp h.settled⟩
  · rintro ⟨link, auth⟩
    exact ⟨fun c hc => isForbidden_eq_false_iff.mpr (link c hc), flag.mpr auth⟩

/-! ### Fields -/

/-- A field of a name that can be changed. -/
inductive Field where
  | username
  | password
  | connect
  | location
  | transactionMode
  | questionMarkPlaceholders
  | prefetchRows
  | prefetchMemory
  | privilegedMode
  deriving DecidableEq, Repr

/-- All fields. -/
def Field.all : List Field :=
  [.username, .password, .connect, .location, .transactionMode, .questionMarkPlaceholders,
    .prefetchRows, .prefetchMemory, .privilegedMode]

/-- The field that a change concerns. -/
def Change.field : Change → Field
  | .username _ => .username
  | .password _ => .password
  | .connect _ => .connect
  | .location _ => .location
  | .transactionMode _ => .transactionMode
  | .questionMarkPlaceholders _ => .questionMarkPlaceholders
  | .prefetchRows _ => .prefetchRows
  | .prefetchMemory _ => .prefetchMemory
  | .privilegedMode _ => .privilegedMode

/-- The change that leaves a field as it is. -/
def current (d : Dsn) : Field → Change
  | .username => .username d.username
  | .password => .password d.password
  | .connect => .connect d.connect
  | .location => .location d.location
  | .transactionMode => .transactionMode d.transactionMode
  | .questionMarkPlaceholders => .questionMarkPlaceholders d.questionMarkPlaceholders
  | .prefetchRows => .prefetchRows d.prefetchRows
  | .prefetchMemory => .prefetchMemory d.prefetchMemory
  | .privilegedMode => .privilegedMode d.privilegedMode

variable {d e : Dsn} {b : Builder} {c : Change} {f : Field} {changes : List Change}

@[simp] theorem current_set (b : Builder) (c : Change) : (b.set c).dsn.current c.field = c := by
  cases c <;> rfl

theorem current_set_of_ne (h : f ≠ c.field) : (b.set c).dsn.current f = b.dsn.current f := by
  cases c <;> cases f <;> first | rfl | exact absurd rfl h

@[simp] theorem current_settled (d : Dsn) (f : Field) : d.settled.current f = d.current f := by
  cases f <;> rfl

/-- There is nothing in a settled name but its fields. -/
theorem settled_eq_of_current (h : ∀ f, d.current f = e.current f) : d.settled = e.settled := by
  obtain ⟨⟨location, mode, numbered, rows, memory, privilege⟩, username, password, connect, _⟩ := d
  obtain ⟨⟨location', mode', numbered', rows', memory', privilege'⟩, username', password', connect',
    _⟩ := e
  obtain rfl : username = username' := Change.username.inj (h .username)
  obtain rfl : password = password' := Change.password.inj (h .password)
  obtain rfl : connect = connect' := Change.connect.inj (h .connect)
  obtain rfl : location = location' := Change.location.inj (h .location)
  obtain rfl : mode = mode' := Change.transactionMode.inj (h .transactionMode)
  obtain rfl : numbered = numbered' :=
    Change.questionMarkPlaceholders.inj (h .questionMarkPlaceholders)
  obtain rfl : rows = rows' := Change.prefetchRows.inj (h .prefetchRows)
  obtain rfl : memory = memory' := Change.prefetchMemory.inj (h .prefetchMemory)
  obtain rfl : privilege = privilege' := Change.privilegedMode.inj (h .privilegedMode)
  rfl

/-! ### The last change of each field -/

/-- Of the changes of a field the last. Without one the field is as in the name that says
    nothing. -/
def Change.last (changes : List Change) (f : Field) : Change :=
  ((changes.filter (·.field = f)).getLast?).getD (Dsn.empty.current f)

theorem Change.last_concat (changes : List Change) (c : Change) (f : Field) :
    last (changes ++ [c]) f = if c.field = f then c else last changes f := by
  unfold last
  rw [List.filter_append]
  by_cases h : c.field = f
  · have own : [c].filter (·.field = f) = [c] := by simp [h]
    rw [if_pos h, own, List.getLast?_concat, Option.getD_some]
  · have other : [c].filter (·.field = f) = [] := by simp [h]
    rw [if_neg h, other, List.append_nil]

/-- **Every field of a name in the making is what its last change says.** -/
theorem Builder.current_setAll (changes : List Change) (f : Field) :
    (empty.setAll changes).dsn.current f = Change.last changes f := by
  induction changes using List.reverseRecOn with
  | nil => rfl
  | append_singleton changes c ih =>
    rw [Change.last_concat, setAll, List.foldl_append]
    by_cases h : c.field = f
    · subst h
      rw [if_pos rfl]
      exact current_set _ c
    · rw [if_neg h, ← ih]
      exact current_set_of_ne (Ne.symm h)

/-- If every field is changed once, its change is the last one, whatever the order. -/
theorem Change.last_of_perm (h : changes.Perm (Field.all.map d.current)) (f : Field) :
    last changes f = d.current f := by
  have own : (Field.all.map d.current).filter (·.field = f) = [d.current f] := by
    cases f <;> rfl
  have only : changes.filter (·.field = f) = [d.current f] := by
    rw [← List.perm_singleton, ← own]
    exact h.filter _
  rw [last, only]
  rfl

/-! ### The finished name -/

theorem Builder.build_of_allowed (h : ∀ c ∈ b.dsn.connect.toList, ¬ Forbidden c) :
    b.build = .ok b.dsn.settled := by
  rw [build, finish, find?_isForbidden_eq_none_iff.mpr h]
  rfl

/-- The first character that no link can hold is reported. -/
theorem Builder.build_of_forbidden {before after : List Char} {c : Char}
    (link : b.dsn.connect.toList = before ++ c :: after) (first : ∀ x ∈ before, ¬ Forbidden x)
    (forbidden : Forbidden c) : b.build = .error (Fault.character c).toError := by
  have found : b.dsn.connect.toList.find? isForbidden = some c := by
    rw [List.find?_eq_some_iff_append]
    refine ⟨isForbidden_iff.mpr forbidden, before, after, link, ?_⟩
    intro x hx
    rw [isForbidden_eq_false_iff.mpr (first x hx)]
    rfl
  rw [build, finish, found]
  rfl

/-- Nothing else can stand in the way of a name. -/
theorem Builder.exists_build_iff :
    (∃ d, b.build = .ok d) ↔ ∀ c ∈ b.dsn.connect.toList, ¬ Forbidden c := by
  constructor
  · rintro ⟨d, built⟩
    cases found : b.dsn.connect.toList.find? isForbidden with
    | none => exact find?_isForbidden_eq_none_iff.mp found
    | some c =>
      rw [build, finish, found] at built
      cases built
  · intro h
    exact ⟨b.dsn.settled, build_of_allowed h⟩

/-- What is built from the fields of a well-formed name, each changed once, is this name again. -/
theorem Builder.build_of_perm (h : d.WellFormed) (fields : changes.Perm (Field.all.map d.current)) :
    (empty.setAll changes).build = .ok d := by
  have same : ∀ f, (empty.setAll changes).dsn.current f = d.current f := by
    intro f
    rw [current_setAll, Change.last_of_perm fields]
  have link : (empty.setAll changes).dsn.connect = d.connect := Change.connect.inj (same .connect)
  have allowed : ∀ c ∈ (empty.setAll changes).dsn.connect.toList, ¬ Forbidden c := by
    rw [link]
    exact (wellFormed_iff.mp h).1
  rw [build_of_allowed allowed, settled_eq_of_current same, h.settled]

/-- Well-formed names are the names that are read, and the names that are built. -/
theorem wellFormed_tfae (d : Dsn) :
    List.TFAE
      [(∀ c ∈ d.connect.toList, ¬ Forbidden c) ∧
          (d.externalAuth = true ↔ d.username = "" ∧ d.password = "" ∧ d.connect = ""),
        ∃ text, parse text = .ok d,
        ∃ changes, (Builder.empty.setAll changes).build = .ok d] := by
  rw [← wellFormed_iff]
  tfae_have 1 → 2 := by
    intro h
    refine ⟨d.render, ?_⟩
    rw [parse, read_render h]
    rfl
  tfae_have 2 → 1 := by
    rintro ⟨text, accepted⟩
    exact wellFormed_of_parse accepted
  tfae_have 1 → 3 := fun h => ⟨_, Builder.build_of_perm h (.refl _)⟩
  tfae_have 3 → 1 := by
    rintro ⟨changes, built⟩
    exact wellFormed_of_build built
  tfae_finish

/-- What comes of building a name after some changes. -/
structure Built (changes : List Change) (link : String) (result : Except Error Dsn) : Prop where
  /-- The link is the last one that was set. -/
  last : Change.last changes .connect = .connect link
  accepted : (∃ d, result = .ok d) ↔ ∀ c ∈ link.toList, ¬ Forbidden c
  /-- The first character that no link can hold is reported. -/
  refused : ∀ before c after, link.toList = before ++ c :: after → (∀ x ∈ before, ¬ Forbidden x) →
    Forbidden c →
    result = .error (.invalidConnectionString
      ("invalid character " ++ Text.quotedChar c ++ " in host"))
  /-- Every field is what was said of it last. -/
  fields : ∀ d, result = .ok d → ∀ f, d.current f = Change.last changes f

theorem Builder.built_setAll (changes : List Change) :
    Built changes (empty.setAll changes).dsn.connect (empty.setAll changes).build where
  last := (current_setAll changes .connect).symm
  accepted := exists_build_iff
  refused _ _ _ link first forbidden := build_of_forbidden link first forbidden
  fields d built f := by
    have allowed := exists_build_iff.mp ⟨d, built⟩
    rw [build_of_allowed allowed] at built
    obtain rfl := Except.ok.inj built
    rw [current_settled, current_setAll]

/-- **The names that are built are the names that are read.** They are the well-formed ones. A name
    is built unless the last link that it was given holds a character that no link can hold; its
    fields are then what was said last of each. A name that was read is built again from its fields,
    whatever their order. -/
theorem built_iff_parsed :
    (∀ d : Dsn, List.TFAE
      [(∀ c ∈ d.connect.toList, ¬ Forbidden c) ∧
          (d.externalAuth = true ↔ d.username = "" ∧ d.password = "" ∧ d.connect = ""),
        ∃ text, parse text = .ok d,
        ∃ changes, (Builder.empty.setAll changes).build = .ok d]) ∧
    (∀ changes : List Change, ∃ link, Built changes link (Builder.empty.setAll changes).build) ∧
    ∀ text d changes, parse text = .ok d → changes.Perm (Field.all.map d.current) →
      (Builder.empty.setAll changes).build = .ok d := by
  refine ⟨wellFormed_tfae, fun changes => ⟨_, Builder.built_setAll changes⟩, ?_⟩
  intro text d changes accepted fields
  exact Builder.build_of_perm (wellFormed_of_parse accepted) fields

end

/-- A name that is built from its fields in another order than theirs, and a link with two
    characters that no link can hold. -/
theorem built_iff_parsed_shuffled :
    let d : Dsn :=
      { Dsn.empty with
        username := "scott"
        connect := "db"
        prefetchRows := 7
        externalAuth := false }
    let changes : List Change :=
      [.prefetchRows 7, .connect "db", .privilegedMode .default, .username "scott",
        .location .localTime, .password "", .prefetchMemory 0, .questionMarkPlaceholders false,
        .transactionMode .readWrite]
    parse "oracle://scott@db?prefetch_rows=7" = .ok d ∧
      changes.Perm (Field.all.map d.current) ∧
      (Builder.empty.setAll changes).build = .ok d ∧
      (Builder.empty.setAll [.connect "a b@", .username "scott"]).build =
        .error (.invalidConnectionString
          ("invalid character " ++ Text.quotedChar ' ' ++ " in host")) := by
  intro d changes
  have accepted : parse "oracle://scott@db?prefetch_rows=7" = .ok d := by decide +kernel
  have fields : changes.Perm (Field.all.map d.current) := by decide
  refine ⟨accepted, fields, built_iff_parsed.2.2 _ d changes accepted fields, ?_⟩
  obtain ⟨link, built⟩ := built_iff_parsed.2.1 [.connect "a b@", .username "scott"]
  obtain rfl : "a b@" = link := Change.connect.inj built.last
  have allowed : ∀ x ∈ ['a'], ¬ Forbidden x := List.forall_mem_singleton.mpr (by decide)
  exact built.refused ['a'] ' ' ['b', '@'] (by decide) allowed (by decide)

end DatabaseLogon.Dsn
