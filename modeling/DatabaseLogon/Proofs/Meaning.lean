import DatabaseLogon.Proofs.Grammar
import Mathlib.Data.List.Nodup

namespace DatabaseLogon

/-!
# The meaning of a query

A query is a list of pairs. Of each key the first value counts, a key that is no parameter does not
count, and the first value that counts and cannot be used is the one that is reported. This is said
here without the walk over the pairs: by the first value of each key alone.

* `Setting`, `Parameter.meaning?` — one setting, and what a value means for a parameter.
* `Settings.Accepts` — every first value means something.
* `Settings.Means` — every setting is the meaning of its first value, or standard without one.
* `Settings.Blames` — the first value that means nothing and whose key occurs first.
* `Settings.ofPairs_eq_ok_iff`, `Settings.ofPairs_eq_error_iff` — so pairs are read.
* `Dsn.parse_query` — the same for connection strings, and what follows for pairs that are added or
  reordered.
-/

/-- The value of one setting. -/
inductive Setting [ZoneTable] where
  | location (l : Location)
  | isolation (m : TransactionMode)
  | placeholders (numbered : Bool)
  | prefetchRows (rows : UInt32)
  | prefetchMemory (bytes : UInt32)
  | privilege (m : PrivilegedMode)
  deriving DecidableEq

/-- The parameter that a setting belongs to. -/
def Setting.parameter [ZoneTable] : Setting → Parameter
  | .location _ => .location
  | .isolation _ => .isolation
  | .placeholders _ => .placeholders
  | .prefetchRows _ => .prefetchRows
  | .prefetchMemory _ => .prefetchMemory
  | .privilege _ => .privilege

namespace Parameter

variable {p : Parameter} {key value : String}

theorem ofName?_eq_some_iff : ofName? key = some p ↔ key = p.name := by
  constructor
  · intro h
    have named := List.find?_some (p := fun q : Parameter => decide (q.name = key)) h
    exact (of_decide_eq_true named).symm
  · rintro rfl
    exact ofName?_name p

theorem ofName?_eq_none_iff : ofName? key = none ↔ ∀ p : Parameter, key ≠ p.name := by
  constructor
  · rintro h p rfl
    rw [ofName?_name] at h
    cases h
  · intro h
    cases found : ofName? key with
    | none => rfl
    | some p => exact absurd (ofName?_eq_some_iff.mp found) (h p)

/-- Two parameters have two names. -/
theorem name_injective : Function.Injective name := by
  intro p q h
  have same := ofName?_name p
  rw [h, ofName?_name] at same
  exact (Option.some.inj same).symm

variable [ZoneTable]

/-- What a value means for a parameter, if it means anything. -/
def meaning? : Parameter → String → Option Setting
  | .location, value => (Location.ofName? value).map .location
  | .isolation, value => (TransactionMode.ofKeyword? value).map .isolation
  | .placeholders, value => (readSwitch? value).map .placeholders
  | .prefetchRows, value => (Decimal.bounded? value.toList).map .prefetchRows
  | .prefetchMemory, value => (Decimal.bounded? value.toList).map .prefetchMemory
  | .privilege, value => (PrivilegedMode.ofKeyword? value).map .privilege

/-- A value means a setting of the parameter that it is read for. -/
theorem parameter_of_meaning? {x : Setting} (h : p.meaning? value = some x) : x.parameter = p := by
  cases p <;> obtain ⟨_, -, rfl⟩ := Option.map_eq_some_iff.mp h <;> rfl

end Parameter

namespace Settings

/-! ### The first pair of each key -/

/-- Behind other pairs, those count whose key did not occur before. -/
theorem firstOfEach_append (ps qs : List (String × String)) :
    firstOfEach (ps ++ qs) = firstOfEach ps ++ (firstOfEach qs).filter (·.1 ∉ ps.map (·.1)) := by
  induction ps with
  | nil => exact (List.filter_eq_self.mpr fun _ _ => decide_eq_true List.not_mem_nil).symm
  | cons pair ps ih =>
    rw [List.cons_append, firstOfEach, firstOfEach, ih, List.filter_append, List.filter_filter,
      List.cons_append]
    congr 2
    apply List.filter_congr
    intro q _
    simp only [ne_eq, List.map_cons, List.mem_cons, not_or, Bool.decide_and]

/-- The first pair of each key holds the value that is found under the key. -/
theorem mem_firstOfEach_iff {ps : List (String × String)} {key value : String} :
    (key, value) ∈ firstOfEach ps ↔ ps.lookup key = some value := by
  induction ps with
  | nil => simp [firstOfEach]
  | cons pair ps ih =>
    obtain ⟨k, v⟩ := pair
    rw [firstOfEach, List.mem_cons, List.mem_filter, ih, List.lookup_cons]
    by_cases same : key = k
    · simp [same, eq_comm]
    · simp [same, beq_eq_false_iff_ne.mpr same]

theorem nodup_firstOfEach (ps : List (String × String)) :
    ((firstOfEach ps).map (·.1)).Nodup := by
  induction ps with
  | nil => exact List.nodup_nil
  | cons pair ps ih =>
    rw [firstOfEach, List.map_cons, List.nodup_cons]
    constructor
    · rw [List.mem_map]
      rintro ⟨q, hq, same⟩
      exact of_decide_eq_true (List.mem_filter.mp hq).2 same
    · exact (List.filter_sublist.map _).nodup ih

/-- No key loses its first value. -/
theorem lookup_firstOfEach (ps : List (String × String)) (key : String) :
    (firstOfEach ps).lookup key = ps.lookup key := by
  -- a key occurs once among the first pairs, so what is found there is what is there
  have unique : firstOfEach (firstOfEach ps) = firstOfEach ps :=
    firstOfEach_eq_self (nodup_firstOfEach ps)
  refine Option.ext fun value => ?_
  rw [← mem_firstOfEach_iff, unique, mem_firstOfEach_iff]

/-- A pair whose key did not occur before counts, and so do the pairs that counted before it. -/
theorem exists_firstOfEach_append_cons {ps : List (String × String)} (pair : String × String)
    (qs : List (String × String)) (absent : pair.1 ∉ ps.map (·.1)) :
    ∃ rest, firstOfEach (ps ++ pair :: qs) = firstOfEach ps ++ pair :: rest := by
  have counts : decide (pair.1 ∉ ps.map (·.1)) = true := decide_eq_true absent
  rw [firstOfEach_append, firstOfEach, List.filter_cons, if_pos counts]
  exact ⟨_, rfl⟩

/-- One more pair counts if its key did not occur before. -/
theorem firstOfEach_concat (ps : List (String × String)) (pair : String × String) :
    firstOfEach (ps ++ [pair])
      = if pair.1 ∈ ps.map (·.1) then firstOfEach ps else firstOfEach ps ++ [pair] := by
  have counts : decide (pair.1 ∉ ps.map (·.1)) = !decide (pair.1 ∈ ps.map (·.1)) := decide_not
  rw [firstOfEach_append, firstOfEach, firstOfEach, List.filter_nil, List.filter_cons, counts]
  by_cases known : pair.1 ∈ ps.map (·.1) <;> simp [known]

/-- The value that is found under a key stands in the first pair of the key. -/
theorem lookup_eq_some_iff_first {ps : List (String × String)} {key value : String} :
    ps.lookup key = some value ↔
      ∃ before after, ps = before ++ (key, value) :: after ∧ key ∉ before.map (·.1) := by
  have absent_iff (before : List (String × String)) :
      (∀ q ∈ before, (key != q.1) = true) ↔ key ∉ before.map (·.1) := by
    simp only [bne_iff_ne, List.mem_map, not_exists, not_and]
    exact forall₂_congr fun _ _ => ne_comm
  simp only [List.lookup_eq_some_iff, absent_iff]

variable [ZoneTable]

/-! ### One setting -/

/-- The setting of a parameter. -/
def get (s : Settings) : Parameter → Setting
  | .location => .location s.location
  | .isolation => .isolation s.transactionMode
  | .placeholders => .placeholders s.questionMarkPlaceholders
  | .prefetchRows => .prefetchRows s.prefetchRows
  | .prefetchMemory => .prefetchMemory s.prefetchMemory
  | .privilege => .privilege s.privilegedMode

/-- The settings with one of them changed. -/
def put (s : Settings) : Setting → Settings
  | .location l => { s with location := l }
  | .isolation m => { s with transactionMode := m }
  | .placeholders numbered => { s with questionMarkPlaceholders := numbered }
  | .prefetchRows rows => { s with prefetchRows := rows }
  | .prefetchMemory bytes => { s with prefetchMemory := bytes }
  | .privilege m => { s with privilegedMode := m }

variable {s t : Settings} {p q : Parameter} {x : Setting} {value : String}

@[simp] theorem get_put (s : Settings) (x : Setting) : (s.put x).get x.parameter = x := by
  cases x <;> rfl

theorem get_put_of_ne (h : p ≠ x.parameter) : (s.put x).get p = s.get p := by
  cases x <;> cases p <;> first | rfl | exact absurd rfl h

/-- There is nothing in settings but the setting of each parameter. -/
theorem ext_get (h : ∀ p, s.get p = t.get p) : s = t := by
  obtain ⟨location, mode, numbered, rows, memory, privilege⟩ := s
  obtain ⟨location', mode', numbered', rows', memory', privilege'⟩ := t
  obtain rfl : location = location' := Setting.location.inj (h .location)
  obtain rfl : mode = mode' := Setting.isolation.inj (h .isolation)
  obtain rfl : numbered = numbered' := Setting.placeholders.inj (h .placeholders)
  obtain rfl : rows = rows' := Setting.prefetchRows.inj (h .prefetchRows)
  obtain rfl : memory = memory' := Setting.prefetchMemory.inj (h .prefetchMemory)
  obtain rfl : privilege = privilege' := Setting.privilege.inj (h .privilege)
  rfl

/-- To set a parameter is to put there what its value means. -/
theorem set?_eq_map (s : Settings) (p : Parameter) (value : String) :
    s.set? p value = (p.meaning? value).map s.put := by
  cases p <;> rw [set?, Parameter.meaning?, Option.map_map] <;> rfl

/-! ### One pair -/

/-- What is wrong with a pair. -/
def fault? (pair : String × String) : Option Dsn.Fault :=
  (Parameter.ofName? pair.1).bind fun p =>
    if p.meaning? pair.2 = none then some (.parameter p pair.2) else none

theorem fault?_eq_some_iff {pair : String × String} {f : Dsn.Fault} :
    fault? pair = some f ↔
      ∃ p : Parameter, pair.1 = p.name ∧ p.meaning? pair.2 = none ∧ .parameter p pair.2 = f := by
  simp only [fault?, Option.bind_eq_some_iff, Parameter.ofName?_eq_some_iff,
    Option.ite_none_right_eq_some, Option.some.injEq]

theorem fault?_eq_none_iff {pair : String × String} :
    fault? pair = none ↔ ∀ p : Parameter, pair.1 = p.name → p.meaning? pair.2 ≠ none := by
  simp only [fault?, Option.bind_eq_none_iff, Parameter.ofName?_eq_some_iff, ite_eq_right_iff,
    reduceCtorEq, imp_false, ne_eq]

/-- A pair is refused for its own fault, whatever the settings are. -/
theorem setPair_eq_error_iff {pair : String × String} {f : Dsn.Fault} :
    s.setPair pair = .error f ↔ fault? pair = some f := by
  unfold setPair fault?
  cases Parameter.ofName? pair.1 with
  | none => simp
  | some p =>
    dsimp only
    rw [set?_eq_map]
    cases h : p.meaning? pair.2 <;> simp [h]

/-- A pair that can be used changes the setting of its key, if it is a parameter, and no other. -/
theorem get_of_setPair {pair : String × String} (h : s.setPair pair = .ok t) (p : Parameter) :
    (pair.1 = p.name → p.meaning? pair.2 = some (t.get p)) ∧
      (pair.1 ≠ p.name → t.get p = s.get p) := by
  unfold setPair at h
  cases found : Parameter.ofName? pair.1 with
  | none =>
    rw [found] at h
    cases h
    exact ⟨fun key => absurd key (Parameter.ofName?_eq_none_iff.mp found p), fun _ => rfl⟩
  | some q =>
    have key := Parameter.ofName?_eq_some_iff.mp found
    rw [found] at h
    dsimp only at h
    rw [set?_eq_map] at h
    cases meant : q.meaning? pair.2 with
    | none =>
      rw [meant] at h
      cases h
    | some x =>
      rw [meant] at h
      obtain rfl : s.put x = t := Except.ok.inj h
      obtain rfl := Parameter.parameter_of_meaning? meant
      constructor
      · intro own
        obtain rfl : x.parameter = p := Parameter.name_injective (key.symm.trans own)
        rw [meant, get_put]
      · intro other
        refine get_put_of_ne ?_
        rintro rfl
        exact other key

/-! ### Pairs of different keys -/

/-- The first pair with a fault ends the reading. -/
theorem setPairs_eq_error_iff {ps : List (String × String)} {f : Dsn.Fault} :
    s.setPairs ps = .error f ↔ ps.findSome? fault? = some f := by
  induction ps generalizing s with
  | nil => simp [setPairs]
  | cons pair ps ih =>
    rw [setPairs, List.findSome?_cons]
    cases h : s.setPair pair with
    | error g =>
      rw [setPair_eq_error_iff.mp h]
      simp
    | ok changed =>
      have sound : fault? pair = none := by
        cases wrong : fault? pair with
        | none => rfl
        | some g =>
          rw [setPair_eq_error_iff.mpr wrong] at h
          cases h
      rw [sound]
      exact ih

/-- Every setting is the meaning of the value of its key, or what it was. -/
theorem get_of_setPairs {ps : List (String × String)} (distinct : (ps.map (·.1)).Nodup)
    (h : s.setPairs ps = .ok t) (p : Parameter) :
    some (t.get p) = (ps.lookup p.name).elim (some (s.get p)) p.meaning? := by
  induction ps generalizing s with
  | nil =>
    cases h
    rfl
  | cons pair ps ih =>
    rw [List.map_cons, List.nodup_cons] at distinct
    rw [setPairs] at h
    cases first : s.setPair pair with
    | error f =>
      rw [first] at h
      cases h
    | ok changed =>
      rw [first] at h
      have later := ih distinct.2 h
      obtain ⟨own, other⟩ := get_of_setPair first p
      by_cases key : pair.1 = p.name
      -- the key does not occur again, so the setting stays what the first pair made it
      · have absent : ps.lookup p.name = none := by
          rw [List.lookup_eq_none_iff]
          intro q hq
          rw [← key, bne_iff_ne]
          rintro same
          exact distinct.1 (same ▸ List.mem_map_of_mem hq)
        rw [absent] at later
        rw [List.lookup_cons, beq_iff_eq.mpr key.symm, later]
        exact (own key).symm
      · rw [List.lookup_cons, beq_eq_false_iff_ne.mpr (Ne.symm key), later, other key]

/-! ### Queries -/

/-- Every first value of a parameter means something. -/
def Accepts (ps : List (String × String)) : Prop :=
  ∀ (p : Parameter) (value : String), ps.lookup p.name = some value → p.meaning? value ≠ none

/-- Every setting is what the first value of its key means. Without a value it is standard. -/
def Means (ps : List (String × String)) (s : Settings) : Prop :=
  ∀ p, some (s.get p) = (ps.lookup p.name).elim (some (standard.get p)) p.meaning?

/-- The first value of this parameter means nothing, and of the parameters that occur before it
    every first value means something. -/
def Blames (ps : List (String × String)) (p : Parameter) (value : String) : Prop :=
  ∃ before after, ps = before ++ (p.name, value) :: after ∧ p.name ∉ before.map (·.1) ∧
    p.meaning? value = none ∧ Accepts before

variable {ps qs : List (String × String)}

theorem accepts_iff : Accepts ps ↔ ∀ pair ∈ firstOfEach ps, fault? pair = none := by
  constructor
  · rintro h ⟨key, value⟩ mem
    rw [fault?_eq_none_iff]
    rintro p rfl
    exact h p value (mem_firstOfEach_iff.mp mem)
  · intro h p value found
    exact fault?_eq_none_iff.mp (h _ (mem_firstOfEach_iff.mpr found)) p rfl

/-- Settings are determined by what they are the meaning of. -/
theorem Means.unique (h : Means ps s) (h' : Means ps t) : s = t :=
  ext_get fun p => Option.some.inj ((h p).trans (h' p).symm)

/-- Only the first value of each key counts. -/
theorem Means.of_lookup_eq (h : Means ps s)
    (same : ∀ p : Parameter, qs.lookup p.name = ps.lookup p.name) : Means qs s := by
  intro p
  rw [same p]
  exact h p

/-- Where every setting is a meaning, every first value has one. -/
theorem Means.accepts (h : Means ps s) : Accepts ps := by
  intro p value found nothing
  have meant := h p
  rw [found] at meant
  exact absurd (meant.trans nothing) (Option.some_ne_none _)

theorem means_of_ofPairs (h : ofPairs ps = .ok s) : Means ps s := by
  intro p
  rw [get_of_setPairs (nodup_firstOfEach ps) h p, lookup_firstOfEach]

/-- **The fault that is reported** is that of the first key whose first value means nothing. -/
theorem ofPairs_eq_error_iff {f : Dsn.Fault} :
    ofPairs ps = .error f ↔ ∃ p value, Blames ps p value ∧ .parameter p value = f := by
  rw [ofPairs, setPairs_eq_error_iff, List.findSome?_eq_some_iff]
  constructor
  · rintro ⟨sound, ⟨key, value⟩, others, split, wrong, fine⟩
    obtain ⟨p, rfl, nothing, rfl⟩ := fault?_eq_some_iff.mp wrong
    have mem : (p.name, value) ∈ firstOfEach ps := by
      rw [split]
      exact List.mem_append_right _ List.mem_cons_self
    obtain ⟨before, after, rfl, absent⟩ :=
      lookup_eq_some_iff_first.mp (mem_firstOfEach_iff.mp mem)
    obtain ⟨rest, counted⟩ :=
      exists_firstOfEach_append_cons (p.name, value) after absent
    -- what counted before the pair is the same in both cuts, since the pair counts only once
    have once : (p.name, value) ∉ firstOfEach before ++ rest := by
      have distinct : (firstOfEach (before ++ (p.name, value) :: after)).Nodup :=
        List.Nodup.of_map _ (nodup_firstOfEach _)
      rw [counted, List.nodup_middle, List.nodup_cons] at distinct
      exact distinct.1
    rw [List.mem_append, not_or] at once
    obtain ⟨rfl, -⟩ :=
      (List.append_cons_inj_of_notMem once.1 once.2).mp (counted.symm.trans split)
    exact ⟨p, value, ⟨before, after, rfl, absent, nothing, accepts_iff.mpr fine⟩, rfl⟩
  · rintro ⟨p, value, ⟨before, after, rfl, absent, nothing, accepts⟩, rfl⟩
    obtain ⟨rest, counted⟩ :=
      exists_firstOfEach_append_cons (p.name, value) after absent
    exact ⟨firstOfEach before, (p.name, value), rest, counted,
      fault?_eq_some_iff.mpr ⟨p, rfl, nothing, rfl⟩, accepts_iff.mp accepts⟩

/-- **Pairs can be read exactly if every first value means something.** -/
theorem exists_ofPairs_eq_ok_iff : (∃ s, ofPairs ps = .ok s) ↔ Accepts ps := by
  constructor
  · rintro ⟨s, h⟩
    exact (means_of_ofPairs h).accepts
  · intro accepts
    cases h : ofPairs ps with
    | ok s => exact ⟨s, rfl⟩
    | error f =>
      obtain ⟨p, value, ⟨before, after, rfl, absent, nothing, -⟩, -⟩ := ofPairs_eq_error_iff.mp h
      exact absurd nothing
        (accepts p value (lookup_eq_some_iff_first.mpr ⟨before, after, rfl, absent⟩))

/-- **What pairs are read as is what they mean.** -/
theorem ofPairs_eq_ok_iff : ofPairs ps = .ok s ↔ Means ps s := by
  constructor
  · exact means_of_ofPairs
  · intro means
    obtain ⟨t, h⟩ := exists_ofPairs_eq_ok_iff.mpr means.accepts
    rw [h, (means_of_ofPairs h).unique means]

/-- A pair that every reading skips may stand at the end. -/
theorem setPairs_append_skipped {pair : String × String} (skipped : ∀ s, setPair s pair = .ok s)
    (s : Settings) (ps : List (String × String)) : s.setPairs (ps ++ [pair]) = s.setPairs ps := by
  induction ps generalizing s with
  | nil =>
    show s.setPairs [pair] = .ok s
    rw [setPairs, skipped s]
    rfl
  | cons q ps ih =>
    rw [List.cons_append, setPairs, setPairs]
    cases s.setPair q with
    | ok changed => exact ih changed
    | error f => rfl

/-- **A pair that does not count may be added**: one of a key that occurred before, or of a key that
    is no parameter. -/
theorem ofPairs_append_idle {key value : String}
    (idle : key ∈ ps.map (·.1) ∨ ∀ p : Parameter, key ≠ p.name) :
    ofPairs (ps ++ [(key, value)]) = ofPairs ps := by
  rw [ofPairs, ofPairs, firstOfEach_concat]
  split
  next => rfl
  next fresh =>
    apply setPairs_append_skipped
    intro s
    rw [setPair, Parameter.ofName?_eq_none_iff.mpr (idle.resolve_left fresh)]

end Settings

namespace Dsn

variable {text username password connect : String} {query : List Char}

/-- What was introduced is accepted with the settings that its query means. -/
theorem parse_eq_ok_iff_means [ZoneTable]
    (introduced : Introduces text.toList username password connect query) {d : Dsn} :
    parse text = .ok d ↔
      Settings.Means (Form.pairs (Utf8.encode query)) d.toSettings ∧
        d = assembled username password connect d.toSettings := by
  rw [parse_eq_ok_iff, read_of_introduces introduced, ← Settings.ofPairs_eq_ok_iff]
  constructor
  · intro h
    cases outcome : Settings.ofPairs (Form.pairs (Utf8.encode query)) with
    | ok settings =>
      rw [outcome] at h
      cases h
      exact ⟨rfl, rfl⟩
    | error f =>
      rw [outcome] at h
      cases h
  · rintro ⟨outcome, same⟩
    rw [outcome, same]
    rfl

/-- What was introduced is refused for the fault of its query, and for nothing else. -/
theorem parse_eq_error_iff_blames [ZoneTable]
    (introduced : Introduces text.toList username password connect query) {e : Error} :
    parse text = .error e ↔
      ∃ p value, Settings.Blames (Form.pairs (Utf8.encode query)) p value ∧
        .invalidParameter p.name value = e := by
  have reported : parse text = .error e ↔
      ∃ f, Settings.ofPairs (Form.pairs (Utf8.encode query)) = .error f ∧ f.toError = e := by
    rw [parse, read_of_introduces introduced]
    cases Settings.ofPairs (Form.pairs (Utf8.encode query)) <;> simp [Except.map, Except.mapError]
  simp only [reported, Settings.ofPairs_eq_error_iff]
  constructor
  · rintro ⟨f, ⟨p, value, blames, rfl⟩, rfl⟩
    exact ⟨p, value, blames, rfl⟩
  · rintro ⟨p, value, blames, rfl⟩
    exact ⟨.parameter p value, ⟨p, value, blames, rfl⟩, rfl⟩

/-- **The query of a connection string means the first value of each of its keys.** The string is
    accepted exactly if all of these values that belong to parameters mean something, and then every
    setting is as they say. Otherwise the parameter is named whose key occurs first among those at
    fault. So a pair that is added changes nothing if its key occurred before or is no parameter,
    and what was accepted stays accepted however its pairs are rearranged, as long as the first
    value of each parameter stays the same. -/
theorem parse_query [ZoneTable]
    (introduced : Introduces text.toList username password connect query) :
    let pairs := Form.pairs (Utf8.encode query)
    ((∃ d, parse text = .ok d) ↔ Settings.Accepts pairs) ∧
    (∀ d, parse text = .ok d ↔
      Settings.Means pairs d.toSettings ∧ d = assembled username password connect d.toSettings) ∧
    (∀ e, parse text = .error e ↔
      ∃ p value, Settings.Blames pairs p value ∧ .invalidParameter p.name value = e) ∧
    ∀ (text' : String) (query' : List Char),
      Introduces text'.toList username password connect query' →
      let pairs' := Form.pairs (Utf8.encode query')
      (∀ key value, pairs' = pairs ++ [(key, value)] →
        (key ∈ pairs.map (·.1) ∨ ∀ p : Parameter, key ≠ p.name) → parse text' = parse text) ∧
      ((∀ p : Parameter, pairs'.lookup p.name = pairs.lookup p.name) →
        ∀ d, parse text = .ok d → parse text' = .ok d) := by
  intro pairs
  refine ⟨?accepted, fun d => parse_eq_ok_iff_means introduced,
    fun e => parse_eq_error_iff_blames introduced, ?others⟩
  case accepted =>
    rw [← Settings.exists_ofPairs_eq_ok_iff]
    constructor
    · rintro ⟨d, h⟩
      have means := ((parse_eq_ok_iff_means introduced).mp h).1
      exact ⟨d.toSettings, Settings.ofPairs_eq_ok_iff.mpr means⟩
    · rintro ⟨s, h⟩
      exact ⟨assembled username password connect s,
        (parse_eq_ok_iff_means introduced).mpr ⟨Settings.ofPairs_eq_ok_iff.mp h, rfl⟩⟩
  case others =>
    intro text' query' introduced' pairs'
    constructor
    · intro key value longer idle
      have same : Settings.ofPairs pairs' = Settings.ofPairs pairs := by
        rw [longer]
        exact Settings.ofPairs_append_idle idle
      rw [parse, parse, read_of_introduces introduced, read_of_introduces introduced', same]
    · intro same d h
      obtain ⟨means, rest⟩ := (parse_eq_ok_iff_means introduced).mp h
      exact (parse_eq_ok_iff_means introduced').mpr ⟨means.of_lookup_eq same, rest⟩

/-- A query with a repeated key, a key that is no parameter and two faults, of which the first is
    reported. -/
theorem parse_query_repeated :
    let text := "scott/tiger@db?isolation=READONLY&isol%61tion=no&rows=x&as=king&questionph="
    let query := "isolation=READONLY&isol%61tion=no&rows=x&as=king&questionph=".toList
    Introduces text.toList "scott" "tiger" "db" query ∧
      parse text = .error (.invalidParameter "as" "king") := by
  intro text query
  have user : readComponent .username "scott".toList = .ok "scott" := by decide +kernel
  have secret : readComponent .password "tiger".toList = .ok "tiger" := by decide +kernel
  have host : readHost "db".toList = .ok "db" := by decide +kernel
  have parts : Parts.ofText (withoutScheme text.toList)
      = ⟨"scott".toList, "tiger".toList, "db".toList, query⟩ := by decide
  have introduced : Introduces text.toList "scott" "tiger" "db" query := by
    rw [introduces_iff, parts]
    exact ⟨by decide, user, secret, host, rfl⟩
  have pairs : Form.pairs (Utf8.encode query)
      = [("isolation", "READONLY"), ("isolation", "no"), ("rows", "x")]
        ++ ("as", "king") :: [("questionph", "")] := by
    unfold query
    decide +kernel
  have accepts :
      Settings.Accepts [("isolation", "READONLY"), ("isolation", "no"), ("rows", "x")] := by
    have counted :
        Settings.firstOfEach [("isolation", "READONLY"), ("isolation", "no"), ("rows", "x")]
          = [("isolation", "READONLY"), ("rows", "x")] := by decide
    rw [Settings.accepts_iff, counted]
    simp only [List.forall_mem_cons]
    exact ⟨by decide +kernel, by decide +kernel, by simp⟩
  have blames : Settings.Blames (Form.pairs (Utf8.encode query)) .privilege "king" :=
    ⟨_, _, pairs, by decide, by decide, accepts⟩
  exact ⟨introduced, ((parse_query introduced).2.2.1 _).mpr ⟨.privilege, "king", blames, rfl⟩⟩

end Dsn

end DatabaseLogon
