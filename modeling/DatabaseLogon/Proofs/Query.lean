import DatabaseLogon.Dsn.Parser
import DatabaseLogon.Dsn.Printer

namespace DatabaseLogon

/-!
# Settings are read as they were written

Only settings that differ from the standard are written, each under a key of its own, and reading
begins at the standard. So a setting that is omitted already has its value, and one that is written
is set without a change of the others.

* `Settings.firstOfEach_eq_self` — where all keys differ, every pair counts.
* `Settings.text?` — what is written for a parameter; `pairs_eq` says that nothing else is written.
* `Settings.take` — one setting taken from other settings.
* `Settings.setPairs_written` — reading what was written takes one setting after the other.
* `Settings.ofPairs_pairs` — all settings together.
-/

/-- A 32-bit number that was written is read again. -/
theorem Decimal.bounded?_toDigits (n : UInt32) :
    bounded? (Nat.toDigits 10 n.toNat) = some n := by
  have small : n.toNat < UInt32.size := n.toNat_lt
  rw [bounded?, value?_toDigits]
  show (if h : n.toNat < UInt32.size then some (UInt32.ofNatLT n.toNat h) else none) = some n
  rw [dif_pos small, UInt32.ofNatLT_toNat]

theorem Decimal.bounded?_toString (n : UInt32) : bounded? (toString n.toNat).toList = some n := by
  rw [Nat.toString_eq_repr, Nat.toList_repr, bounded?_toDigits]

namespace Settings

/-! ### Keys -/

/-- Where all keys differ, every pair is the first of its key. -/
theorem firstOfEach_eq_self {ps : List (String × String)} (distinct : (ps.map (·.1)).Nodup) :
    firstOfEach ps = ps := by
  induction ps with
  | nil => rfl
  | cons p ps ih =>
    rw [List.map_cons, List.nodup_cons] at distinct
    rw [firstOfEach, ih distinct.2, List.filter_eq_self.mpr]
    intro q hq
    have other : q.1 ≠ p.1 := by
      intro same
      apply distinct.1
      rw [← same]
      exact List.mem_map_of_mem hq
    exact decide_eq_true other

variable [ZoneTable]

/-! ### One setting -/

/-- The value that is written for a parameter, unless it is the standard one. -/
def text? (s : Settings) : Parameter → Option String
  | .location => if s.location = standard.location then none else some s.location.name
  | .isolation =>
    if s.transactionMode = standard.transactionMode then none else some s.transactionMode.keyword
  | .placeholders => if s.questionMarkPlaceholders then some "YES" else none
  | .prefetchRows =>
    if s.prefetchRows = standard.prefetchRows then none else some (toString s.prefetchRows.toNat)
  | .prefetchMemory =>
    if s.prefetchMemory = standard.prefetchMemory then none
    else some (toString s.prefetchMemory.toNat)
  | .privilege => s.privilegedMode.keyword?

/-- What is written for some parameters. -/
def written (s : Settings) (ps : List Parameter) : List (String × String) :=
  ps.flatMap fun p => pair? p (s.text? p)

theorem pairs_eq (s : Settings) : s.pairs = s.written Parameter.all := by
  simp only [written, Parameter.all, List.flatMap_cons, List.flatMap_nil, List.append_nil, pairs,
    text?, List.append_assoc]

/-- The settings `t` with one of them taken from `s`. -/
def take (s t : Settings) : Parameter → Settings
  | .location => { t with location := s.location }
  | .isolation => { t with transactionMode := s.transactionMode }
  | .placeholders => { t with questionMarkPlaceholders := s.questionMarkPlaceholders }
  | .prefetchRows => { t with prefetchRows := s.prefetchRows }
  | .prefetchMemory => { t with prefetchMemory := s.prefetchMemory }
  | .privilege => { t with privilegedMode := s.privilegedMode }

variable {s t : Settings} {p q : Parameter}

/-- A value that is written means the setting that it was written for. -/
theorem set?_text? {value : String} (h : s.text? p = some value) :
    t.set? p value = some (s.take t p) := by
  cases p with
  | location =>
    obtain ⟨-, rfl⟩ : _ ∧ s.location.name = value := by simpa [text?] using h
    rw [set?, Location.ofName?_name]
    rfl
  | isolation =>
    obtain ⟨-, rfl⟩ : _ ∧ s.transactionMode.keyword = value := by simpa [text?] using h
    rw [set?, TransactionMode.ofKeyword?_keyword]
    rfl
  | placeholders =>
    obtain ⟨on, rfl⟩ : s.questionMarkPlaceholders = true ∧ "YES" = value := by
      simpa [text?] using h
    rw [take, on]
    rfl
  | prefetchRows =>
    obtain ⟨-, rfl⟩ : _ ∧ toString s.prefetchRows.toNat = value := by simpa [text?] using h
    rw [set?, Decimal.bounded?_toString]
    rfl
  | prefetchMemory =>
    obtain ⟨-, rfl⟩ : _ ∧ toString s.prefetchMemory.toNat = value := by simpa [text?] using h
    rw [set?, Decimal.bounded?_toString]
    rfl
  | privilege =>
    rw [set?, PrivilegedMode.ofKeyword?_keyword? h]
    rfl

/-- What is not written is at its standard value. -/
theorem take_of_text?_eq_none (h : s.text? p = none) (ht : standard.take t p = t) :
    s.take t p = t := by
  rw [← ht]
  cases p with
  | location =>
    have same : s.location = standard.location := by simpa [text?] using h
    rw [take, same]
    rfl
  | isolation =>
    have same : s.transactionMode = standard.transactionMode := by simpa [text?] using h
    rw [take, same]
    rfl
  | placeholders =>
    have same : s.questionMarkPlaceholders = false := by simpa [text?] using h
    rw [take, same]
    rfl
  | prefetchRows =>
    have same : s.prefetchRows = standard.prefetchRows := by simpa [text?] using h
    rw [take, same]
    rfl
  | prefetchMemory =>
    have same : s.prefetchMemory = standard.prefetchMemory := by simpa [text?] using h
    rw [take, same]
    rfl
  | privilege =>
    have same : s.privilegedMode = .default := by
      cases hm : s.privilegedMode with
      | default => rfl
      | sysDba => simp [text?, hm, PrivilegedMode.keyword?] at h
      | sysAsm => simp [text?, hm, PrivilegedMode.keyword?] at h
      | sysOper => simp [text?, hm, PrivilegedMode.keyword?] at h
    rw [take, same]
    rfl

/-- Two settings may be taken in any order. -/
theorem take_comm {u : Settings} (h : p ≠ q) :
    u.take (s.take t p) q = s.take (u.take t q) p := by
  -- two settings are two fields, or they are the same
  cases p <;> cases q <;> first | rfl | exact absurd rfl h

/-- Every setting is written under the key of its parameter, if at all. -/
theorem sublist_keys (s : Settings) (ps : List Parameter) :
    ((s.written ps).map (·.1)).Sublist (ps.map Parameter.name) := by
  induction ps with
  | nil => exact List.Sublist.refl _
  | cons p ps ih =>
    have first : ((pair? p (s.text? p)).map (·.1)).Sublist [p.name] := by
      cases s.text? p with
      | none => exact List.nil_sublist _
      | some value => exact List.Sublist.refl _
    rw [written, List.flatMap_cons, List.map_append]
    exact first.append ih

/-! ### Reading -/

/-- Pairs may be read in two parts. -/
theorem setPairs_append {u : Settings} {ps qs : List (String × String)} (h : s.setPairs ps = .ok t)
    (h' : t.setPairs qs = .ok u) : s.setPairs (ps ++ qs) = .ok u := by
  induction ps generalizing s with
  | nil =>
    cases h
    exact h'
  | cons p ps ih =>
    rw [setPairs] at h
    rw [List.cons_append, setPairs]
    cases hp : s.setPair p with
    | error fault =>
      rw [hp] at h
      cases h
    | ok changed =>
      rw [hp] at h
      exact ih h

/-- Reading what was written for a parameter takes its setting. -/
theorem setPairs_pair? (ht : standard.take t p = t) :
    t.setPairs (pair? p (s.text? p)) = .ok (s.take t p) := by
  cases h : s.text? p with
  | none =>
    rw [take_of_text?_eq_none h ht]
    rfl
  | some value =>
    have changed : t.setPair (p.name, value) = .ok (s.take t p) := by
      simp only [setPair, Parameter.ofName?_name, set?_text? h]
    rw [pair?, setPairs, changed]
    rfl

/-- Reading what was written for several parameters takes one setting after the other, if none of
    them was changed before. -/
theorem setPairs_written {ps : List Parameter} (distinct : ps.Nodup)
    (ht : ∀ p ∈ ps, standard.take t p = t) :
    t.setPairs (s.written ps) = .ok (ps.foldl s.take t) := by
  induction ps generalizing t with
  | nil => rfl
  | cons p ps ih =>
    rw [List.nodup_cons] at distinct
    have first := setPairs_pair? (s := s) (ht p List.mem_cons_self)
    -- the settings still to come are other ones, so they keep their standard values
    have later : ∀ q ∈ ps, standard.take (s.take t p) q = s.take t p := by
      intro q hq
      have other : p ≠ q := by
        rintro rfl
        exact distinct.1 hq
      rw [take_comm other, ht q (List.mem_cons_of_mem _ hq)]
    exact setPairs_append first (ih distinct.2 later)

/-- **Settings are read as they were written.** -/
theorem ofPairs_pairs (s : Settings) : ofPairs s.pairs = .ok s := by
  -- every key is written once, so of each the first value is the only one
  have keys : (s.pairs.map (·.1)).Nodup := by
    rw [pairs_eq]
    exact (sublist_keys s Parameter.all).nodup (by decide)
  have untouched : ∀ p ∈ Parameter.all, standard.take standard p = standard := by
    intro p _
    cases p <;> rfl
  rw [ofPairs, firstOfEach_eq_self keys, pairs_eq, setPairs_written (by decide) untouched]
  rfl

end Settings

end DatabaseLogon
