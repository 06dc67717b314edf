import DatabaseLogon.Dsn.Parser
import Mathlib.Data.Nat.Digits.Defs

namespace DatabaseLogon

/-!
# Prefetch numbers

A query can set two numbers of 32 bits. Their digits go into a register of that width one after the
other: what it holds moves up by one place and the digit is added, and either step can overflow.
Here this is written down step by step, with the plus sign that a reader of numbers lets pass and
the look at the first character that keeps it out, and shown to be the reading that the query makes.
The register overflows at some digit exactly if the whole number is too large, because a number that
is continued never gets smaller.

* `Decimal.Numeral` — the number that a text denotes, each digit counted by its place.
* `Decimal.push?`, `Decimal.fill?` — one more digit in the register, and all of them.
* `Decimal.unsigned?` — a number with or without a plus sign in front.
* `Decimal.fill?_eq_some_iff` — the register holds what is read without a limit, or nothing;
  `Decimal.unsigned?_eq` says what follows for a number with a sign.
* `Settings.readNumber` — the number that a parameter is set to, or the error.
* `Settings.readNumber_exact` — what is accepted, what it means, and what is refused.
-/

namespace Decimal

/-! ### Numerals -/

/-- The number that digits denote: each counts by the power of ten of its place, the last one for
    itself. -/
def denoted (text : List Char) : Nat :=
  Nat.ofDigits 10 (text.reverse.map fun c => c.toNat - 0x30)

/-- A text of one or more ASCII digits, and the number that it denotes. -/
structure Numeral (text : List Char) (n : Nat) : Prop where
  nonempty : text ≠ []
  digits : ∀ c ∈ text, c.isDigit = true
  value : denoted text = n

variable {c : Char} {text : List Char} {d n v : Nat}

theorem denoted_cons (c : Char) (text : List Char) :
    denoted (c :: text) = (c.toNat - 0x30) * 10 ^ text.length + denoted text := by
  rw [denoted, List.reverse_cons, List.map_append, Nat.ofDigits_append, List.length_map,
    List.length_reverse, List.map_singleton, Nat.ofDigits_singleton, Nat.add_comm, Nat.mul_comm]
  rfl

theorem digitValue?_eq_some_iff :
    digitValue? c = some d ↔ c.isDigit = true ∧ c.toNat - 0x30 = d := by
  have range : ('0' ≤ c ∧ c ≤ '9') ↔ c.isDigit = true := by
    rw [Char.isDigit_iff_toNat, Char.le_def, Char.le_def, UInt32.le_iff_toNat_le,
      UInt32.le_iff_toNat_le]
    rfl
  by_cases digit : c.isDigit = true
  · rw [digitValue?, if_pos (range.mpr digit)]
    simp [digit]
  · rw [digitValue?, if_neg (mt range.mp digit)]
    simp [digit]

theorem digitValue?_lt (h : digitValue? c = some d) : d < 10 := by
  obtain ⟨range, rfl⟩ := digitValue?_eq_some_iff.mp h
  have bound : c.toNat ≤ 0x39 := (Char.isDigit_iff_toNat.mp range).2
  omega

/-- **Reading goes on** exactly over digits, and moves what is already read up by their places. -/
theorem continue?_eq_some_iff :
    continue? v text = some n ↔
      (∀ c ∈ text, c.isDigit = true) ∧ v * 10 ^ text.length + denoted text = n := by
  induction text generalizing v with
  | nil => simp [continue?, denoted]
  | cons c text ih =>
    rw [List.forall_mem_cons, continue?]
    cases found : digitValue? c with
    | none =>
      have other : ¬ c.isDigit = true := fun digit =>
        Option.some_ne_none _ ((digitValue?_eq_some_iff.mpr ⟨digit, rfl⟩).symm.trans found)
      simp [other]
    | some d =>
      obtain ⟨digit, rfl⟩ := digitValue?_eq_some_iff.mp found
      have moved : (v * 10 + (c.toNat - 0x30)) * 10 ^ text.length + denoted text
          = v * 10 ^ (c :: text).length + denoted (c :: text) := by
        rw [denoted_cons, List.length_cons, Nat.pow_succ, Nat.add_mul, Nat.mul_assoc,
          Nat.mul_comm 10, Nat.add_assoc]
      simp only [ih, moved, digit, true_and]

theorem value?_eq_some_iff : value? text = some n ↔ Numeral text n := by
  have read : text ≠ [] → value? text = continue? 0 text := by
    intro nonempty
    obtain ⟨c, rest, rfl⟩ := List.exists_cons_of_ne_nil nonempty
    rfl
  constructor
  · intro h
    have nonempty : text ≠ [] := by
      rintro rfl
      cases h
    rw [read nonempty, continue?_eq_some_iff, Nat.zero_mul, Nat.zero_add] at h
    exact ⟨nonempty, h.1, h.2⟩
  · rintro ⟨nonempty, digits, value⟩
    rw [read nonempty, continue?_eq_some_iff, Nat.zero_mul, Nat.zero_add]
    exact ⟨digits, value⟩

/-- What is read with the limit is what the text denotes. -/
theorem bounded?_eq_some_iff {n : UInt32} : bounded? text = some n ↔ Numeral text n.toNat := by
  rw [← value?_eq_some_iff, bounded?]
  cases value? text with
  | none => simp
  | some k =>
    by_cases small : k < UInt32.size
    · simp [small, ← UInt32.toNat_inj]
    · have differ : k ≠ n.toNat := fun same => small (same ▸ n.toNat_lt)
      simp [small, differ]

theorem numeral_toDigits (n : Nat) : Numeral (Nat.toDigits 10 n) n :=
  value?_eq_some_iff.mp (value?_toDigits n)

/-- A zero in front changes nothing. -/
theorem Numeral.zero_cons (h : Numeral text n) : Numeral ('0' :: text) n where
  nonempty := List.cons_ne_nil _ _
  digits := List.forall_mem_cons.mpr ⟨rfl, h.digits⟩
  value := by
    rw [denoted_cons, h.value]
    exact (congrArg (· + n) (Nat.zero_mul _)).trans (Nat.zero_add n)

theorem Numeral.zeros_append (h : Numeral text n) (zeros : Nat) :
    Numeral (List.replicate zeros '0' ++ text) n := by
  induction zeros with
  | zero => exact h
  | succ zeros ih => exact ih.zero_cons

/-! ### A register of 32 bits -/

/-- A product of numbers of 32 bits, unless it overflows. -/
def times? (a b : UInt32) : Option UInt32 :=
  if a.toNat * b.toNat < UInt32.size then some (a * b) else none

/-- A sum of numbers of 32 bits, unless it overflows. -/
def plus? (a b : UInt32) : Option UInt32 :=
  if a.toNat + b.toNat < UInt32.size then some (a + b) else none

/-- The register after one more digit. -/
def push? (register : UInt32) (c : Char) : Option UInt32 :=
  (digitValue? c).bind fun digit =>
    (times? register 10).bind fun moved => plus? moved (UInt32.ofNat digit)

/-- The register after some more digits. -/
def fill? (register : UInt32) : List Char → Option UInt32
  | [] => some register
  | c :: text => (push? register c).bind (fill? · text)

/-- A number of 32 bits. A plus sign may stand in front. -/
def unsigned? (text : List Char) : Option UInt32 :=
  let digits := if text.head? = some '+' then text.tail else text
  if digits = [] then none else fill? 0 digits

variable {a b m r : UInt32}

/-- A result that is there only if it fits stands for the number that was wanted. -/
theorem fitting_eq_some_iff (exact : n < UInt32.size → r.toNat = n) :
    (if n < UInt32.size then some r else none) = some m ↔ n = m.toNat := by
  by_cases fits : n < UInt32.size
  · rw [if_pos fits, Option.some_inj, ← UInt32.toNat_inj, exact fits]
  · have differ : n ≠ m.toNat := fun same => fits (same ▸ m.toNat_lt)
    simp [fits, differ]

theorem times?_eq_some_iff : times? a b = some m ↔ a.toNat * b.toNat = m.toNat :=
  fitting_eq_some_iff fun fits => (UInt32.toNat_mul a b).trans (Nat.mod_eq_of_lt fits)

theorem plus?_eq_some_iff : plus? a b = some m ↔ a.toNat + b.toNat = m.toNat :=
  fitting_eq_some_iff fun fits => (UInt32.toNat_add a b).trans (Nat.mod_eq_of_lt fits)

/-- One more digit is taken exactly if the number that results fits. -/
theorem push?_eq_some_iff :
    push? r c = some m ↔ ∃ d, digitValue? c = some d ∧ r.toNat * 10 + d = m.toNat := by
  rw [push?, Option.bind_eq_some_iff]
  refine exists_congr fun d => and_congr_right fun digit => ?_
  have small : (UInt32.ofNat d).toNat = d :=
    UInt32.toNat_ofNat_of_lt' (Nat.lt_trans (digitValue?_lt digit) (by decide))
  simp only [Option.bind_eq_some_iff, times?_eq_some_iff, plus?_eq_some_iff, small]
  constructor
  · rintro ⟨moved, product, sum⟩
    rw [← sum, ← product]
    rfl
  · intro sum
    -- the product fits, since it is no larger than the sum
    have fits : r.toNat * 10 < UInt32.size :=
      Nat.lt_of_le_of_lt (sum ▸ Nat.le_add_right _ d) m.toNat_lt
    refine ⟨UInt32.ofNat (r.toNat * 10), ?_, ?_⟩
    · rw [UInt32.toNat_ofNat_of_lt' fits]
      rfl
    · rw [UInt32.toNat_ofNat_of_lt' fits, sum]

/-- A number that is continued never gets smaller. -/
theorem le_of_continue?_eq_some (h : continue? v text = some n) : v ≤ n := by
  obtain ⟨-, value⟩ := continue?_eq_some_iff.mp h
  calc v ≤ v * 10 ^ text.length := Nat.le_mul_of_pos_right v (Nat.pow_pos (by decide))
    _ ≤ v * 10 ^ text.length + denoted text := Nat.le_add_right _ _
    _ = n := value

/-- **The register holds what is read without a limit, or nothing.** It is empty exactly if a
    character is no digit or the number does not fit in the end. -/
theorem fill?_eq_some_iff : fill? r text = some m ↔ continue? r.toNat text = some m.toNat := by
  induction text generalizing r with
  | nil => rw [fill?, continue?, Option.some_inj, Option.some_inj, UInt32.toNat_inj]
  | cons c text ih =>
    simp only [fill?, continue?, Option.bind_eq_some_iff, push?_eq_some_iff, ih]
    constructor
    · rintro ⟨next, ⟨d, digit, sum⟩, rest⟩
      rw [digit]
      rwa [← sum] at rest
    · intro rest
      cases digit : digitValue? c with
      | none =>
        rw [digit] at rest
        cases rest
      | some d =>
        rw [digit] at rest
        -- what is read so far fits, since all of it does
        have fits : r.toNat * 10 + d < UInt32.size :=
          Nat.lt_of_le_of_lt (le_of_continue?_eq_some rest) m.toNat_lt
        have same : (UInt32.ofNat (r.toNat * 10 + d)).toNat = r.toNat * 10 + d :=
          UInt32.toNat_ofNat_of_lt' fits
        exact ⟨_, ⟨d, rfl, same.symm⟩, by rwa [same]⟩

/-- **One plus sign is skipped, and the rest is read with the limit.** -/
theorem unsigned?_eq (text : List Char) :
    unsigned? text = bounded? (if text.head? = some '+' then text.tail else text) := by
  rw [unsigned?]
  generalize (if text.head? = some '+' then text.tail else text) = digits
  cases digits with
  | nil => rfl
  | cons c digits =>
    apply Option.ext
    intro n
    rw [if_neg (List.cons_ne_nil c digits), fill?_eq_some_iff, bounded?_eq_some_iff,
      ← value?_eq_some_iff]
    rfl

end Decimal

namespace Settings

open Decimal

/-- The number of 32 bits that a parameter is set to. Its text has to begin with a digit. -/
def readNumber (name value : String) : Except Error UInt32 :=
  if value.toList.head?.any Char.isDigit then
    match unsigned? value.toList with
    | some n => .ok n
    | none => .error (.invalidParameter name value)
  else .error (.invalidParameter name value)

variable {name value : String} {n : UInt32} {e : Error}

/-- The look at the first character and the reading behind it are one reading with the limit. -/
theorem readNumber_eq (name value : String) :
    readNumber name value =
      match bounded? value.toList with
      | some n => .ok n
      | none => .error (.invalidParameter name value) := by
  rw [readNumber]
  cases value.toList with
  | nil => rfl
  | cons c text =>
    rw [List.head?_cons, Option.any_some]
    by_cases digit : c.isDigit = true
    · have unsigned : (c :: text).head? ≠ some '+' := by
        intro sign
        obtain rfl := Option.some.inj sign
        exact absurd digit (by decide)
      rw [if_pos digit, unsigned?_eq, if_neg unsigned]
    · have refused : bounded? (c :: text) = none := by
        rw [Option.eq_none_iff_forall_ne_some]
        intro n read
        exact digit ((bounded?_eq_some_iff.mp read).digits c List.mem_cons_self)
      rw [if_neg digit, refused]

theorem readNumber_eq_ok_iff :
    readNumber name value = .ok n ↔ Numeral value.toList n.toNat := by
  rw [readNumber_eq, ← bounded?_eq_some_iff]
  cases bounded? value.toList <;> simp

/-- A text that denotes a number below the limit denotes a number of 32 bits. -/
theorem exists_readNumber_eq_ok_iff :
    (∃ n, readNumber name value = .ok n) ↔ ∃ k < 2 ^ 32, Numeral value.toList k := by
  simp only [readNumber_eq_ok_iff]
  constructor
  · rintro ⟨n, numeral⟩
    exact ⟨n.toNat, n.toNat_lt, numeral⟩
  · rintro ⟨k, small, numeral⟩
    refine ⟨UInt32.ofNat k, ?_⟩
    rwa [UInt32.toNat_ofNat_of_lt' small]

theorem readNumber_eq_error_iff :
    readNumber name value = .error e ↔
      (¬ ∃ k < 2 ^ 32, Numeral value.toList k) ∧ e = .invalidParameter name value := by
  rw [← exists_readNumber_eq_ok_iff, readNumber_eq]
  cases bounded? value.toList with
  | some n => simp
  | none => simp [eq_comm]

/-- Where the query sets a parameter to a number of 32 bits, it is read so, and an error ends the
    reading of the query. -/
theorem setPairs_readNumber [ZoneTable] {s : Settings} {p : Parameter} {set : UInt32 → Settings}
    (sets : s.set? p value = (bounded? value.toList).map set) (pairs : List (String × String)) :
    (s.setPairs ((p.name, value) :: pairs)).mapError Dsn.Fault.toError =
      (readNumber p.name value).bind fun n =>
        ((set n).setPairs pairs).mapError Dsn.Fault.toError := by
  simp only [setPairs, setPair, Parameter.ofName?_name, sets, readNumber_eq]
  cases bounded? value.toList <;> rfl

/-- **Prefetch numbers are read exactly.** A value is accepted if it is made of ASCII digits and
    denotes less than `2 ^ 32`, and then it is read as the number that it denotes. So a number of
    32 bits that is written in digits is read again, whatever zeros are put in front. Everything
    else is refused with the name of the parameter and the value as it is. Both prefetch parameters
    of a query are read in this way. -/
theorem readNumber_exact [ZoneTable] (name value : String) :
    (∀ n, readNumber name value = .ok n ↔ Numeral value.toList n.toNat) ∧
    ((∃ n, readNumber name value = .ok n) ↔ ∃ k < 2 ^ 32, Numeral value.toList k) ∧
    (∀ e, readNumber name value = .error e ↔
      (¬ ∃ k < 2 ^ 32, Numeral value.toList k) ∧ e = .invalidParameter name value) ∧
    (∀ (n : UInt32) (zeros : Nat),
      readNumber name (String.ofList (List.replicate zeros '0') ++ toString n.toNat) = .ok n) ∧
    ∀ (s : Settings) (pairs : List (String × String)),
      (s.setPairs (("prefetch_rows", value) :: pairs)).mapError Dsn.Fault.toError =
        ((readNumber "prefetch_rows" value).bind fun n =>
          ({ s with prefetchRows := n }.setPairs pairs).mapError Dsn.Fault.toError) ∧
      (s.setPairs (("prefetch_memory", value) :: pairs)).mapError Dsn.Fault.toError =
        (readNumber "prefetch_memory" value).bind fun n =>
          ({ s with prefetchMemory := n }.setPairs pairs).mapError Dsn.Fault.toError := by
  refine ⟨fun n => readNumber_eq_ok_iff, exists_readNumber_eq_ok_iff,
    fun e => readNumber_eq_error_iff, fun n zeros => ?written, fun s pairs => ⟨?rows, ?memory⟩⟩
  case written =>
    rw [readNumber_eq_ok_iff, String.toList_append, String.toList_ofList, Nat.toString_eq_repr,
      Nat.toList_repr]
    exact (numeral_toDigits n.toNat).zeros_append zeros
  case rows => exact setPairs_readNumber (p := .prefetchRows) rfl pairs
  case memory => exact setPairs_readNumber (p := .prefetchMemory) rfl pairs

/-- The largest number with zeros in front; the next one, signs, a blank, a digit of another
    script, and nothing at all. -/
example :
    readNumber "prefetch_rows" "0000000004294967295" = .ok 4294967295 ∧
      ["4294967296", "+5", "-1", " 7", "٣", ""].map (readNumber "prefetch_rows") =
        ["4294967296", "+5", "-1", " 7", "٣", ""].map
          fun value => .error (.invalidParameter "prefetch_rows" value) := by
  decide

end Settings

end DatabaseLogon
