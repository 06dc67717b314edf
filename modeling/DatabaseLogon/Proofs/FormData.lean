import DatabaseLogon.Proofs.Escapes
import DatabaseLogon.Text.Form

namespace DatabaseLogon

/-!
# Form data is read as it was written

Writing keeps the separators out of keys and values, so cutting at them finds the pairs again.

* `Text.splitAll_eq_splitOn` — cutting at every separator is the cut of the standard library.
* `Form.decode_encode` — a key or a value is read as it was written.
* `Form.not_mem_encode`, `Form.not_mem_write` — the characters that do not occur in what is written.
* `Form.pairs_write` — so pairs are read as they were written.
-/

namespace Text

theorem splitAll_eq_splitOn {α : Type} [DecidableEq α] (sep : α) (xs : List α) :
    splitAll sep xs = xs.splitOn sep := by
  induction xs with
  | nil => rfl
  | cons x xs ih =>
    rw [splitAll, List.splitOn_cons_eq_if_modifyHead, ih]
    by_cases h : x = sep
    · rw [if_pos h, if_pos (beq_iff_eq.mpr h)]
    · rw [if_neg h, if_neg (fun e => h (beq_iff_eq.mp e))]
      cases hparts : xs.splitOn sep with
      | nil => exact absurd hparts (List.splitOn_ne_nil sep xs)
      | cons part parts => rfl

end Text

namespace Form

/-! ### One key or value -/

/-- Bytes that are not written as escapes: the unreserved ones, and blanks. -/
def isPlain (b : UInt8) : Bool :=
  b = 0x20 || isUnreserved b

/-- An unreserved byte is an ASCII character, but not `+`. -/
theorem isUnreserved_bounds {b : UInt8} : isUnreserved b → b.toNat < 0x80 ∧ b ≠ 0x2B := by
  apply Percent.forall_byte (p := fun b => isUnreserved b → b.toNat < 0x80 ∧ b ≠ 0x2B)
  decide +kernel

/-- No `+` is written for a byte that is no blank. -/
theorem plus_not_mem_spelling (b : UInt8) :
    (0x2B : UInt8) ∉ (Percent.written isUnreserved b).spelling := by
  have hb : b.toNat < 256 := b.toNat_lt
  have digits : ∀ n < 16, (0x2B : UInt8) ≠ Percent.digitByte n := by decide
  unfold Percent.written
  intro mem
  by_cases h : isUnreserved b
  · rw [if_pos h] at mem
    exact (isUnreserved_bounds h).2 (List.mem_singleton.mp mem).symm
  · rw [if_neg h] at mem
    simp only [Percent.Piece.spelling, List.mem_cons, List.not_mem_nil, or_false] at mem
    rcases mem with mark | high | low
    · exact absurd mark (by decide)
    · exact digits (b.toNat / 16) (by omega) high
    · exact digits (b.toNat % 16) (by omega) low

/-- Once the blanks are back, a byte is written as one piece. -/
theorem blanks_encode_byte (b : UInt8) :
    (Utf8.encode (if b = 0x20 then ['+'] else Percent.encode isUnreserved [b])).map
        (fun b => if b = 0x2B then 0x20 else b)
      = (Percent.written isPlain b).spelling := by
  by_cases blank : b = 0x20
  · subst blank
    decide
  -- apart from blanks the two ways of writing agree, and no byte of them turns into a blank
  · have same : Percent.written isPlain b = Percent.written isUnreserved b := by
      simp only [Percent.written, isPlain, blank, decide_false, Bool.false_or]
    rw [if_neg blank, Percent.encode_eq_spelling (fun b hb => (isUnreserved_bounds hb).1), same]
    show List.map _ ((Percent.written isUnreserved b).spelling ++ []) = _
    rw [List.append_nil]
    conv => rhs; rw [← List.map_id (Percent.written isUnreserved b).spelling]
    apply List.map_congr_left
    intro x hx
    have other : x ≠ 0x2B := by
      rintro rfl
      exact plus_not_mem_spelling b hx
    exact if_neg other

/-- Once the blanks are back, a text is written piece by piece. -/
theorem blanks_encode (text : List Char) :
    (Utf8.encode (encode text)).map (fun b => if b = 0x2B then 0x20 else b)
      = Percent.spelling ((Utf8.encode text).map (Percent.written isPlain)) := by
  unfold encode
  induction Utf8.encode text with
  | nil => rfl
  | cons b bytes ih =>
    rw [List.flatMap_cons, Utf8.encode_append, List.map_append, blanks_encode_byte, ih]
    rfl

/-- A key or a value is read as it was written. -/
theorem decode_encode (text : List Char) :
    decode (Utf8.encode (encode text)) = String.ofList text := by
  obtain ⟨pieces, -, bytes⟩ := Percent.read_written isPlain (by decide) (Utf8.encode text)
  show String.ofList (Utf8.decodeLossy (Percent.decode (List.map _ _))) = _
  rw [blanks_encode, Percent.decode, pieces, bytes, Utf8.decodeLossy_encode]

/-! ### Separators -/

/-- The characters that have a meaning around keys and values. -/
def separators : List Char :=
  ['&', '=', '@', '?']

theorem separator_bounds {c : Char} (h : c ∈ separators) :
    c.toNat < 0x80 ∧ c ≠ '%' ∧ c ≠ '+' ∧ (∀ n < 16, Percent.digit n ≠ c) ∧
      isUnreserved (UInt8.ofNat c.toNat) = false := by
  simp only [separators, List.mem_cons, List.not_mem_nil, or_false] at h
  rcases h with rfl | rfl | rfl | rfl <;> decide

/-- No separator is written for a key or a value. -/
theorem not_mem_encode {c : Char} (h : c ∈ separators) (text : List Char) : c ∉ encode text := by
  obtain ⟨ascii, mark, plus, digits, reserved⟩ := separator_bounds h
  intro mem
  obtain ⟨b, -, hb⟩ := List.mem_flatMap.mp mem
  split at hb
  · exact plus (List.mem_singleton.mp hb)
  · exact Percent.not_mem_encode ascii mark digits reserved [b] hb

/-- What is written for a pair. -/
def encodePair (pair : String × String) : List Char :=
  encode pair.1.toList ++ '=' :: encode pair.2.toList

theorem write_eq (ps : List (String × String)) :
    write ps = ['&'].intercalate (ps.map encodePair) := rfl

/-- In a pair there is no separator but the one in its middle. -/
theorem not_mem_encodePair {c : Char} (h : c ∈ separators) (middle : c ≠ '=')
    (pair : String × String) : c ∉ encodePair pair := by
  intro mem
  rcases List.mem_append.mp mem with key | rest
  · exact not_mem_encode h _ key
  rcases List.mem_cons.mp rest with rfl | value
  · exact middle rfl
  · exact not_mem_encode h _ value

/-- Among pairs there is no separator but the two of form data. -/
theorem not_mem_write {c : Char} (h : c ∈ separators) (between : c ≠ '&') (middle : c ≠ '=')
    (ps : List (String × String)) : c ∉ write ps := by
  rw [write_eq]
  induction ps with
  | nil => exact List.not_mem_nil
  | cons p ps ih =>
    have first := not_mem_encodePair h middle p
    cases ps with
    | nil =>
      rw [List.map_singleton, List.intercalate_singleton]
      exact first
    | cons q qs =>
      rw [List.map_cons, List.map_cons, List.intercalate_cons_cons, ← List.map_cons]
      intro mem
      rcases List.mem_append.mp mem with front | rest
      · rcases List.mem_append.mp front with pair | sep
        · exact first pair
        · exact between (List.mem_singleton.mp sep)
      · exact ih rest

/-! ### Pairs -/

/-- The bytes of texts with a separator between them. -/
theorem encode_intercalate (parts : List (List Char)) :
    Utf8.encode (['&'].intercalate parts) = [pairMark].intercalate (parts.map Utf8.encode) := by
  induction parts with
  | nil => rfl
  | cons part parts ih =>
    cases parts with
    | nil => rw [List.map_singleton, List.intercalate_singleton, List.intercalate_singleton]
    | cons next parts =>
      rw [List.map_cons, List.map_cons, List.intercalate_cons_cons, List.intercalate_cons_cons,
        Utf8.encode_append, Utf8.encode_append, ih]
      rfl

/-- The first `=` of what is written for a pair is the one in its middle. -/
theorem pair_encodePair (p : String × String) : pair (Utf8.encode (encodePair p)) = p := by
  have key : valueMark ∉ Utf8.encode (encode p.1.toList) := by
    intro mem
    exact not_mem_encode (c := '=') (by decide) _ (Utf8.mem_of_mem_encode mem (by decide))
  have cut : Text.splitFirst valueMark (Utf8.encode (encodePair p))
      = some (Utf8.encode (encode p.1.toList), Utf8.encode (encode p.2.toList)) := by
    rw [Text.splitFirst_eq_some_iff, encodePair, Utf8.encode_append, Utf8.encode_cons]
    exact ⟨rfl, key⟩
  rw [pair, cut]
  show (decode _, decode _) = p
  rw [decode_encode, decode_encode, String.ofList_toList, String.ofList_toList]

/-- **Pairs are read as they were written.** -/
theorem pairs_write (ps : List (String × String)) : pairs (Utf8.encode (write ps)) = ps := by
  -- no pairs are written as the empty text, which has one piece, an empty one
  by_cases none : ps = []
  · rw [none]
    rfl
  -- no pair holds a `&`, so the cut finds the pairs
  have parts : ∀ part ∈ (ps.map encodePair).map Utf8.encode, pairMark ∉ part := by
    intro part hpart mem
    obtain ⟨text, htext, rfl⟩ := List.mem_map.mp hpart
    obtain ⟨p, -, rfl⟩ := List.mem_map.mp htext
    exact not_mem_encodePair (c := '&') (by decide) (by decide) p
      (Utf8.mem_of_mem_encode mem (by decide))
  -- a pair holds at least the `=`, so it is not skipped as an empty piece
  have nonempty : ∀ p, Utf8.encode (encodePair p) ≠ [] := by
    intro p h
    have mem : valueMark ∈ Utf8.encode (encodePair p) := by
      rw [encodePair, Utf8.encode_append, Utf8.encode_cons]
      exact List.mem_append_right _ List.mem_cons_self
    rw [h] at mem
    exact List.not_mem_nil mem
  rw [pairs, write_eq, encode_intercalate, Text.splitAll_eq_splitOn,
    List.splitOn_intercalate _ parts (by simpa using none), List.filter_eq_self.mpr]
  · rw [List.map_map, List.map_map]
    exact List.map_id'' pair_encodePair ps
  · intro part hpart
    obtain ⟨text, htext, rfl⟩ := List.mem_map.mp hpart
    obtain ⟨p, -, rfl⟩ := List.mem_map.mp htext
    exact decide_eq_true (nonempty p)

end Form

end DatabaseLogon
