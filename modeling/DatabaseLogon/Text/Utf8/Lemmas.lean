import DatabaseLogon.Text.Utf8

namespace DatabaseLogon.Utf8

/-!
# Reading what was written in UTF-8

* `Finishes`, `utf8EncodeChar_cases` — how the bytes of a character are read one by one; all of them
  are the character, and some of them one that is cut off.
* `sequences_encode` — the bytes of a text are cut into the characters of the text.
* `decode_encode`, `decodeLossy_encode` — so both ways of reading give the text back.
* `decodeLossy_encode_append_take` — a character of which bytes are missing at the end is replaced
  as a whole.
-/

/-! ### One byte -/

theorem sequencesFrom_cons (pending : Option Pending) (b : UInt8) (bytes : List UInt8) :
    sequencesFrom pending (b :: bytes)
      = (feed pending b).1 ++ sequencesFrom (feed pending b).2 bytes := rfl

/-- A byte in the range that an unfinished character asks for is read on. -/
theorem feed_some {p : Pending} {v : Nat} (hv : v < 256) (hlow : p.low ≤ v) (hhigh : v ≤ p.high) :
    feed (some p) (UInt8.ofNat v) =
      if p.missing = 1 then ([.scalar (Char.ofNat (p.value * 64 + (v - 0x80)))], none)
      else ([], some ⟨p.width + 1, p.value * 64 + (v - 0x80), p.missing - 1, 0x80, 0xBF⟩) := by
  simp [feed, Nat.mod_eq_of_lt hv, hlow, hhigh]

/-- The last byte of a character completes it. -/
theorem sequencesFrom_last {p : Pending} {v : Nat} (hp : p.missing = 1) (hv : v < 256)
    (hlow : p.low ≤ v) (hhigh : v ≤ p.high) (bytes : List UInt8) :
    sequencesFrom (some p) (UInt8.ofNat v :: bytes)
      = .scalar (Char.ofNat (p.value * 64 + (v - 0x80))) :: sequencesFrom none bytes := by
  simp [sequencesFrom_cons, feed_some hv hlow hhigh, hp]

/-- A byte in the middle of a character adds its six bits. -/
theorem sequencesFrom_next {p : Pending} {v : Nat} (hp : p.missing ≠ 1) (hv : v < 256)
    (hlow : p.low ≤ v) (hhigh : v ≤ p.high) (bytes : List UInt8) :
    sequencesFrom (some p) (UInt8.ofNat v :: bytes)
      = sequencesFrom
          (some ⟨p.width + 1, p.value * 64 + (v - 0x80), p.missing - 1, 0x80, 0xBF⟩) bytes := by
  simp [sequencesFrom_cons, feed_some hv hlow hhigh, hp]

/-- A byte below 80 is a character. -/
theorem feed_none_one {v : Nat} (h : v < 0x80) :
    feed none (UInt8.ofNat v) = ([.scalar (Char.ofNat v)], none) := by
  have hv : v % 256 = v := Nat.mod_eq_of_lt (by omega)
  simp [feed, start, hv, h]

/-- The first byte of a character of two bytes. -/
theorem feed_none_two {v : Nat} (h : 0xC2 ≤ v) (h' : v < 0xE0) :
    feed none (UInt8.ofNat v) = ([], some ⟨1, v - 0xC0, 1, 0x80, 0xBF⟩) := by
  have hv : v % 256 = v := Nat.mod_eq_of_lt (by omega)
  simp only [feed, start, UInt8.toNat_ofNat', hv]
  rw [if_neg (by omega), if_neg (by omega), if_pos h']

/-- The first byte of a character of three bytes, which narrows the range of the second if it is the
    least one or the one before the surrogates. -/
theorem feed_none_three {v : Nat} (h : 0xE0 ≤ v) (h' : v < 0xF0) :
    feed none (UInt8.ofNat v) =
      ([], some ⟨1, v - 0xE0, 2, if v = 0xE0 then 0xA0 else 0x80,
        if v = 0xED then 0x9F else 0xBF⟩) := by
  have hv : v % 256 = v := Nat.mod_eq_of_lt (by omega)
  simp only [feed, start, UInt8.toNat_ofNat', hv]
  rw [if_neg (by omega), if_neg (by omega), if_neg (by omega), if_pos h']

/-- The first byte of a character of four bytes, which narrows the range of the second if it is the
    least or the greatest one. -/
theorem feed_none_four {v : Nat} (h : 0xF0 ≤ v) (h' : v < 0xF5) :
    feed none (UInt8.ofNat v) =
      ([], some ⟨1, v - 0xF0, 3, if v = 0xF0 then 0x90 else 0x80,
        if v = 0xF4 then 0x8F else 0xBF⟩) := by
  have hv : v % 256 = v := Nat.mod_eq_of_lt (by omega)
  simp only [feed, start, UInt8.toNat_ofNat', hv]
  rw [if_neg (by omega), if_neg (by omega), if_neg (by omega), if_neg (by omega), if_pos h']

/-! ### One character -/

/-- These bytes finish the character `c`, of which some bytes are read. -/
inductive Finishes (c : Char) : Pending → List UInt8 → Prop
  | last {p : Pending} {v : Nat} (one : p.missing = 1) (byte : v < 256) (low : p.low ≤ v)
    (high : v ≤ p.high) (value : p.value * 64 + (v - 0x80) = c.val.toNat) :
    Finishes c p [UInt8.ofNat v]
  | next {p : Pending} {v : Nat} {rest : List UInt8} (more : p.missing ≠ 1) (byte : v < 256)
    (low : p.low ≤ v) (high : v ≤ p.high)
    (others : Finishes c ⟨p.width + 1, p.value * 64 + (v - 0x80), p.missing - 1, 0x80, 0xBF⟩ rest) :
    Finishes c p (UInt8.ofNat v :: rest)

namespace Finishes

variable {c : Char} {p : Pending} {rest : List UInt8}

/-- All these bytes are read as the character, whatever follows them. -/
theorem sequencesFrom_append (h : Finishes c p rest) (bytes : List UInt8) :
    sequencesFrom (some p) (rest ++ bytes) = .scalar c :: sequencesFrom none bytes := by
  induction h with
  | last one byte low high value =>
    rw [List.singleton_append, sequencesFrom_last one byte low high, value]
    exact congrArg (fun c => Sequence.scalar c :: _) (Char.ofNat_toNat c)
  | next more byte low high _ ih =>
    rw [List.cons_append, sequencesFrom_next more byte low high, ih]

/-- Some of them, but not all, leave it cut off. -/
theorem sequencesFrom_take (h : Finishes c p rest) {k : Nat} (missing : k < rest.length) :
    sequencesFrom (some p) (rest.take k) = [.truncated (p.width + k)] := by
  induction h generalizing k with
  | last =>
    obtain rfl : k = 0 := Nat.lt_one_iff.mp missing
    rfl
  | next more byte low high _ ih =>
    cases k with
    | zero => rfl
    | succ k =>
      rw [List.take_succ_cons, sequencesFrom_next more byte low high,
        ih (Nat.lt_of_succ_lt_succ missing), Nat.add_assoc, Nat.add_comm 1 k]

end Finishes

/-- A character is one byte, or a first one and others that finish it. -/
theorem utf8EncodeChar_cases (c : Char) :
    (c.val.toNat < 0x80 ∧ String.utf8EncodeChar c = [UInt8.ofNat c.val.toNat]) ∨
      ∃ b rest p, String.utf8EncodeChar c = b :: rest ∧ feed none b = ([], some p) ∧
        p.width = 1 ∧ Finishes c p rest := by
  have valid : c.val.toNat.isValidChar := c.valid
  simp only [Nat.isValidChar] at valid
  unfold String.utf8EncodeChar
  generalize hv : c.val.toNat = v at *
  by_cases one : v ≤ 127
  · exact .inl ⟨by omega, if_pos one⟩
  by_cases two : v ≤ 2047
  · simp only [one, two, if_true, if_false]
    refine .inr ⟨_, _, _, rfl, feed_none_two (by omega) (by omega), rfl,
      .last rfl (by omega) ?_ ?_ ?_⟩
    all_goals simp only []
    all_goals omega
  by_cases three : v ≤ 65535
  · simp only [one, two, three, if_true, if_false]
    refine .inr ⟨_, _, _, rfl, feed_none_three (by omega) (by omega), rfl,
      .next (by simp) (by omega) ?_ ?_ (.last rfl (by omega) ?_ ?_ ?_)⟩
    · simp only []
      split <;> omega
    · simp only []
      split <;> omega
    all_goals simp only []
    all_goals omega
  · simp only [one, two, three, if_false]
    refine .inr ⟨_, _, _, rfl, feed_none_four (by omega) (by omega), rfl,
      .next (by simp) (by omega) ?_ ?_ (.next (by simp) (by omega) ?_ ?_
        (.last rfl (by omega) ?_ ?_ ?_))⟩
    · simp only []
      split <;> omega
    · simp only []
      split <;> omega
    all_goals simp only []
    all_goals omega

/-- The bytes of a character are read as this character, whatever follows them. -/
theorem sequencesFrom_utf8EncodeChar (c : Char) (bytes : List UInt8) :
    sequencesFrom none (String.utf8EncodeChar c ++ bytes)
      = .scalar c :: sequencesFrom none bytes := by
  rcases utf8EncodeChar_cases c with ⟨one, written⟩ | ⟨b, rest, p, written, first, -, finishes⟩
  · rw [written, List.singleton_append, sequencesFrom_cons, feed_none_one one]
    exact congrArg (fun c => Sequence.scalar c :: _) (Char.ofNat_toNat c)
  · rw [written, List.cons_append, sequencesFrom_cons, first]
    exact finishes.sequencesFrom_append bytes

/-- Some bytes of a character, but not all, are the beginning of one that is cut off. -/
theorem sequencesFrom_take_utf8EncodeChar (c : Char) {k : Nat} (begun : 0 < k)
    (missing : k < (String.utf8EncodeChar c).length) :
    sequencesFrom none ((String.utf8EncodeChar c).take k) = [.truncated k] := by
  obtain ⟨k, rfl⟩ : ∃ n, k = n + 1 := ⟨k - 1, by omega⟩
  rcases utf8EncodeChar_cases c with ⟨-, written⟩ | ⟨b, rest, p, written, first, width, finishes⟩
  · rw [written, List.length_singleton] at missing
    omega
  · rw [written] at missing
    rw [written, List.take_succ_cons, sequencesFrom_cons, first]
    have cut := finishes.sequencesFrom_take (Nat.lt_of_succ_lt_succ missing)
    rwa [width, Nat.add_comm 1 k] at cut

/-! ### Texts -/

/-- The bytes of a text are cut into its characters, whatever follows them. -/
theorem sequencesFrom_encode_append (text : List Char) (bytes : List UInt8) :
    sequencesFrom none (encode text ++ bytes) = text.map .scalar ++ sequencesFrom none bytes := by
  induction text with
  | nil => rfl
  | cons c text ih =>
    rw [encode_cons, List.append_assoc, sequencesFrom_utf8EncodeChar, ih, List.map_cons,
      List.cons_append]

/-- The bytes of a text are cut into its characters. -/
theorem sequences_encode (text : List Char) : sequences (encode text) = text.map .scalar := by
  have cut := sequencesFrom_encode_append text []
  rw [List.append_nil] at cut
  rw [sequences, cut]
  exact List.append_nil _

theorem characters_map_scalar (index : Nat) (text : List Char) :
    characters index (text.map .scalar) = .ok text := by
  induction text generalizing index with
  | nil => rfl
  | cons c text ih => simp [characters, ih]

/-- Strict reading gives back what was written. -/
@[simp] theorem decode_encode (text : List Char) : decode (encode text) = .ok text := by
  rw [decode, sequences_encode, characters_map_scalar]

/-- Total reading gives back what was written. -/
@[simp] theorem decodeLossy_encode (text : List Char) : decodeLossy (encode text) = text := by
  simp [decodeLossy, sequences_encode, Function.comp_def, Sequence.orReplacement]

/-- Total reading replaces a character that is cut off at the end by one U+FFFD. -/
theorem decodeLossy_encode_append_take (text : List Char) (c : Char) {k : Nat} (begun : 0 < k)
    (missing : k < (String.utf8EncodeChar c).length) :
    decodeLossy (encode text ++ (String.utf8EncodeChar c).take k) = text ++ ['\uFFFD'] := by
  rw [decodeLossy, sequences, sequencesFrom_encode_append,
    sequencesFrom_take_utf8EncodeChar c begun missing]
  simp [Function.comp_def, Sequence.orReplacement]

end DatabaseLogon.Utf8
