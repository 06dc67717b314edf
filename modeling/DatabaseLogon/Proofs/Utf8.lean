import DatabaseLogon.Text.Utf8.Lemmas

namespace DatabaseLogon.Utf8

/-!
# Strict reading of UTF-8 is faithful

What strict reading accepts is written with the same bytes again. So the bytes tell which ASCII
characters a text that was read holds.

* `utf8EncodeChar_two`, `utf8EncodeChar_three`, `utf8EncodeChar_four` — the bytes of a character,
  told by the bits in them.
* `exists_last`, `exists_next` — what follows an unfinished character in a text that is read.
* `begins` — the first character of a text that is read is written with the first bytes again.
* `encode_of_decode` — reading and then writing changes nothing.
* `mem_of_mem_encode`, `mem_encode_of_mem` — an ASCII byte stands for the ASCII character.
* `length_encode_append`, `length_encode_cons` — the number of bytes of a text.
-/

/-! ### The bytes of a character -/

theorem toNat_ofNat {n : Nat} (h : n.isValidChar) : (Char.ofNat n).val.toNat = n := by
  rw [Char.ofNat, dif_pos h]
  rfl

/-- The character of a byte has its number. -/
theorem toNat_ofNat_toNat (b : UInt8) : (Char.ofNat b.toNat).toNat = b.toNat :=
  toNat_ofNat (.inl (by have := b.toNat_lt; omega))

theorem utf8EncodeChar_one {v : Nat} (h : v < 0x80) :
    String.utf8EncodeChar (Char.ofNat v) = [UInt8.ofNat v] := by
  have hv : (Char.ofNat v).val.toNat = v := toNat_ofNat (.inl (by omega))
  unfold String.utf8EncodeChar
  dsimp only
  rw [hv, if_pos (by omega)]

theorem utf8EncodeChar_two {v x y : Nat} (h : 0x80 ≤ v) (h' : v < 0x800)
    (hx : x = v / 64 + 0xC0) (hy : y = v % 64 + 0x80) :
    String.utf8EncodeChar (Char.ofNat v) = [UInt8.ofNat x, UInt8.ofNat y] := by
  have hv : (Char.ofNat v).val.toNat = v := toNat_ofNat (.inl (by omega))
  unfold String.utf8EncodeChar
  dsimp only
  rw [hv, if_neg (by omega), if_pos (by omega), hx, hy, Nat.mod_eq_of_lt (b := 32) (by omega)]

theorem utf8EncodeChar_three {v x y z : Nat} (valid : v.isValidChar) (h : 0x800 ≤ v)
    (h' : v < 0x10000) (hx : x = v / 4096 + 0xE0) (hy : y = v / 64 % 64 + 0x80)
    (hz : z = v % 64 + 0x80) :
    String.utf8EncodeChar (Char.ofNat v) = [UInt8.ofNat x, UInt8.ofNat y, UInt8.ofNat z] := by
  have hv : (Char.ofNat v).val.toNat = v := toNat_ofNat valid
  unfold String.utf8EncodeChar
  dsimp only
  rw [hv, if_neg (by omega), if_neg (by omega), if_pos (by omega), hx, hy, hz,
    Nat.mod_eq_of_lt (b := 16) (by omega)]

theorem utf8EncodeChar_four {v x y z u : Nat} (h : 0x10000 ≤ v) (h' : v < 0x110000)
    (hx : x = v / 262144 + 0xF0) (hy : y = v / 4096 % 64 + 0x80) (hz : z = v / 64 % 64 + 0x80)
    (hu : u = v % 64 + 0x80) :
    String.utf8EncodeChar (Char.ofNat v)
      = [UInt8.ofNat x, UInt8.ofNat y, UInt8.ofNat z, UInt8.ofNat u] := by
  have hv : (Char.ofNat v).val.toNat = v := toNat_ofNat (.inr (by omega))
  unfold String.utf8EncodeChar
  dsimp only
  rw [hv, if_neg (by omega), if_neg (by omega), if_neg (by omega), hx, hy, hz, hu,
    Nat.mod_eq_of_lt (b := 8) (by omega)]

/-! ### Unfinished characters -/

variable {p : Pending} {bytes : List UInt8} {index : Nat} {text : List Char}

/-- A character at the front is the first of the text. -/
theorem characters_scalar {c : Char} {rest : List Sequence}
    (h : characters index (.scalar c :: rest) = .ok text) :
    ∃ text', text = c :: text' ∧ characters (index + c.utf8Size) rest = .ok text' := by
  rw [characters] at h
  cases hrest : characters (index + c.utf8Size) rest with
  | error f =>
    rw [hrest] at h
    cases h
  | ok text' =>
    rw [hrest] at h
    cases h
    exact ⟨text', rfl, rfl⟩

/-- If a text is read, an unfinished character is followed by a byte in the range that it asks
    for. -/
theorem exists_within (h : characters index (sequencesFrom (some p) bytes) = .ok text) :
    ∃ v rest, v < 256 ∧ p.low ≤ v ∧ v ≤ p.high ∧ bytes = UInt8.ofNat v :: rest := by
  cases bytes with
  | nil => cases h
  | cons b rest =>
    by_cases within : p.low ≤ b.toNat ∧ b.toNat ≤ p.high
    · exact ⟨b.toNat, rest, b.toNat_lt, within.1, within.2, by simp⟩
    · rw [sequencesFrom_cons, feed, if_neg within] at h
      cases h

variable {width value missing low high : Nat}

/-- A character of which one byte is missing. -/
theorem exists_last
    (h : characters index (sequencesFrom (some ⟨width, value, 1, low, high⟩) bytes) = .ok text) :
    ∃ v rest text' index', low ≤ v ∧ v ≤ high ∧ bytes = UInt8.ofNat v :: rest ∧
      text = Char.ofNat (value * 64 + (v - 0x80)) :: text' ∧
      characters index' (sequencesFrom none rest) = .ok text' := by
  obtain ⟨v, rest, hv, hlow, hhigh, rfl⟩ := exists_within h
  rw [sequencesFrom_last rfl hv hlow hhigh] at h
  obtain ⟨text', rfl, hrest⟩ := characters_scalar h
  exact ⟨v, rest, text', _, hlow, hhigh, rfl, rfl, hrest⟩

/-- A character of which more bytes are missing. -/
theorem exists_next (hmissing : missing ≠ 1)
    (h : characters index (sequencesFrom (some ⟨width, value, missing, low, high⟩) bytes)
      = .ok text) :
    ∃ v rest, low ≤ v ∧ v ≤ high ∧ bytes = UInt8.ofNat v :: rest ∧
      characters index (sequencesFrom
        (some ⟨width + 1, value * 64 + (v - 0x80), missing - 1, 0x80, 0xBF⟩) rest) = .ok text := by
  obtain ⟨v, rest, hv, hlow, hhigh, rfl⟩ := exists_within h
  rw [sequencesFrom_next hmissing hv hlow hhigh] at h
  exact ⟨v, rest, hlow, hhigh, rfl, h⟩

/-! ### Whole texts -/

/-- The first character of a text is written with the first bytes, and what follows these bytes is
    read as the rest of the text. -/
def Begins (bytes : List UInt8) (text : List Char) : Prop :=
  ∃ c rest text' index', text = c :: text' ∧ bytes = String.utf8EncodeChar c ++ rest ∧
    characters index' (sequencesFrom none rest) = .ok text'

variable {v : Nat}

theorem begins_one (one : v < 0x80)
    (h : characters index (sequencesFrom none (UInt8.ofNat v :: bytes)) = .ok text) :
    Begins (UInt8.ofNat v :: bytes) text := by
  rw [sequencesFrom_cons, feed_none_one one] at h
  obtain ⟨text', rfl, hrest⟩ := characters_scalar h
  have written : UInt8.ofNat v :: bytes = String.utf8EncodeChar (Char.ofNat v) ++ bytes := by
    rw [utf8EncodeChar_one one]
    rfl
  exact ⟨_, bytes, text', _, rfl, written, hrest⟩

theorem begins_two (least : 0xC2 ≤ v) (most : v < 0xE0)
    (h : characters index (sequencesFrom none (UInt8.ofNat v :: bytes)) = .ok text) :
    Begins (UInt8.ofNat v :: bytes) text := by
  rw [sequencesFrom_cons, feed_none_two least most] at h
  obtain ⟨v₂, rest, text', index', low₂, high₂, rfl, rfl, hrest⟩ := exists_last h
  have written := utf8EncodeChar_two (v := (v - 0xC0) * 64 + (v₂ - 0x80)) (x := v) (y := v₂)
    (by omega) (by omega) (by omega) (by omega)
  refine ⟨_, rest, text', index', rfl, ?_, hrest⟩
  rw [written]
  rfl

theorem begins_three (least : 0xE0 ≤ v) (most : v < 0xF0)
    (h : characters index (sequencesFrom none (UInt8.ofNat v :: bytes)) = .ok text) :
    Begins (UInt8.ofNat v :: bytes) text := by
  rw [sequencesFrom_cons, feed_none_three least most] at h
  obtain ⟨v₂, rest₂, low₂, high₂, rfl, h₂⟩ := exists_next (by decide) h
  obtain ⟨v₃, rest, text', index', low₃, high₃, rfl, rfl, hrest⟩ := exists_last h₂
  -- the narrow ranges of the second byte keep out overlong forms and surrogates
  have wide : (v = 0xE0 → 0xA0 ≤ v₂) ∧ 0x80 ≤ v₂ := by split at low₂ <;> omega
  have narrow : (v = 0xED → v₂ ≤ 0x9F) ∧ v₂ ≤ 0xBF := by split at high₂ <;> omega
  have valid : (((v - 0xE0) * 64 + (v₂ - 0x80)) * 64 + (v₃ - 0x80)).isValidChar := by
    unfold Nat.isValidChar
    omega
  have written := utf8EncodeChar_three (x := v) (y := v₂) (z := v₃) valid
    (by omega) (by omega) (by omega) (by omega) (by omega)
  refine ⟨_, rest, text', index', rfl, ?_, hrest⟩
  rw [written]
  rfl

theorem begins_four (least : 0xF0 ≤ v) (most : v < 0xF5)
    (h : characters index (sequencesFrom none (UInt8.ofNat v :: bytes)) = .ok text) :
    Begins (UInt8.ofNat v :: bytes) text := by
  rw [sequencesFrom_cons, feed_none_four least most] at h
  obtain ⟨v₂, rest₂, low₂, high₂, rfl, h₂⟩ := exists_next (by decide) h
  obtain ⟨v₃, rest₃, low₃, high₃, rfl, h₃⟩ := exists_next (by decide) h₂
  obtain ⟨v₄, rest, text', index', low₄, high₄, rfl, rfl, hrest⟩ := exists_last h₃
  -- the narrow ranges of the second byte keep out overlong forms and what lies past U+10FFFF
  have wide : (v = 0xF0 → 0x90 ≤ v₂) ∧ 0x80 ≤ v₂ := by split at low₂ <;> omega
  have narrow : (v = 0xF4 → v₂ ≤ 0x8F) ∧ v₂ ≤ 0xBF := by split at high₂ <;> omega
  have written := utf8EncodeChar_four
    (v := (((v - 0xF0) * 64 + (v₂ - 0x80)) * 64 + (v₃ - 0x80)) * 64 + (v₄ - 0x80))
    (x := v) (y := v₂) (z := v₃) (u := v₄)
    (by omega) (by omega) (by omega) (by omega) (by omega) (by omega)
  refine ⟨_, rest, text', index', rfl, ?_, hrest⟩
  rw [written]
  rfl

/-- No other byte begins a character. -/
theorem feed_none_malformed (hv : v < 256) (one : ¬ v < 0x80) (two : ¬ (0xC2 ≤ v ∧ v < 0xE0))
    (three : ¬ (0xE0 ≤ v ∧ v < 0xF0)) (four : ¬ (0xF0 ≤ v ∧ v < 0xF5)) :
    feed none (UInt8.ofNat v) = ([.malformed 1], none) := by
  have mod : v % 256 = v := Nat.mod_eq_of_lt hv
  simp only [feed, start, UInt8.toNat_ofNat', mod]
  by_cases low : v < 0xC2
  · rw [if_neg one, if_pos low]
  · rw [if_neg one, if_neg low, if_neg (by omega), if_neg (by omega), if_neg (by omega)]

/-- A text that is read begins with its first character. -/
theorem begins {b : UInt8}
    (h : characters index (sequencesFrom none (b :: bytes)) = .ok text) :
    Begins (b :: bytes) text := by
  obtain ⟨v, hv, rfl⟩ : ∃ v, v < 256 ∧ b = UInt8.ofNat v := ⟨b.toNat, b.toNat_lt, by simp⟩
  by_cases one : v < 0x80
  · exact begins_one one h
  by_cases two : 0xC2 ≤ v ∧ v < 0xE0
  · exact begins_two two.1 two.2 h
  by_cases three : 0xE0 ≤ v ∧ v < 0xF0
  · exact begins_three three.1 three.2 h
  by_cases four : 0xF0 ≤ v ∧ v < 0xF5
  · exact begins_four four.1 four.2 h
  · rw [sequencesFrom_cons, feed_none_malformed hv one two three four] at h
    cases h

/-- Behind any index, too, what is read is written with the same bytes. -/
theorem encode_of_characters (h : characters index (sequencesFrom none bytes) = .ok text) :
    encode text = bytes := by
  induction hn : bytes.length using Nat.strongRecOn generalizing bytes index text with
  | _ n ih =>
    subst hn
    cases bytes with
    | nil =>
      cases h
      rfl
    | cons b bytes =>
      obtain ⟨c, rest, text', index', rfl, written, hrest⟩ := begins h
      -- a character has at least one byte, so what is left is shorter
      have shorter : rest.length < (b :: bytes).length := by
        have positive : 0 < (String.utf8EncodeChar c).length := by
          rw [String.length_utf8EncodeChar]
          exact c.utf8Size_pos
        rw [written, List.length_append]
        omega
      rw [encode_cons, ih _ shorter hrest rfl, written]

/-- **What strict reading accepts is written with the same bytes again.** -/
theorem encode_of_decode (h : decode bytes = .ok text) : encode text = bytes :=
  encode_of_characters h

/-- Only the bytes of ASCII characters are ASCII. -/
theorem toNat_of_mem_utf8EncodeChar {c : Char} {b : UInt8} (mem : b ∈ String.utf8EncodeChar c)
    (ascii : b.toNat < 0x80) : c.toNat = b.toNat := by
  have valid : c.val.toNat.isValidChar := c.valid
  show c.val.toNat = b.toNat
  unfold String.utf8EncodeChar Nat.isValidChar at *
  generalize c.val.toNat = v at *
  dsimp only at mem
  by_cases one : v ≤ 127
  · rw [if_pos one, List.mem_singleton] at mem
    subst mem
    exact (Nat.mod_eq_of_lt (by omega)).symm
  · -- every byte of a longer form has its highest bit set
    exfalso
    rw [if_neg one] at mem
    split at mem
    · simp only [List.mem_cons, List.not_mem_nil, or_false] at mem
      rcases mem with rfl | rfl <;> rw [UInt8.toNat_ofNat'] at ascii <;> omega
    split at mem
    · simp only [List.mem_cons, List.not_mem_nil, or_false] at mem
      rcases mem with rfl | rfl | rfl <;> rw [UInt8.toNat_ofNat'] at ascii <;> omega
    · simp only [List.mem_cons, List.not_mem_nil, or_false] at mem
      rcases mem with rfl | rfl | rfl | rfl <;> rw [UInt8.toNat_ofNat'] at ascii <;> omega

/-- An ASCII byte in a text stands for the ASCII character. -/
theorem mem_of_mem_encode {b : UInt8} (mem : b ∈ encode text) (ascii : b.toNat < 0x80) :
    Char.ofNat b.toNat ∈ text := by
  obtain ⟨c, hc, hb⟩ := List.mem_flatMap.mp mem
  rw [← toNat_of_mem_utf8EncodeChar hb ascii, Char.ofNat_toNat]
  exact hc

/-- An ASCII character is one byte. -/
theorem utf8EncodeChar_ascii {c : Char} (ascii : c.toNat < 0x80) :
    String.utf8EncodeChar c = [UInt8.ofNat c.toNat] := by
  rw [← utf8EncodeChar_one ascii, Char.ofNat_toNat]

/-- An ASCII character in a text is written as its byte. -/
theorem mem_encode_of_mem {c : Char} (mem : c ∈ text) (ascii : c.toNat < 0x80) :
    UInt8.ofNat c.toNat ∈ encode text := by
  apply List.mem_flatMap.mpr
  refine ⟨c, mem, ?_⟩
  rw [utf8EncodeChar_ascii ascii]
  exact List.mem_singleton.mpr rfl

/-! ### Lengths -/

theorem length_encode_append (a b : List Char) :
    (encode (a ++ b)).length = (encode a).length + (encode b).length := by
  rw [encode_append, List.length_append]

theorem length_encode_cons (c : Char) (text : List Char) :
    (encode (c :: text)).length = c.utf8Size + (encode text).length := by
  rw [encode_cons, List.length_append, String.length_utf8EncodeChar]

end DatabaseLogon.Utf8
