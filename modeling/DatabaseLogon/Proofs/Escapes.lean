import DatabaseLogon.Proofs.Utf8
import DatabaseLogon.Text.Percent

namespace DatabaseLogon.Percent

/-!
# Reading escapes that were written

A text that is written piece by piece, without a stray `%`, is cut into the same pieces again. All
the ways of escaping a text write such pieces, and differ only in the bytes that they keep.

* `Piece.Clean` — a piece that a reader finds again, whatever follows it.
* `pieces_spelling` — clean pieces are found again.
* `written` — the piece that stands for a byte, where the bytes that `keep` accepts are plain.
* `encode_eq_spelling` — escaping a byte list writes these pieces.
* `not_mem_encode` — the characters that do not occur in what is written.
-/

/-- To try all bytes is to try all numbers below 256. -/
theorem forall_byte {p : UInt8 → Prop} (h : ∀ n < 256, p (UInt8.ofNat n)) (b : UInt8) : p b := by
  rw [← UInt8.ofNat_toNat (x := b)]
  exact h b.toNat b.toNat_lt

/-! ### Clean pieces -/

/-- A piece that a reader finds again: a plain byte that opens no escape, or an escape with two
    digits. -/
def Piece.Clean : Piece → Prop
  | .plain b => b ≠ mark
  | .escape high low => isDigit high ∧ isDigit low

theorem pieces_cons_plain {b : UInt8} (h : b ≠ mark) (rest : List UInt8) :
    pieces (b :: rest) = .plain b :: pieces rest := by
  -- an escape takes three bytes, so the cut looks at two more
  rcases rest with _ | ⟨c, _ | ⟨d, rest⟩⟩
  · rfl
  · rfl
  · rw [pieces, if_neg]
    exact fun opens => h opens.1

theorem pieces_cons_escape {high low : UInt8} (h : isDigit high ∧ isDigit low)
    (rest : List UInt8) :
    pieces (mark :: high :: low :: rest) = .escape high low :: pieces rest := by
  rw [pieces, if_pos ⟨rfl, h.1, h.2⟩]

/-- Clean pieces are found again in what they write. -/
theorem pieces_spelling {ps : List Piece} (clean : ∀ p ∈ ps, p.Clean) :
    pieces (spelling ps) = ps := by
  induction ps with
  | nil => rfl
  | cons p ps ih =>
    have first := clean p List.mem_cons_self
    have rest := ih fun p hp => clean p (List.mem_cons_of_mem _ hp)
    cases p with
    | plain b =>
      show pieces (b :: spelling ps) = _
      rw [pieces_cons_plain first, rest]
    | escape high low =>
      show pieces (mark :: high :: low :: spelling ps) = _
      rw [pieces_cons_escape first, rest]

/-- There is no stray `%` among clean pieces. -/
theorem stray?_eq_none {ps : List Piece} (clean : ∀ p ∈ ps, p.Clean) : stray? ps = none := by
  induction ps with
  | nil => rfl
  | cons p ps ih =>
    have first : p ≠ .plain mark := by
      rintro rfl
      exact clean _ List.mem_cons_self rfl
    rw [stray?, if_neg first]
    exact ih fun p hp => clean p (List.mem_cons_of_mem _ hp)

/-! ### Written pieces -/

/-- The byte of an upper-case hexadecimal digit. -/
def digitByte (n : Nat) : UInt8 :=
  UInt8.ofNat (digit n).toNat

theorem digitValue?_digitByte {n : Nat} (h : n < 16) :
    digitValue? (digitByte n) = some (UInt8.ofNat n) := by
  have : ∀ n < 16, digitValue? (digitByte n) = some (UInt8.ofNat n) := by decide
  exact this n h

theorem isDigit_digitByte {n : Nat} (h : n < 16) : isDigit (digitByte n) := by
  rw [isDigit, digitValue?_digitByte h]
  rfl

/-- The piece that stands for a byte: the byte itself if it is kept, else its escape. -/
def written (keep : UInt8 → Bool) (b : UInt8) : Piece :=
  if keep b then .plain b else .escape (digitByte (b.toNat / 16)) (digitByte (b.toNat % 16))

variable {keep : UInt8 → Bool}

theorem clean_written (hmark : keep mark = false) (b : UInt8) : (written keep b).Clean := by
  have hb : b.toNat < 256 := b.toNat_lt
  unfold written
  by_cases h : keep b
  · rw [if_pos h]
    rintro rfl
    rw [hmark] at h
    cases h
  · rw [if_neg h]
    exact ⟨isDigit_digitByte (by omega), isDigit_digitByte (by omega)⟩

variable (keep)

/-- A written piece stands for its byte. -/
theorem byte_written (b : UInt8) : (written keep b).byte = b := by
  have hb : b.toNat < 256 := b.toNat_lt
  unfold written
  by_cases h : keep b
  · rw [if_pos h]
    rfl
  · rw [if_neg h, Piece.byte, digitValue?_digitByte (by omega), digitValue?_digitByte (by omega)]
    apply UInt8.toNat_inj.mp
    simp only [Option.getD_some, UInt8.toNat_add, UInt8.toNat_mul, UInt8.toNat_ofNat',
      UInt8.toNat_ofNat]
    omega

/-- What is written for a byte list is read as these bytes, and nothing in it is stray. -/
theorem read_written (hmark : keep mark = false) (bytes : List UInt8) :
    pieces (spelling (bytes.map (written keep))) = bytes.map (written keep) ∧
      stray? (bytes.map (written keep)) = none ∧
      (bytes.map (written keep)).map Piece.byte = bytes := by
  have clean : ∀ p ∈ bytes.map (written keep), p.Clean := by
    intro p hp
    obtain ⟨b, -, rfl⟩ := List.mem_map.mp hp
    exact clean_written hmark b
  refine ⟨pieces_spelling clean, stray?_eq_none clean, ?_⟩
  rw [List.map_map]
  exact List.map_id'' (fun b => byte_written keep b) bytes

variable {keep}

/-! ### Escaping -/

/-- Every byte of what is written is the byte of an ASCII character. -/
theorem encode_escape (b : UInt8) :
    Utf8.encode (escape b)
      = [mark, digitByte (b.toNat / 16), digitByte (b.toNat % 16)] := by
  have hb : b.toNat < 256 := b.toNat_lt
  have ascii {n : Nat} (h : n < 16) : String.utf8EncodeChar (digit n) = [digitByte n] := by
    have : ∀ n < 16, (digit n).toNat < 0x80 := by decide
    exact Utf8.utf8EncodeChar_ascii (this n h)
  rw [escape, Utf8.encode_cons, Utf8.encode_cons, Utf8.encode_cons, ascii (by omega),
    ascii (by omega)]
  rfl

/-- To escape a byte list is to write its pieces. -/
theorem encode_eq_spelling (ascii : ∀ b, keep b → b.toNat < 0x80) (bytes : List UInt8) :
    Utf8.encode (encode keep bytes) = spelling (bytes.map (written keep)) := by
  induction bytes with
  | nil => rfl
  | cons b bytes ih =>
    have first : Utf8.encode (if keep b then [Char.ofNat b.toNat] else escape b)
        = (written keep b).spelling := by
      unfold written
      by_cases h : keep b
      · rw [if_pos h, if_pos h, Utf8.encode_cons, Utf8.utf8EncodeChar_one (ascii b h)]
        simp [Piece.spelling]
      · rw [if_neg h, if_neg h, encode_escape]
        rfl
    rw [encode, List.flatMap_cons, Utf8.encode_append, first]
    show _ ++ Utf8.encode (encode keep bytes) = _
    rw [ih]
    rfl

/-- A character that is neither kept nor part of an escape does not occur in what is written. -/
theorem not_mem_encode {c : Char} (hc : c.toNat < 0x80) (hmark : c ≠ '%')
    (hdigit : ∀ n < 16, digit n ≠ c) (hkeep : keep (UInt8.ofNat c.toNat) = false)
    (bytes : List UInt8) : c ∉ encode keep bytes := by
  intro mem
  obtain ⟨b, -, hb⟩ := List.mem_flatMap.mp mem
  have lt : b.toNat < 256 := b.toNat_lt
  split at hb
  next kept =>
    have same : b = UInt8.ofNat c.toNat := by
      rw [List.mem_singleton.mp hb]
      apply UInt8.toNat_inj.mp
      show _ = (UInt8.ofNat (Char.ofNat b.toNat).val.toNat).toNat
      rw [Utf8.toNat_ofNat (.inl (by omega)), UInt8.ofNat_toNat]
    rw [same, hkeep] at kept
    cases kept
  next escaped =>
    rcases List.mem_cons.mp hb with rfl | hb
    · exact hmark rfl
    rcases List.mem_cons.mp hb with rfl | hb
    · exact hdigit (b.toNat / 16) (by omega) rfl
    · exact hdigit (b.toNat % 16) (by omega) (List.mem_singleton.mp hb).symm

end DatabaseLogon.Percent
