import DatabaseLogon.Proofs.RoundTrip

namespace DatabaseLogon

/-!
# Spellings

What an escaped text stands for, told character by character. The readers work on bytes instead, cut
them into pieces, look for stray marks first and decode last; here is shown that they accept exactly
the spellings and read off what is spelled.

* `Percent.HexDigit` — the hexadecimal digits of either case.
* `Percent.Spells` — a text spells a byte list; what may stand for itself and what may be escaped is
  left open.
* `Percent.Judges` — a test of pieces that agrees with what is left open.
* `Percent.Spells.pieces`, `Percent.spells_of_pieces` — spellings are the texts whose pieces are
  sound and none of them stray.
* `Dsn.readComponent_eq_ok_iff`, `Dsn.readHost_eq_ok_iff` — the readers of the parts.
-/

/-! ### Bytes of a text -/

/-- An ASCII byte at the front of a text is its first character. -/
theorem Utf8.exists_cons_of_encode_eq_cons {text : List Char} {b : UInt8} {bytes : List UInt8}
    (h : encode text = b :: bytes) (ascii : b.toNat < 0x80) :
    ∃ rest, text = Char.ofNat b.toNat :: rest ∧ encode rest = bytes := by
  cases text with
  | nil => cases h
  | cons c rest =>
    -- a character has at least one byte, so the first byte of the text is the first of `c`
    have nonempty : String.utf8EncodeChar c ≠ [] := by
      rw [← List.length_pos_iff, String.length_utf8EncodeChar]
      exact c.utf8Size_pos
    obtain ⟨first, others, written⟩ := List.exists_cons_of_ne_nil nonempty
    rw [encode_cons, written] at h
    obtain rfl : first = b := (List.cons.inj h).1
    have value : c.toNat = first.toNat :=
      toNat_of_mem_utf8EncodeChar (written ▸ List.mem_cons_self) ascii
    rw [utf8EncodeChar_ascii (by omega)] at written
    obtain rfl : [] = others := (List.cons.inj written).2
    refine ⟨rest, ?_, (List.cons.inj h).2⟩
    rw [← value, Char.ofNat_toNat]

namespace Percent

/-! ### Digits -/

/-- The hexadecimal digits of either case with their values. -/
def hexDigits : List (Char × Nat) :=
  "0123456789abcdef".toList.zipIdx ++ "ABCDEF".toList.zipIdx 10

/-- A character is a hexadecimal digit of this value. -/
def HexDigit (c : Char) (n : Nat) : Prop :=
  (c, n) ∈ hexDigits

/-- A digit is an ASCII character, and its byte has its value. -/
theorem HexDigit.byte {c : Char} {n : Nat} (h : HexDigit c n) :
    c.toNat < 0x80 ∧ digitValue? (UInt8.ofNat c.toNat) = some (UInt8.ofNat n) := by
  have all : ∀ d ∈ hexDigits, d.1.toNat < 0x80 ∧
      digitValue? (UInt8.ofNat d.1.toNat) = some (UInt8.ofNat d.2) := by decide
  exact all (c, n) h

theorem HexDigit.isDigit {c : Char} {n : Nat} (h : HexDigit c n) :
    isDigit (UInt8.ofNat c.toNat) := by
  rw [Percent.isDigit, h.byte.2]
  rfl

/-- A byte that is a digit is that of a digit character. -/
theorem hexDigit_of_isDigit {b : UInt8} :
    isDigit b → b.toNat < 0x80 ∧ ∃ n < 16, HexDigit (Char.ofNat b.toNat) n := by
  apply forall_byte
    (p := fun b => isDigit b → b.toNat < 0x80 ∧ ∃ n < 16, HexDigit (Char.ofNat b.toNat) n)
  unfold HexDigit
  decide +kernel

/-! ### Spellings -/

/-- A text spells a byte list: every `%` begins an escape with two hexadecimal digits, and any other
    character stands for its own bytes. Characters that stand for themselves have to satisfy
    `plain`, and bytes that are escaped have to satisfy `escaped`. -/
inductive Spells (plain : Char → Prop) (escaped : UInt8 → Prop) : List Char → List UInt8 → Prop
  | done : Spells plain escaped [] []
  | plain {c : Char} {text : List Char} {bytes : List UInt8} (other : c ≠ '%') (allowed : plain c)
    (rest : Spells plain escaped text bytes) :
    Spells plain escaped (c :: text) (String.utf8EncodeChar c ++ bytes)
  | escape {high low : Char} {h l : Nat} {text : List Char} {bytes : List UInt8}
    (first : HexDigit high h) (second : HexDigit low l)
    (allowed : escaped (UInt8.ofNat (h * 16 + l))) (rest : Spells plain escaped text bytes) :
    Spells plain escaped ('%' :: high :: low :: text) (UInt8.ofNat (h * 16 + l) :: bytes)

/-- A test of pieces agrees with what may stand for itself and what may be escaped. -/
structure Judges (plain : Char → Prop) (escaped : UInt8 → Prop) (sound : Piece → Prop) : Prop where
  plain : ∀ c, c ≠ '%' → (plain c ↔ ∀ b ∈ String.utf8EncodeChar c, sound (.plain b))
  escape : ∀ high low, isDigit high → isDigit low →
    (escaped (Piece.escape high low).byte ↔ sound (.escape high low))

/-! ### Pieces of a text -/

/-- No byte of a character other than `%` is a mark. -/
theorem ne_mark_of_mem {c : Char} (h : c ≠ '%') {b : UInt8} (mem : b ∈ String.utf8EncodeChar c) :
    b ≠ mark := by
  rintro rfl
  have value := Utf8.toNat_of_mem_utf8EncodeChar mem (by decide)
  apply h
  rw [← Char.ofNat_toNat c, value]
  rfl

theorem pieces_append_plain {bytes : List UInt8} (h : ∀ b ∈ bytes, b ≠ mark)
    (rest : List UInt8) : pieces (bytes ++ rest) = bytes.map .plain ++ pieces rest := by
  induction bytes with
  | nil => rfl
  | cons b bytes ih =>
    rw [List.cons_append, pieces_cons_plain (h b List.mem_cons_self),
      ih fun b hb => h b (List.mem_cons_of_mem _ hb)]
    rfl

/-- A character other than `%` is cut into plain pieces. -/
theorem pieces_encode_plain {c : Char} (h : c ≠ '%') (text : List Char) :
    pieces (Utf8.encode (c :: text))
      = (String.utf8EncodeChar c).map .plain ++ pieces (Utf8.encode text) :=
  pieces_append_plain (fun _ hb => ne_mark_of_mem h hb) _

variable {high low : Char} {h l : Nat}

/-- An escape is cut into one piece. -/
theorem pieces_encode_escape (first : HexDigit high h) (second : HexDigit low l)
    (text : List Char) :
    pieces (Utf8.encode ('%' :: high :: low :: text))
      = .escape (UInt8.ofNat high.toNat) (UInt8.ofNat low.toNat) :: pieces (Utf8.encode text) := by
  rw [Utf8.encode_cons, Utf8.encode_cons, Utf8.encode_cons,
    Utf8.utf8EncodeChar_ascii first.byte.1, Utf8.utf8EncodeChar_ascii second.byte.1]
  exact pieces_cons_escape ⟨first.isDigit, second.isDigit⟩ _

/-- The piece of an escape stands for the byte that its digits tell. -/
theorem byte_escape (first : HexDigit high h) (second : HexDigit low l) :
    (Piece.escape (UInt8.ofNat high.toNat) (UInt8.ofNat low.toNat)).byte
      = UInt8.ofNat (h * 16 + l) := by
  rw [Piece.byte, first.byte.2, second.byte.2, Option.getD_some, Option.getD_some,
    UInt8.ofNat_add, UInt8.ofNat_mul]
  rfl

/-- A `%` that is not stray begins an escape. -/
theorem exists_escape_of_stray? {text : List Char}
    (stray : stray? (pieces (Utf8.encode ('%' :: text))) = none) :
    ∃ high low h l rest, text = high :: low :: rest ∧ HexDigit high h ∧ HexDigit low l := by
  replace stray : stray? (pieces (mark :: Utf8.encode text)) = none := stray
  rcases hbytes : Utf8.encode text with _ | ⟨a, _ | ⟨b, bytes⟩⟩
  · rw [hbytes] at stray
    cases stray
  · rw [hbytes] at stray
    cases stray
  · rw [hbytes, pieces] at stray
    split at stray
    next opens =>
      -- the two digits are ASCII characters, so they are the next two of the text
      obtain ⟨ascii, h, -, first⟩ := hexDigit_of_isDigit opens.2.1
      obtain ⟨ascii', l, -, second⟩ := hexDigit_of_isDigit opens.2.2
      obtain ⟨rest, rfl, hrest⟩ := Utf8.exists_cons_of_encode_eq_cons hbytes ascii
      obtain ⟨rest', rfl, -⟩ := Utf8.exists_cons_of_encode_eq_cons hrest ascii'
      exact ⟨_, _, h, l, rest', rfl, first, second⟩
    next => cases stray

theorem stray?_append {ps : List Piece} (h : ∀ p ∈ ps, p ≠ .plain mark) (qs : List Piece) :
    stray? (ps ++ qs) = stray? qs := by
  induction ps with
  | nil => rfl
  | cons p ps ih =>
    rw [List.cons_append, stray?, if_neg (h p List.mem_cons_self)]
    exact ih fun p hp => h p (List.mem_cons_of_mem _ hp)

/-- Plain pieces for the bytes of a character other than `%` are not stray. -/
theorem stray?_encode_plain {c : Char} (h : c ≠ '%') (ps : List Piece) :
    stray? ((String.utf8EncodeChar c).map .plain ++ ps) = stray? ps := by
  apply stray?_append
  intro p hp
  obtain ⟨b, hb, rfl⟩ := List.mem_map.mp hp
  exact fun same => ne_mark_of_mem h hb (Piece.plain.inj same)

theorem map_byte_plain (bytes : List UInt8) (ps : List Piece) :
    (bytes.map Piece.plain ++ ps).map Piece.byte = bytes ++ ps.map Piece.byte := by
  rw [List.map_append, List.map_map]
  exact congrArg (· ++ _) (List.map_id _)

/-! ### Spellings and pieces -/

variable {plain : Char → Prop} {escaped : UInt8 → Prop} {sound : Piece → Prop}
  {text : List Char} {bytes : List UInt8}

/-- The pieces of a spelling stand for what is spelled, are sound, and none of them is stray. -/
theorem Spells.pieces (judges : Judges plain escaped sound) (h : Spells plain escaped text bytes) :
    stray? (pieces (Utf8.encode text)) = none ∧
      (pieces (Utf8.encode text)).map Piece.byte = bytes ∧
      ∀ p ∈ pieces (Utf8.encode text), sound p := by
  induction h with
  | done => exact ⟨rfl, rfl, by simp [Percent.pieces]⟩
  | @plain c text bytes other allowed rest ih =>
    obtain ⟨stray, same, sounds⟩ := ih
    rw [pieces_encode_plain other, stray?_encode_plain other, map_byte_plain, same]
    refine ⟨stray, rfl, ?_⟩
    intro p hp
    rcases List.mem_append.mp hp with hp | hp
    · obtain ⟨b, hb, rfl⟩ := List.mem_map.mp hp
      exact (judges.plain c other).mp allowed b hb
    · exact sounds p hp
  | @escape high low h l text bytes first second allowed rest ih =>
    obtain ⟨stray, same, sounds⟩ := ih
    have byte := byte_escape first second
    rw [pieces_encode_escape first second, List.map_cons, byte, same]
    refine ⟨stray, rfl, ?_⟩
    intro p hp
    rcases List.mem_cons.mp hp with rfl | hp
    · rw [← byte] at allowed
      exact (judges.escape _ _ first.isDigit second.isDigit).mp allowed
    · exact sounds p hp

/-- A text whose pieces are sound, none of them stray, spells what they stand for. -/
theorem spells_of_pieces (judges : Judges plain escaped sound)
    (stray : stray? (pieces (Utf8.encode text)) = none)
    (sounds : ∀ p ∈ pieces (Utf8.encode text), sound p) :
    Spells plain escaped text ((pieces (Utf8.encode text)).map Piece.byte) := by
  -- an escape takes three characters, so the induction is on the length of the text
  induction hn : text.length using Nat.strongRecOn generalizing text with
  | _ n ih =>
    subst hn
    cases text with
    | nil => exact .done
    | cons c text =>
      by_cases other : c = '%'
      · subst other
        obtain ⟨high, low, h, l, rest, rfl, first, second⟩ := exists_escape_of_stray? stray
        have byte := byte_escape first second
        rw [pieces_encode_escape first second] at stray sounds ⊢
        rw [List.map_cons, byte]
        have allowed : escaped (UInt8.ofNat (h * 16 + l)) := by
          rw [← byte]
          exact (judges.escape _ _ first.isDigit second.isDigit).mpr (sounds _ List.mem_cons_self)
        refine .escape first second allowed (ih rest.length ?_ stray ?_ rfl)
        · simp only [List.length_cons]
          omega
        · exact fun p hp => sounds p (List.mem_cons_of_mem _ hp)
      · rw [pieces_encode_plain other] at stray sounds ⊢
        rw [stray?_encode_plain other] at stray
        rw [map_byte_plain]
        have allowed : plain c := by
          refine (judges.plain c other).mpr fun b hb => sounds _ ?_
          exact List.mem_append_left _ (List.mem_map_of_mem hb)
        refine .plain other allowed (ih text.length (Nat.lt_succ_self _) stray ?_ rfl)
        exact fun p hp => sounds p (List.mem_append_right _ hp)

end Percent

namespace Dsn

/-! ### The parts of a connection string -/

/-- A spelling of a user name or a password. Any character may stand for itself, a `+` included, and
    any byte may be escaped. -/
def SpellsComponent (text : List Char) (meant : String) : Prop :=
  Percent.Spells (fun _ => True) (fun _ => True) text (Utf8.encode meant.toList)

/-- A spelling of a link to the server. No ASCII blank or control character may stand for itself,
    and of the ASCII characters only `%` may be escaped. -/
def SpellsHost (text : List Char) (meant : String) : Prop :=
  Percent.Spells (fun c => isControl c = false) (fun b => b = Percent.mark ∨ 0x80 ≤ b) text
    (Utf8.encode meant.toList)

/-- The bytes that are read are those of the text that is read off. -/
theorem readBytes_eq_ok_iff {part : Part} {bytes : List UInt8} {meant : String} :
    readBytes part bytes = .ok meant ↔ bytes = Utf8.encode meant.toList := by
  unfold readBytes
  constructor
  · intro h
    split at h
    next text decoded =>
      cases h
      rw [String.toList_ofList, Utf8.encode_of_decode decoded]
    next => cases h
  · rintro rfl
    rw [Utf8.decode_encode]
    show Except.ok (String.ofList meant.toList) = _
    rw [String.ofList_toList]

/-- **A component is read exactly if it is a spelling**, as what it spells. -/
theorem readComponent_eq_ok_iff {part : Part} {text : List Char} {meant : String} :
    readComponent part text = .ok meant ↔ SpellsComponent text meant := by
  have judges : Percent.Judges (fun _ => True) (fun _ => True) (fun _ => True) :=
    ⟨fun _ _ => by simp, fun _ _ _ _ => by simp⟩
  unfold readComponent
  constructor
  · intro h
    dsimp only at h
    split at h
    · cases h
    next stray =>
      rw [SpellsComponent, ← readBytes_eq_ok_iff.mp h]
      exact Percent.spells_of_pieces judges stray fun _ _ => trivial
  · intro h
    obtain ⟨stray, same, -⟩ := h.pieces judges
    simp only [stray, same, readBytes_eq_ok_iff]

/-- A byte of a character is at fault exactly if the character is a control character. -/
theorem hostFault?_plain_iff (c : Char) :
    isControl c = false ↔ ∀ b ∈ String.utf8EncodeChar c, hostFault? (.plain b) = none := by
  have fault (b : UInt8) :
      hostFault? (.plain b) = none ↔ isControl (Char.ofNat b.toNat) = false := by
    unfold hostFault?
    by_cases control : isControl (Char.ofNat b.toNat) <;> simp [control]
  simp only [fault]
  constructor
  · -- a byte that is a control character is the character itself
    intro allowed b hb
    rw [Bool.eq_false_iff]
    intro control
    have value : (Char.ofNat b.toNat).toNat = b.toNat :=
      Utf8.toNat_ofNat (.inl (by have := b.toNat_lt; omega))
    have ascii : b.toNat < 0x80 := by
      rw [← value]
      exact isControl_ascii control
    rw [← Utf8.toNat_of_mem_utf8EncodeChar hb ascii, Char.ofNat_toNat, allowed] at control
    cases control
  · intro allowed
    rw [Bool.eq_false_iff]
    intro control
    have ascii := isControl_ascii control
    have byte := allowed (UInt8.ofNat c.toNat)
      (by rw [Utf8.utf8EncodeChar_ascii ascii]; exact List.mem_cons_self)
    rw [UInt8.toNat_ofNat', Nat.mod_eq_of_lt (by omega), Char.ofNat_toNat, control] at byte
    cases byte

/-- An escape is at fault exactly if it stands for an ASCII character other than `%`. -/
theorem hostFault?_escape_iff (high low : UInt8) :
    ((Percent.Piece.escape high low).byte = Percent.mark ∨
        0x80 ≤ (Percent.Piece.escape high low).byte) ↔
      hostFault? (.escape high low) = none := by
  unfold hostFault?
  dsimp only
  generalize (Percent.Piece.escape high low).byte = b
  by_cases mark : b = Percent.mark
  · simp [mark]
  · simp [mark, UInt8.not_lt]

/-- **A host is read exactly if it is a spelling**, as what it spells. -/
theorem readHost_eq_ok_iff {text : List Char} {meant : String} :
    readHost text = .ok meant ↔ SpellsHost text meant := by
  have judges : Percent.Judges (fun c => isControl c = false)
      (fun b => b = Percent.mark ∨ 0x80 ≤ b) (fun p => hostFault? p = none) :=
    ⟨fun c _ => hostFault?_plain_iff c, fun high low _ _ => hostFault?_escape_iff high low⟩
  unfold readHost
  constructor
  · intro h
    dsimp only at h
    split at h
    · cases h
    next stray =>
      split at h
      · cases h
      next sounds =>
        rw [SpellsHost, ← readBytes_eq_ok_iff.mp h]
        exact Percent.spells_of_pieces judges stray (List.findSome?_eq_none_iff.mp sounds)
  · intro h
    obtain ⟨stray, same, sounds⟩ := h.pieces judges
    simp only [stray, same, List.findSome?_eq_none_iff.mpr sounds, readBytes_eq_ok_iff]

end Dsn

end DatabaseLogon
