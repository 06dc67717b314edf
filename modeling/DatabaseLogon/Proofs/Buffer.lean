import DatabaseLogon.Client.Script
import DatabaseLogon.Proofs.Attempt
import DatabaseLogon.Proofs.Utf8
import Mathlib.Data.List.TakeWhile

namespace DatabaseLogon

/-!
# The buffer for diagnostics

The client library writes the text of a diagnostic into a buffer of fixed size, which was filled
with zeros before. A text that fills the buffer has no NUL behind it, and one that is too long is
cut off at a byte, maybe inside a character. This module says what is made of the buffer then.

* `Utf8.LongestFit` — the longest part from the front of a text with no more than so many bytes;
  `Utf8.LongestFit.decodeLossy_take` says what is read of a text that is cut off.
* `Client.filled`, `Client.Shown` — the buffer, and the bytes in it that count.
* `Client.bufferText_eq_filled`, `Client.Shown.bufferText_eq` — the text is that of these bytes.
* `Client.bufferText_of_longestFit`, `Client.bufferText_encode` — the text of a text without NUL.
* `Client.readDiagnostic_shows` — so the record that is read depends on nothing else.
-/

namespace Utf8

/-! ### Texts that are cut off -/

/-- The longest part from the front of a text that has no more than `limit` bytes. -/
structure LongestFit (limit : Nat) (text front : List Char) : Prop where
  begins : front <+: text
  fits : (encode front).length ≤ limit
  longest : ∀ other, other <+: text → (encode other).length ≤ limit → other <+: front

variable {limit : Nat} {text front : List Char}

/-- What fits is the longest part if the next character does not fit any more. -/
theorem longestFit_iff :
    LongestFit limit text front ↔ ∃ rest, text = front ++ rest ∧ (encode front).length ≤ limit ∧
      ∀ c ∈ rest.head?, limit < (encode front).length + c.utf8Size := by
  constructor
  · rintro ⟨⟨rest, rfl⟩, fits, longest⟩
    refine ⟨rest, rfl, fits, ?_⟩
    cases rest with
    | nil => simp
    | cons c rest =>
      rintro _ ⟨⟩
      apply Nat.lt_of_not_le
      intro fits'
      have longer := longest (front ++ [c]) ⟨rest, by simp⟩
        (by simpa [length_encode_append] using fits')
      have impossible := longer.length_le
      rw [List.length_append, List.length_singleton] at impossible
      omega
  · rintro ⟨rest, rfl, fits, full⟩
    refine ⟨⟨rest, rfl⟩, fits, fun other shorter fits' => ?_⟩
    rcases List.prefix_or_prefix_of_prefix shorter (List.prefix_append front rest) with h | h
    · exact h
    · obtain ⟨more, rfl⟩ := h
      cases more with
      | nil => simp
      | cons c more =>
        -- then the next character would fit as well
        obtain ⟨behind, same⟩ := (List.prefix_append_right_inj front).mp shorter
        have next := full c (by rw [← same]; rfl)
        rw [length_encode_append, length_encode_cons] at fits'
        omega

/-- There is a longest part. -/
theorem exists_longestFit (limit : Nat) (text : List Char) :
    ∃ front, LongestFit limit text front := by
  induction text generalizing limit with
  | nil => exact ⟨[], longestFit_iff.mpr ⟨[], rfl, Nat.zero_le _, by simp⟩⟩
  | cons c text ih =>
    by_cases fits : c.utf8Size ≤ limit
    · obtain ⟨front, longest⟩ := ih (limit - c.utf8Size)
      obtain ⟨rest, rfl, fits', full⟩ := longestFit_iff.mp longest
      refine ⟨c :: front, longestFit_iff.mpr ⟨rest, rfl, ?_, fun d next => ?_⟩⟩
      · rw [length_encode_cons]
        omega
      · have exceeds := full d next
        rw [length_encode_cons]
        omega
    · refine ⟨[], longestFit_iff.mpr ⟨c :: text, rfl, Nat.zero_le _, ?_⟩⟩
      rintro _ ⟨⟩
      simpa using fits

/-- A text that fits is itself the longest part. -/
theorem LongestFit.eq_iff (h : LongestFit limit text front) :
    front = text ↔ (encode text).length ≤ limit := by
  constructor
  · rintro rfl
    exact h.fits
  · intro fits
    exact h.begins.eq_of_length_le (h.longest text (List.prefix_refl text) fits).length_le

/-- **What is read of a text that is cut off**: the longest part that fits, and behind it one U+FFFD
    if the cut went through a character. -/
theorem LongestFit.decodeLossy_take (h : LongestFit limit text front) :
    decodeLossy ((encode text).take limit) =
      if front = text ∨ (encode front).length = limit then front else front ++ ['\uFFFD'] := by
  obtain ⟨rest, rfl, fits, full⟩ := longestFit_iff.mp h
  cases rest with
  | nil => simp [List.take_of_length_le fits]
  | cons c rest =>
    have next := full c rfl
    have size := String.length_utf8EncodeChar c
    have more : front ≠ front ++ c :: rest := by simp
    have cut : (encode (front ++ c :: rest)).take limit
        = encode front ++ (String.utf8EncodeChar c).take (limit - (encode front).length) := by
      rw [encode_append, encode_cons, List.take_append, List.take_of_length_le fits,
        List.take_append_of_le_length (by omega)]
    rw [cut]
    by_cases between : (encode front).length = limit
    · rw [if_pos (.inr between), between, Nat.sub_self, List.take_zero, List.append_nil,
        decodeLossy_encode]
    · rw [if_neg (by simp [between])]
      exact decodeLossy_encode_append_take front c (by omega) (by omega)

end Utf8

namespace Client

/-! ### Bytes that count -/

/-- The buffer when the library has written these bytes into it, as many as it can hold. It was
    filled with zeros before. -/
def filled (bytes : List UInt8) : List UInt8 :=
  bytes.take diagnosticBufferSize ++ List.replicate (diagnosticBufferSize - bytes.length) 0

/-- The bytes that count: those before the first NUL in the buffer, or all in it. -/
structure Shown (bytes shown : List UInt8) : Prop where
  begins : shown <+: bytes
  fits : shown.length ≤ diagnosticBufferSize
  noNul : 0 ∉ shown
  ends : shown = bytes ∨ shown.length = diagnosticBufferSize ∨ shown ++ [0] <+: bytes

variable {bytes shown : List UInt8}

theorem length_filled (bytes : List UInt8) : (filled bytes).length = diagnosticBufferSize := by
  rw [filled, List.length_append, List.length_take, List.length_replicate]
  omega

/-- The text is what stands in the buffer before its first NUL, or in all of it if it is full. -/
theorem bufferText_eq_filled (bytes : List UInt8) :
    bufferText bytes = Utf8.decodeLossy ((filled bytes).take ((filled bytes).idxOf 0)) := by
  have zeros (n : Nat) : (List.replicate n (0 : UInt8)).takeWhile (· ≠ 0) = [] := by
    cases n <;> rfl
  have before :
      (filled bytes).take ((filled bytes).idxOf 0) = (filled bytes).takeWhile (· ≠ 0) := by
    rw [List.takeWhile_eq_take_findIdx_not, List.idxOf]
    congr 2
    funext b
    simp [beq_eq_decide]
  rw [bufferText, before, filled, List.takeWhile_append, zeros, List.append_nil]
  split
  case isTrue whole => rw [(List.takeWhile_prefix _).eq_of_length whole]
  case isFalse => rfl

/-- The bytes that count are what a search for the first NUL passes. -/
theorem Shown.takeWhile_eq (h : Shown bytes shown) :
    (bytes.take diagnosticBufferSize).takeWhile (· ≠ 0) = shown := by
  obtain ⟨⟨rest, rfl⟩, fits, noNul, ends⟩ := h
  have nonzero : ∀ b ∈ shown, decide (b ≠ 0) = true := fun b hb =>
    decide_eq_true fun nul => noNul (nul ▸ hb)
  -- nothing that counts stands behind these bytes
  have behind : (rest.take (diagnosticBufferSize - shown.length)).takeWhile (· ≠ 0) = [] := by
    rcases ends with whole | full | nul
    · rw [List.self_eq_append_right.mp whole, List.take_nil, List.takeWhile_nil]
    · rw [full, Nat.sub_self, List.take_zero, List.takeWhile_nil]
    · obtain ⟨others, rfl⟩ := (List.prefix_append_right_inj shown).mp nul
      cases diagnosticBufferSize - shown.length <;> rfl
  rw [List.take_append, List.take_of_length_le fits, List.takeWhile_append_of_pos nonzero,
    behind, List.append_nil]

/-- What a search for the first NUL passes are the bytes that count. -/
theorem shown_takeWhile (bytes : List UInt8) :
    Shown bytes ((bytes.take diagnosticBufferSize).takeWhile (· ≠ 0)) := by
  have front := List.takeWhile_prefix (· ≠ 0) (l := bytes.take diagnosticBufferSize)
  have begins := front.trans (List.take_prefix diagnosticBufferSize bytes)
  have within : (bytes.take diagnosticBufferSize).length ≤ diagnosticBufferSize :=
    List.length_take_le ..
  refine ⟨begins, front.length_le.trans within, fun nul => ?noNul, ?ends⟩
  case noNul => simpa using List.mem_takeWhile_imp nul
  case ends =>
    have parts := List.takeWhile_append_dropWhile (p := (· ≠ (0 : UInt8)))
      (l := bytes.take diagnosticBufferSize)
    have stopped := List.head?_dropWhile_not (· ≠ (0 : UInt8)) (bytes.take diagnosticBufferSize)
    cases rest : (bytes.take diagnosticBufferSize).dropWhile (· ≠ 0) with
    | nil =>
      rw [rest, List.append_nil] at parts
      rw [parts, List.length_take]
      by_cases all : bytes.length ≤ diagnosticBufferSize
      · exact .inl (List.take_of_length_le all)
      · exact .inr (.inl (Nat.min_eq_left (by omega)))
    | cons b others =>
      rw [rest] at stopped parts
      obtain rfl : b = 0 := by simpa using stopped
      have next : (bytes.take diagnosticBufferSize).takeWhile (· ≠ 0) ++ [0]
          <+: bytes.take diagnosticBufferSize :=
        ⟨others, by rw [List.append_assoc]; exact parts⟩
      exact .inr (.inr (next.trans (List.take_prefix diagnosticBufferSize bytes)))

/-- **The text is that of the bytes that count**, whatever else was written. -/
theorem Shown.bufferText_eq (h : Shown bytes shown) :
    bufferText bytes = Utf8.decodeLossy shown := by
  rw [bufferText, h.takeWhile_eq]

/-! ### Texts without NUL -/

variable {text front : List Char}

/-- Of a text without NUL, what fits into the buffer counts. -/
theorem shown_encode (noNul : '\x00' ∉ text) :
    Shown (Utf8.encode text) ((Utf8.encode text).take diagnosticBufferSize) := by
  have all := shown_takeWhile (Utf8.encode text)
  rwa [List.takeWhile_eq_self_iff.mpr] at all
  intro b hb
  apply decide_eq_true
  rintro rfl
  exact noNul (Utf8.mem_of_mem_encode (List.mem_of_mem_take hb) (by decide))

/-- A text without NUL is read up to the last character that is whole in the buffer. -/
theorem bufferText_of_longestFit (noNul : '\x00' ∉ text)
    (h : Utf8.LongestFit diagnosticBufferSize text front) :
    bufferText (Utf8.encode text) =
      if front = text ∨ (Utf8.encode front).length = diagnosticBufferSize then front
      else front ++ ['\uFFFD'] := by
  rw [(shown_encode noNul).bufferText_eq, h.decodeLossy_take]

/-- A text without NUL that fits into the buffer is read as it was written. -/
theorem bufferText_encode (fits : (Utf8.encode text).length ≤ diagnosticBufferSize)
    (noNul : '\x00' ∉ text) : bufferText (Utf8.encode text) = text := by
  rw [(shown_encode noNul).bufferText_eq, List.take_of_length_le fits, Utf8.decodeLossy_encode]

/-! ### Reading a diagnostic -/

variable {σ : Type} [ClientLibrary σ]

/-- **What is read of a diagnostic.** The library answers with a return code, an error number and
    bytes. Any return code but that of success, that of a remark too, means that there is no record.
    Else the record is that of the bytes before the first NUL in the buffer, or of all of it if it
    is full, and other bytes behind them change nothing. A text without NUL is read as it was
    written if it fits. If it does not, its longest part that fits is read, and one U+FFFD behind
    it if the cut went through a character. -/
theorem readDiagnostic_shows (error : Handle) (w : World σ) :
    let reply := w.reply (.errorGet error)
    let buffer := filled reply.errorText
    let result := ((readDiagnostic error).run w).value
    (reply.code ≠ 0 → result = none) ∧
    (reply.code = 0 →
      (buffer.length = 3072 ∧ result = some (Diagnostic.ofText reply.errorCode
        (Utf8.decodeLossy (buffer.take (buffer.idxOf 0))))) ∧
      (∃ shown, Shown reply.errorText shown) ∧
      (∀ shown, Shown reply.errorText shown →
        result = some (Diagnostic.ofText reply.errorCode (Utf8.decodeLossy shown)) ∧
        ∀ other, Shown other shown → recordOf { reply with errorText := other } = result) ∧
      ∀ text, reply.errorText = Utf8.encode text → '\x00' ∉ text →
        ((Utf8.encode text).length ≤ 3072 →
          result = some (Diagnostic.ofText reply.errorCode text)) ∧
        (3072 < (Utf8.encode text).length →
          (∃ front, Utf8.LongestFit 3072 text front) ∧
          ∀ front, Utf8.LongestFit 3072 text front →
            ((Utf8.encode front).length = 3072 →
              result = some (Diagnostic.ofText reply.errorCode front)) ∧
            ((Utf8.encode front).length ≠ 3072 →
              result = some (Diagnostic.ofText reply.errorCode (front ++ ['\uFFFD']))))) := by
  intro reply buffer result
  have same : result = recordOf reply := rfl
  have record (r : Reply) (success : r.code = 0) :
      recordOf r = some (Diagnostic.ofText r.errorCode (bufferText r.errorText)) := by
    rw [recordOf, isSuccess_status, success]
    rfl
  refine ⟨fun refused => ?none, fun success => ⟨⟨?size, ?buffer⟩, ?counted, ?counts, ?texts⟩⟩
  case none =>
    rw [same, recordOf, isSuccess_status, decide_eq_false refused]
    rfl
  case size => exact length_filled reply.errorText
  case buffer => rw [same, record reply success, bufferText_eq_filled]
  case counted => exact ⟨_, shown_takeWhile reply.errorText⟩
  case counts =>
    intro shown counts
    have read := record reply success
    rw [counts.bufferText_eq] at read
    refine ⟨read, fun other counts' => ?_⟩
    rw [same, read, record { reply with errorText := other } success, counts'.bufferText_eq]
  case texts =>
    intro text written noNul
    rw [same, record reply success, written]
    refine ⟨fun fits => ?_, fun long => ⟨Utf8.exists_longestFit 3072 text, fun front h => ?_⟩⟩
    · rw [bufferText_encode fits noNul]
    · have cut : front ≠ text := fun whole => absurd (h.eq_iff.mp whole) (by omega)
      rw [bufferText_of_longestFit noNul h]
      constructor
      · intro full
        rw [if_pos (.inr full)]
      · intro inside
        rw [if_neg (by rintro (whole | full); exacts [cut whole, inside full])]

/-- The last character of a text begins with the last byte of the buffer. -/
theorem readDiagnostic_shows_cut :
    let text := List.replicate 3071 'a' ++ ['é']
    let w : World Script :=
      ⟨{ Script.empty with records := [⟨0, 1017, Utf8.encode text⟩] }, 0⟩
    ((readDiagnostic (Script.handle 0)).run w).value =
      some (Diagnostic.ofText 1017 (List.replicate 3071 'a' ++ ['\uFFFD'])) := by
  intro text w
  have letters (n : Nat) : (Utf8.encode (List.replicate n 'a')).length = n := by
    induction n with
    | zero => rfl
    | succ n ih =>
      rw [List.replicate_succ, Utf8.length_encode_cons, ih]
      exact Nat.add_comm 1 n
  have front := letters 3071
  have length : (Utf8.encode text).length = 3073 := by
    rw [Utf8.length_encode_append, front]
    rfl
  have longest : Utf8.LongestFit 3072 text (List.replicate 3071 'a') :=
    Utf8.longestFit_iff.mpr ⟨['é'], rfl, by omega, by rintro _ ⟨⟩; rw [front]; decide⟩
  have noNul : '\x00' ∉ text := by
    intro nul
    rcases List.mem_append.mp nul with letter | last
    · exact absurd (List.eq_of_mem_replicate letter) (by decide)
    · exact absurd last (by decide)
  obtain ⟨-, -, -, texts⟩ := (readDiagnostic_shows (Script.handle 0) w).2 rfl
  obtain ⟨-, cut⟩ := texts text rfl noNul
  exact ((cut (by omega)).2 _ longest).2 (by omega)

end Client

end DatabaseLogon
