namespace DatabaseLogon.Utf8

/-!
# UTF-8 text

A byte list is cut into *sequences*, one byte at a time: characters, and the stretches that are no
character. A stretch is as long as it could still have begun a character, so the cut depends on the
bytes alone and both ways of reading share it.

* `sequences` — the cut.
* `decode` — strict reading: the characters, or where the first stretch lies and how long it is.
* `decodeLossy` — total reading: every stretch becomes one U+FFFD.
* `encode` — the bytes of a text.
-/

/-- A stretch of bytes: one character, or the longest beginning of one that goes wrong. -/
inductive Sequence where
  /-- A whole character. -/
  | scalar (c : Char)
  /-- Bytes that the next byte, or the first one itself, keeps from being a character. -/
  | malformed (width : Nat)
  /-- The beginning of a character that the end of the text cuts off. -/
  | truncated (width : Nat)
  deriving DecidableEq, Repr

/-- The number of bytes in a stretch. -/
def Sequence.width : Sequence → Nat
  | .scalar c => c.utf8Size
  | .malformed n => n
  | .truncated n => n

/-- A character of which `width` bytes are read. The next byte has to lie between `low` and `high`;
    only the second byte of a character may have a narrower range than `80` to `BF`, which keeps
    out overlong forms, surrogates and values past U+10FFFF. -/
structure Pending where
  /-- Bytes read so far. -/
  width : Nat
  /-- The bits read so far. -/
  value : Nat
  /-- Bytes still to come, at least one. -/
  missing : Nat
  low : Nat
  high : Nat

/-- Read a byte where a character begins. -/
def start (b : UInt8) : List Sequence × Option Pending :=
  let v := b.toNat
  if v < 0x80 then ([.scalar (Char.ofNat v)], none)
  else if v < 0xC2 then ([.malformed 1], none)
  else if v < 0xE0 then ([], some ⟨1, v - 0xC0, 1, 0x80, 0xBF⟩)
  else if v < 0xF0 then
    ([], some ⟨1, v - 0xE0, 2, if v = 0xE0 then 0xA0 else 0x80, if v = 0xED then 0x9F else 0xBF⟩)
  else if v < 0xF5 then
    ([], some ⟨1, v - 0xF0, 3, if v = 0xF0 then 0x90 else 0x80, if v = 0xF4 then 0x8F else 0xBF⟩)
  else ([.malformed 1], none)

/-- Read one byte: the stretches that it completes and the character that it leaves unfinished.
    A byte that cannot continue the unfinished character begins anew. -/
def feed : Option Pending → UInt8 → List Sequence × Option Pending
  | none, b => start b
  | some p, b =>
    if p.low ≤ b.toNat ∧ b.toNat ≤ p.high then
      let value := p.value * 64 + (b.toNat - 0x80)
      if p.missing = 1 then ([.scalar (Char.ofNat value)], none)
      else ([], some ⟨p.width + 1, value, p.missing - 1, 0x80, 0xBF⟩)
    else (.malformed p.width :: (start b).1, (start b).2)

/-- The stretches of a text of which an unfinished character may already be read. -/
def sequencesFrom (pending : Option Pending) : List UInt8 → List Sequence
  | [] =>
    match pending with
    | none => []
    | some p => [.truncated p.width]
  | b :: bytes => (feed pending b).1 ++ sequencesFrom (feed pending b).2 bytes

/-- The stretches of a byte list, in order. -/
def sequences (bytes : List UInt8) : List Sequence :=
  sequencesFrom none bytes

/-! ### Strict reading -/

/-- Where a byte list stops being UTF-8. -/
structure Fault where
  /-- The length of the valid part in front. -/
  validUpTo : Nat
  /-- The length of the stretch that is no character; none if the text ends inside it. -/
  width : Option Nat
  deriving DecidableEq, Repr

/-- The wording of a fault. -/
def Fault.message (f : Fault) : String :=
  match f.width with
  | some n =>
    "invalid utf-8 sequence of " ++ toString n ++ " bytes from index " ++ toString f.validUpTo
  | none => "incomplete utf-8 byte sequence from index " ++ toString f.validUpTo

/-- The characters of the stretches, the first of which begins at `index`. -/
def characters (index : Nat) : List Sequence → Except Fault (List Char)
  | [] => .ok []
  | .scalar c :: rest =>
    match characters (index + c.utf8Size) rest with
    | .ok cs => .ok (c :: cs)
    | .error f => .error f
  | .malformed n :: _ => .error ⟨index, some n⟩
  | .truncated _ :: _ => .error ⟨index, none⟩

/-- The text of a byte list that is valid throughout, or its first fault. -/
def decode (bytes : List UInt8) : Except Fault (List Char) :=
  characters 0 (sequences bytes)

/-! ### Total reading -/

/-- A character stands for itself; anything else is replaced by U+FFFD. -/
def Sequence.orReplacement : Sequence → Char
  | .scalar c => c
  | .malformed _ => '\uFFFD'
  | .truncated _ => '\uFFFD'

/-- The text of a byte list, with one U+FFFD for every stretch that is no character. -/
def decodeLossy (bytes : List UInt8) : List Char :=
  (sequences bytes).map Sequence.orReplacement

/-! ### Writing -/

/-- The bytes of a text. -/
def encode (text : List Char) : List UInt8 :=
  text.flatMap String.utf8EncodeChar

@[simp] theorem encode_nil : encode [] = [] := rfl

@[simp] theorem encode_cons (c : Char) (text : List Char) :
    encode (c :: text) = String.utf8EncodeChar c ++ encode text := rfl

@[simp] theorem encode_append (a b : List Char) : encode (a ++ b) = encode a ++ encode b := by
  simp [encode]

end DatabaseLogon.Utf8
