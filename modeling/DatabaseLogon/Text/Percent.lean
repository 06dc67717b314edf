import DatabaseLogon.Text.Utf8

namespace DatabaseLogon.Percent

/-!
# Percent escapes

A byte may be written as `%` and two hexadecimal digits. A text is cut into *pieces*, each an escape
or a plain byte; a `%` without two digits behind it is a plain byte, called stray. A reader that is
strict looks for stray pieces first (`stray?`), a tolerant one keeps them.

* `pieces` — the cut; writing the pieces out again gives back the text.
* `stray?` — the fragment to complain about, if there is one.
* `decode` — the bytes that the pieces stand for.
* `encode` — every byte outside a set written as an escape.
-/

/-- The byte that opens an escape, `%`. -/
def mark : UInt8 := 0x25

/-- The value of a hexadecimal digit of either case. -/
def digitValue? (b : UInt8) : Option UInt8 :=
  if 0x30 ≤ b ∧ b ≤ 0x39 then some (b - 0x30)
  else if 0x41 ≤ b ∧ b ≤ 0x46 then some (b - 0x37)
  else if 0x61 ≤ b ∧ b ≤ 0x66 then some (b - 0x57)
  else none

/-- Is this byte a hexadecimal digit? -/
def isDigit (b : UInt8) : Bool :=
  (digitValue? b).isSome

/-- A part of an escaped text. -/
inductive Piece where
  /-- A byte that stands for itself. -/
  | plain (b : UInt8)
  /-- An escape with its two digits as they are written. -/
  | escape (high low : UInt8)
  deriving DecidableEq, Repr

/-- The bytes of a piece as it is written. -/
def Piece.spelling : Piece → List UInt8
  | .plain b => [b]
  | .escape high low => [mark, high, low]

/-- The byte that a piece stands for. -/
def Piece.byte : Piece → UInt8
  | .plain b => b
  | .escape high low => (digitValue? high).getD 0 * 16 + (digitValue? low).getD 0

/-- The pieces of a text. -/
def pieces : List UInt8 → List Piece
  | [] => []
  | [a] => [.plain a]
  | [a, b] => [.plain a, .plain b]
  | a :: b :: c :: rest =>
    if a = mark ∧ isDigit b ∧ isDigit c then .escape b c :: pieces rest
    else .plain a :: pieces (b :: c :: rest)

/-- The bytes of the pieces as they are written. -/
def spelling (ps : List Piece) : List UInt8 :=
  ps.flatMap Piece.spelling

/-- The first `%` that opens no escape, with up to two bytes that follow it. -/
def stray? : List Piece → Option (List UInt8)
  | [] => none
  | p :: ps =>
    if p = .plain mark then some ((spelling (p :: ps)).take 3) else stray? ps

/-- The bytes that a text stands for, stray marks included. -/
def decode (bytes : List UInt8) : List UInt8 :=
  (pieces bytes).map Piece.byte

/-! ### Writing -/

/-- The upper-case hexadecimal digit of a value below 16. -/
def digit (n : Nat) : Char :=
  Char.ofNat (if n < 10 then 0x30 + n else 0x37 + n)

/-- The escape of a byte. -/
def escape (b : UInt8) : List Char :=
  ['%', digit (b.toNat / 16), digit (b.toNat % 16)]

/-- Write a byte list: the bytes that `keep` accepts as they are, the others as escapes. -/
def encode (keep : UInt8 → Bool) (bytes : List UInt8) : List Char :=
  bytes.flatMap fun b => if keep b then [Char.ofNat b.toNat] else escape b

/-- Is this byte an ASCII letter or digit? -/
def isAlphanumeric (b : UInt8) : Bool :=
  (0x30 ≤ b && b ≤ 0x39) || (0x41 ≤ b && b ≤ 0x5A) || (0x61 ≤ b && b ≤ 0x7A)

/-- Bytes that a component of an address may hold unescaped: letters, digits, `-`, `_`, `.`, `~`. -/
def isUnreserved (b : UInt8) : Bool :=
  isAlphanumeric b || b = 0x2D || b = 0x5F || b = 0x2E || b = 0x7E

/-- Write a text as one component of an address. -/
def encodeComponent (text : List Char) : List Char :=
  encode isUnreserved (Utf8.encode text)

/-! ### Laws -/

/-- Cutting a text loses nothing. -/
theorem spelling_pieces (bytes : List UInt8) : spelling (pieces bytes) = bytes := by
  fun_induction pieces bytes with
  | case1 => rfl
  | case2 => rfl
  | case3 => rfl
  | case4 a b c rest h ih => simpa [spelling, Piece.spelling, h.1] using ih
  | case5 a b c rest h ih => simpa [spelling, Piece.spelling] using ih

end DatabaseLogon.Percent
