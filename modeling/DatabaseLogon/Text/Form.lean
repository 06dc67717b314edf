import DatabaseLogon.Text.Percent
import DatabaseLogon.Text.Split

namespace DatabaseLogon.Form

/-!
# Form data

Pairs of a key and a value in the form `key=value&key=value`, where a blank is written `+` and other
special bytes are percent escapes.

* `pairs` — reading, which accepts every text: an empty piece is skipped, a piece without `=` is a
  key with an empty value, a malformed escape stands for itself, and bytes that are no UTF-8 are
  replaced.
* `write` — writing.
-/

/-- The `&` between two pairs. -/
def pairMark : UInt8 := 0x26

/-- The `=` between a key and its value. -/
def valueMark : UInt8 := 0x3D

/-- A key or a value as it was meant: `+` is a blank, escapes are decoded. -/
def decode (bytes : List UInt8) : String :=
  let blanks := bytes.map fun b => if b = 0x2B then 0x20 else b
  String.ofList (Utf8.decodeLossy (Percent.decode blanks))

/-- The pair that one piece of the text holds. -/
def pair (piece : List UInt8) : String × String :=
  match Text.splitFirst valueMark piece with
  | some (key, value) => (decode key, decode value)
  | none => (decode piece, "")

/-- The pairs of a text, in order. -/
def pairs (bytes : List UInt8) : List (String × String) :=
  ((Text.splitAll pairMark bytes).filter (· ≠ [])).map pair

/-- Bytes that form data holds unescaped: letters, digits, `*`, `-`, `.`, `_`. -/
def isUnreserved (b : UInt8) : Bool :=
  Percent.isAlphanumeric b || b = 0x2A || b = 0x2D || b = 0x2E || b = 0x5F

/-- Write a key or a value. -/
def encode (text : List Char) : List Char :=
  (Utf8.encode text).flatMap fun b =>
    if b = 0x20 then ['+'] else Percent.encode isUnreserved [b]

/-- Write pairs, in order. -/
def write (ps : List (String × String)) : List Char :=
  ['&'].intercalate (ps.map fun (key, value) => encode key.toList ++ '=' :: encode value.toList)

end DatabaseLogon.Form
