import DatabaseLogon.Text.Blank
import DatabaseLogon.Text.Record
import DatabaseLogon.Text.Quoted
import DatabaseLogon.Text.Split

namespace DatabaseLogon

/-!
# Diagnostic records

* `Diagnostic` — an error number of the database and its message.
* `Diagnostic.ofText` — the record of the text that the client library writes, which repeats the
  number in front (`ORA-01017: ...`) and ends with a line end.
-/

/-- A record read from an error handle. -/
structure Diagnostic where
  code : Int
  message : String
  deriving DecidableEq, Repr

namespace Diagnostic

/-- The letters with which the number begins in a native text. -/
def marker : List Char :=
  ['O', 'R', 'A', '-']

/-- Is this a character that ends a native text? -/
def isLineEnd (c : Char) : Bool :=
  c = '\n' || c = '\r' || c = '\x00'

/-- A native text without line ends and NUL behind it and then without blanks around it. -/
def trimmed (text : List Char) : List Char :=
  Text.trim Text.isBlank (Text.trimEnd isLineEnd text)

/-- A trimmed text without the number in front: whatever stands before the first colon and blank,
    if it begins like a number. -/
def withoutNumber (text : List Char) : List Char :=
  match Text.splitAtColon text with
  | some (before, after) => if marker.isPrefixOf before then after else text
  | none => text

/-- The record of an error number and the native text that goes with it. -/
def ofText (code : Int) (text : List Char) : Diagnostic where
  code := code
  message := String.ofList (withoutNumber (trimmed text))

/-- The text of a record as a value. -/
def describe (d : Diagnostic) : String :=
  Text.record "Diagnostic" [("code", toString d.code), ("message", Text.quoted d.message)]

end Diagnostic

end DatabaseLogon
