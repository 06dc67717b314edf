namespace DatabaseLogon

/-!
# Placeholders in statements

Statements may mark the places of their values with `?`; the database wants `:1`, `:2` and so on.
Every `?` counts, also one in a quoted text or a comment.

* `Placeholder.numberFrom` — the markers numbered, with the first number as a parameter.
* `Prepared` — a statement with the remark whether it had markers.
-/

namespace Placeholder

/-- The mark for a value in a statement. -/
def mark : Char := '?'

/-- The markers of a text numbered from `n` on. Numbers have 32 bits; behind the last of them comes
    zero. -/
def numberFrom (n : UInt32) : List Char → List Char
  | [] => []
  | c :: cs =>
    if c = mark then ':' :: Nat.toDigits 10 n.toNat ++ numberFrom (n + 1) cs
    else c :: numberFrom n cs

end Placeholder

/-- A statement that is ready for the database. -/
structure Prepared where
  sql : String
  /-- Is this the given text, which had no markers? -/
  borrowed : Bool
  deriving DecidableEq, Repr

namespace Prepared

/-- A statement that stays as it is. -/
def unchanged (sql : String) : Prepared where
  sql := sql
  borrowed := true

/-- A statement with its markers numbered from one on. -/
def ofMarked (sql : String) : Prepared :=
  if Placeholder.mark ∈ sql.toList then
    { sql := String.ofList (Placeholder.numberFrom 1 sql.toList), borrowed := false }
  else unchanged sql

end Prepared

end DatabaseLogon
