namespace DatabaseLogon.Text

/-!
# Blank characters

* `isBlank` — the Unicode property `White_Space`.
* `trimEnd`, `trim` — a text without the characters of a kind at its end, or at both ends.
-/

/-- Does this character have the property `White_Space`? -/
def isBlank (c : Char) : Bool :=
  let v := c.toNat
  (0x09 ≤ v && v ≤ 0x0D) || v = 0x20 || v = 0x85 || v = 0xA0 || v = 0x1680 ||
    (0x2000 ≤ v && v ≤ 0x200A) || v = 0x2028 || v = 0x2029 || v = 0x202F || v = 0x205F || v = 0x3000

/-- A list without the elements at its end that `p` accepts. -/
def trimEnd {α : Type} (p : α → Bool) (xs : List α) : List α :=
  (xs.reverse.dropWhile p).reverse

/-- A list without the elements at either end that `p` accepts. -/
def trim {α : Type} (p : α → Bool) (xs : List α) : List α :=
  trimEnd p (xs.dropWhile p)

end DatabaseLogon.Text
