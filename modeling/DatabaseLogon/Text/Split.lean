namespace DatabaseLogon.Text

/-!
# Splitting a list at a separator

Connection strings are cut at the last separator (`@`, `/`, `?`), form data at the first (`=`) and
at every one (`&`), diagnostics at the first `": "`.

* `splitFirst`, `splitLast` — the two parts around the first or last separator, if there is one.
* `splitAll` — the parts between the separators; always at least one part.
* `splitAtColon` — the two parts around the first colon that a blank follows.
* `splitFirst_eq_some_iff`, `splitLast_eq_some_iff` — a split gives back the whole, and the part on
  the searched side holds no separator.
-/

variable {α : Type} [DecidableEq α]

/-- The parts before and after the first separator. -/
def splitFirst (sep : α) : List α → Option (List α × List α)
  | [] => none
  | x :: xs =>
    if x = sep then some ([], xs)
    else
      match splitFirst sep xs with
      | some (before, after) => some (x :: before, after)
      | none => none

/-- The parts before and after the last separator. -/
def splitLast (sep : α) : List α → Option (List α × List α)
  | [] => none
  | x :: xs =>
    match splitLast sep xs with
    | some (before, after) => some (x :: before, after)
    | none => if x = sep then some ([], xs) else none

/-- The parts between the separators, in order. -/
def splitAll (sep : α) : List α → List (List α)
  | [] => [[]]
  | x :: xs =>
    if x = sep then [] :: splitAll sep xs
    else
      match splitAll sep xs with
      | part :: parts => (x :: part) :: parts
      | [] => [[x]]

/-- The parts before and after the first colon that is followed by a blank. -/
def splitAtColon : List Char → Option (List Char × List Char)
  | [] => none
  | [_] => none
  | c :: d :: rest =>
    if c = ':' ∧ d = ' ' then some ([], rest)
    else
      match splitAtColon (d :: rest) with
      | some (before, after) => some (c :: before, after)
      | none => none

/-! ### Laws -/

@[simp] theorem splitFirst_nil (sep : α) : splitFirst sep [] = none := rfl

@[simp] theorem splitLast_nil (sep : α) : splitLast sep [] = none := rfl

theorem splitFirst_eq_some_iff (sep : α) (xs before after : List α) :
    splitFirst sep xs = some (before, after) ↔ xs = before ++ sep :: after ∧ sep ∉ before := by
  induction xs generalizing before with
  | nil => simp
  | cons x xs ih => cases before <;> grind [splitFirst]

theorem splitLast_eq_none_iff (sep : α) (xs : List α) :
    splitLast sep xs = none ↔ sep ∉ xs := by
  induction xs with
  | nil => simp
  | cons x xs ih => grind [splitLast]

theorem splitLast_eq_some_iff (sep : α) (xs before after : List α) :
    splitLast sep xs = some (before, after) ↔ xs = before ++ sep :: after ∧ sep ∉ after := by
  induction xs generalizing before with
  | nil => simp
  | cons x xs ih =>
    have := splitLast_eq_none_iff sep xs
    cases before <;> grind [splitLast]

end DatabaseLogon.Text
