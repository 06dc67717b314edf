namespace DatabaseLogon.Decimal

/-!
# Decimal numbers

* `value?` — the number that a text of ASCII digits denotes; nothing else is accepted, no sign
  and no blank.
* `bounded?` — the same for 32-bit numbers.
* `value?_toDigits` — a number that was written in decimal digits is read again.
* `padded` — a number with zeros in front up to a width in which a minus sign counts.
-/

/-- The value of an ASCII digit. -/
def digitValue? (c : Char) : Option Nat :=
  if '0' ≤ c ∧ c ≤ '9' then some (c.toNat - 0x30) else none

/-- Read digits behind a number that is already read. -/
def continue? (value : Nat) : List Char → Option Nat
  | [] => some value
  | c :: cs =>
    match digitValue? c with
    | some d => continue? (value * 10 + d) cs
    | none => none

/-- The number that a text denotes, if the text is one or more ASCII digits. -/
def value? : List Char → Option Nat
  | [] => none
  | c :: cs => continue? 0 (c :: cs)

/-- The 32-bit number that a text denotes. Zeros in front do not count towards the limit. -/
def bounded? (text : List Char) : Option UInt32 :=
  match value? text with
  | some n => if h : n < UInt32.size then some (UInt32.ofNatLT n h) else none
  | none => none

/-- The digits of a number with zeros in front, so that they and the minus sign, if there is one,
    take at least `width` places. -/
def padded (width : Nat) (n : Int) : String :=
  let digits := toString n.natAbs
  let sign := if n < 0 then "-" else ""
  sign ++ String.ofList (List.replicate (width - sign.length - digits.length) '0') ++ digits

/-! ### Laws -/

/-- Digits may be read in two parts. -/
theorem continue?_append (value : Nat) (a b : List Char) :
    continue? value (a ++ b) = (continue? value a).bind (continue? · b) := by
  induction a generalizing value with
  | nil => rfl
  | cons c a ih =>
    simp only [List.cons_append, continue?]
    split <;> simp [ih]

/-- A digit that was written is read as its value. -/
theorem digitValue?_digitChar {d : Nat} (h : d < 10) : digitValue? (Nat.digitChar d) = some d := by
  have : ∀ d < 10, digitValue? (Nat.digitChar d) = some d := by decide
  exact this d h

theorem continue?_toDigits (n : Nat) : continue? 0 (Nat.toDigits 10 n) = some n := by
  induction n using Nat.strongRecOn with
  | _ n ih =>
    by_cases h : n < 10
    · rw [Nat.toDigits_of_lt_base h]
      simp [continue?, digitValue?_digitChar h]
    · have split : Nat.toDigits 10 n = Nat.toDigits 10 (n / 10) ++ [Nat.digitChar (n % 10)] := by
        rw [← Nat.toDigits_of_lt_base (b := 10) (n := n % 10) (by omega),
          Nat.toDigits_append_toDigits (by decide) (by omega) (by omega)]
        congr 1
        omega
      rw [split, continue?_append, ih (n / 10) (by omega)]
      simp [continue?, digitValue?_digitChar (Nat.mod_lt n (by decide : 10 > 0))]
      omega

/-- A number that was written is read again. -/
@[simp] theorem value?_toDigits (n : Nat) : value? (Nat.toDigits 10 n) = some n := by
  rw [← continue?_toDigits n]
  cases h : Nat.toDigits 10 n with
  | nil => exact absurd h (by simp)
  | cons c cs => rfl

end DatabaseLogon.Decimal
