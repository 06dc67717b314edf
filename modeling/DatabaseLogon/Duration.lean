namespace DatabaseLogon

/-!
# Spans of time

* `Duration` — a span in nanoseconds.
* `Duration.text` — its text in the largest unit of which it holds at least one, without rounding:
  `10s`, `1.5ms`, `1.001µs`.
-/

/-- A span of time. -/
structure Duration where
  nanoseconds : Nat
  deriving DecidableEq, Repr

namespace Duration

/-- A span given in seconds and nanoseconds; the nanoseconds may exceed a second. -/
def ofSeconds (seconds nanoseconds : Nat) : Duration :=
  ⟨seconds * 1000000000 + nanoseconds⟩

/-- A span given in microseconds. -/
def ofMicroseconds (n : Nat) : Duration :=
  ⟨n * 1000⟩

/-- The decimals of `numerator / 10 ^ places`, without zeros at the end. -/
def decimals (places numerator : Nat) : List Char :=
  let digits := Nat.toDigits 10 numerator
  let padded := List.replicate (places - digits.length) '0' ++ digits
  (padded.reverse.dropWhile (· = '0')).reverse

/-- A number of units of `10 ^ places` nanoseconds. -/
def inUnit (d : Duration) (places : Nat) (unit : String) : String :=
  let whole := toString (d.nanoseconds / Nat.pow 10 places)
  match decimals places (d.nanoseconds % Nat.pow 10 places) with
  | [] => whole ++ unit
  | digits => whole ++ "." ++ String.ofList digits ++ unit

/-- The text of a span. -/
def text (d : Duration) : String :=
  if 1000000000 ≤ d.nanoseconds then d.inUnit 9 "s"
  else if 1000000 ≤ d.nanoseconds then d.inUnit 6 "ms"
  else if 1000 ≤ d.nanoseconds then d.inUnit 3 "µs"
  else d.inUnit 0 "ns"

end Duration

end DatabaseLogon
