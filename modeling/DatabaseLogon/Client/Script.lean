import DatabaseLogon.Action

namespace DatabaseLogon

/-!
# A scripted client library

A client library that answers by rules. It issues the handles 16, 32, 48, ... in this order, never
one of them twice, and has a queue of diagnostics.

* `Script.Rule` — the answer to certain calls, for a number of times or always.
* `Script.answer` — the answer to a call, by the first rule that applies.
-/

namespace Script

/-- How certain calls are answered. -/
structure Rule where
  /-- The function that is called. -/
  entryPoint : EntryPoint
  /-- The kind of handle or the attribute that the call is about, if the rule depends on it. -/
  subject? : Option Nat
  /-- The return code. -/
  code : Int
  /-- How many more times the rule applies; none means always. -/
  timesLeft : Option Nat
  /-- Is a handle written? If left open, exactly with success or a remark. -/
  writesHandle : Option Bool
  deriving DecidableEq, Repr

/-- A diagnostic in the queue. -/
structure Record where
  /-- The return code of the call that reads it. -/
  status : Int
  code : Int
  text : List UInt8
  deriving DecidableEq, Repr

namespace Rule

/-- Does a rule apply to a call? -/
def applies (r : Rule) (c : Call) : Bool :=
  r.entryPoint = c.entryPoint && (r.subject? = none || r.subject? = c.subject?)
    && r.timesLeft ≠ some 0

/-- The rule with one time used. -/
def used (r : Rule) : Rule :=
  { r with timesLeft := r.timesLeft.map (· - 1) }

end Rule

/-- The first rule that applies to a call, and the rules with this one used once. -/
def takeRule (c : Call) : List Rule → Option Rule × List Rule
  | [] => (none, [])
  | r :: rules =>
    if r.applies c then (some r, r.used :: rules)
    else
      let (found, rest) := takeRule c rules
      (found, r :: rest)

end Script

/-- The state of a scripted client library. -/
structure Script where
  rules : List Script.Rule
  records : List Script.Record
  /-- How many handles were issued. -/
  issued : Nat
  deriving DecidableEq, Repr

namespace Script

/-- A library that answers every call with success. -/
def empty : Script where
  rules := []
  records := []
  issued := 0

/-- The handle that is issued after `n` others. -/
def handle (n : Nat) : Handle where
  token := 16 * (n + 1)
  token_pos := by omega

/-- Issue the next handle. -/
def issue (s : Script) : Handle × Script :=
  (handle s.issued, { s with issued := s.issued + 1 })

/-- Hand out the next diagnostic; without one there is no data. -/
def readRecord (s : Script) : Reply × Script :=
  match s.records with
  | [] => (.plain 100, s)
  | r :: records =>
    ({ code := r.status, handle := none, errorCode := r.code, errorText := r.text },
      { s with records })

/-- Answer by the rules. Without a rule that applies a call succeeds. -/
def follow (s : Script) (c : Call) : Reply × Script :=
  let (rule, rules) := takeRule c s.rules
  let code := (rule.map Rule.code).getD 0
  let writes := (rule.bind Rule.writesHandle).getD (code = 0 || code = 1)
  let s := { s with rules }
  if c.entryPoint.producesHandle && writes then
    let (h, s) := s.issue
    ({ Reply.plain code with handle := some h }, s)
  else (.plain code, s)

/-- The answer to a call. Reading a diagnostic takes one from the queue, all else goes by the
    rules. -/
def answer (c : Call) (s : Script) : Reply × Script :=
  match c with
  | .errorGet _ => s.readRecord
  | _ => s.follow c

instance : ClientLibrary Script where
  answer := answer

end Script

end DatabaseLogon
