import DatabaseLogon.Client.Script
import DatabaseLogon.Driver
import DatabaseLogon.Dsn.Builder

namespace DatabaseLogon

/-!
# Steps of a session

* `Step` — what can be done in a session: opening and dropping connections, changing the driver,
  changing the script of the client library, and a `ConnectionStep` with the connection in a slot.
* `ConnectionStep` — what can be done with one connection; a transaction is a step with steps
  inside.
-/

/-- A change of the script. -/
inductive Adjustment where
  /-- Add rules behind those that are there. -/
  | fail (rules : List Script.Rule)
  /-- Remove all rules. -/
  | heal
  /-- Add diagnostics at the end of the queue. -/
  | queue (records : List Script.Record)
  deriving DecidableEq, Repr

/-- The script after a change. -/
def Script.adjust (s : Script) : Adjustment → Script
  | .fail rules => { s with rules := s.rules ++ rules }
  | .heal => { s with rules := [] }
  | .queue records => { s with records := s.records ++ records }

/-- How a transaction ends. -/
inductive Ending where
  | commit
  | rollback
  /-- The transaction is let go of. -/
  | drop
  deriving DecidableEq, Repr

/-- Something to do with one connection. -/
inductive ConnectionStep where
  | operate (op : Operation)
  | prepare (sql : String)
  | info
  | adjust (change : Adjustment)
  /-- Begin a transaction, do steps on its connection, end it. -/
  | transaction (steps : List ConnectionStep) (ending : Ending)

/-- Something to do in a session. -/
inductive Step where
  | openText (slot : Nat) (text : String)
  | openBuilt (slot : Nat) (changes : List Dsn.Change)
  | connect (slot : Nat) (text : String) (fate : Fate)
  | drop (slot : Nat)
  | useProtocol (protocol : Protocol)
  | useTimeout (after : Duration)
  | adjust (change : Adjustment)
  | on (slot : Nat) (step : ConnectionStep)

end DatabaseLogon
