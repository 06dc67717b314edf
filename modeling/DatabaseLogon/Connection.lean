import DatabaseLogon.Logon
import DatabaseLogon.Placeholder

namespace DatabaseLogon

/-!
# Connections

* `Connection` — an open or closed connection: its handles, what it owns, its settings and its
  state.
* `Operation`, `Connection.perform` — what can be done with a connection.
* `Connection.release` — letting go of a connection without closing it.
* `Transaction` — a connection on which a transaction has begun.
-/

variable {σ : Type} [ClientLibrary σ]

/-- A connection to a database. -/
structure Connection where
  /-- The number of the attempt that opened it. -/
  id : UInt32
  /-- The native resources that it owns, the newest first. -/
  held : List Resource
  environment : Handle
  error : Handle
  logon : Logon
  settings : Settings
  inTransaction : Bool
  closed : Bool
  deriving DecidableEq

/-- Something to do with a connection. -/
inductive Operation where
  | ping
  | begin
  | commit
  | rollback
  | close
  deriving DecidableEq, Repr

namespace Connection

/-- The text of a connection as a value. -/
def describe (c : Connection) : String :=
  Text.record "Connection"
    [("id", toString c.id.toNat),
     ("protocol", c.logon.protocol.describe),
     ("location", c.settings.location.describe),
     ("transaction_mode", c.settings.transactionMode.describe),
     ("in_transaction", Text.truth c.inTransaction),
     ("closed", Text.truth c.closed)]

/-- Make a statement ready. Its markers are numbered if the connection string asked for it. -/
def prepare (c : Connection) (sql : String) : Prepared :=
  if c.settings.questionMarkPlaceholders then .ofMarked sql else .unchanged sql

/-- Do something that needs an open connection. -/
def whenOpen (c : Connection) (m : Action σ (Except Error Unit × Connection)) :
    Action σ (Except Error Unit × Connection) :=
  if c.closed then return (.error .connectionClosed, c) else m

/-- Ask whether the server answers. -/
def ping (c : Connection) : Action σ (Except Error Unit × Connection) :=
  c.whenOpen do
    let result ← Client.reported c.error (Client.ping c.logon.service c.error)
    return (result, c)

/-- The time that a transaction may be idle, in seconds; zero is no limit. -/
def transactionTimeout : Nat := 0

/-- Begin a transaction. Only an isolation other than the usual one needs a native call. A failure
    leaves no transaction. -/
def begin (c : Connection) : Action σ (Except Error Unit × Connection) :=
  c.whenOpen do
    let mode := c.settings.transactionMode
    let started ←
      if mode = .readWrite then pure (.ok ())
      else
        Client.reported c.error
          (Client.startTransaction c.logon.service c.error transactionTimeout mode)
    match started with
    | .ok () =>
      Action.log (.transactionBegun c.id mode)
      return (.ok (), { c with inTransaction := true })
    | .error e => return (.error e, { c with inTransaction := false })

/-- Commit. There is no transaction any more, whether this succeeds or not. -/
def commit (c : Connection) : Action σ (Except Error Unit × Connection) :=
  let c := { c with inTransaction := false }
  c.whenOpen do
    let result ← Client.reported c.error (Client.commit c.logon.service c.error)
    return (result, c)

/-- Roll back. There is no transaction any more, whether this succeeds or not. -/
def rollback (c : Connection) : Action σ (Except Error Unit × Connection) :=
  let c := { c with inTransaction := false }
  c.whenOpen do
    let result ← Client.reported c.error (Client.rollback c.logon.service c.error)
    return (result, c)

/-- Close the connection and give back all that it owns. A closed connection stays as it is. -/
def close (c : Connection) : Action σ (Except Error Unit × Connection) :=
  if c.closed then return (.ok (), c)
  else do
    Action.log (.closing c.id)
    let (result, held) ← releaseAll c.held
    return (result, { c with held, inTransaction := false, closed := true })

/-- Let go of the connection. What it still owns is given back; failures are only logged. -/
def release (c : Connection) : Action σ Unit := do
  let _ ← releaseAll c.held

/-- Do something with the connection. -/
def perform (c : Connection) : Operation → Action σ (Except Error Unit × Connection)
  | .ping => c.ping
  | .begin => c.begin
  | .commit => c.commit
  | .rollback => c.rollback
  | .close => c.close

end Connection

/-- A transaction on a connection. It has no state of its own, so letting go of it leaves the
    transaction open. -/
structure Transaction where
  connection : Connection
  deriving DecidableEq

/-- The text of a transaction as a value. -/
def Transaction.describe (t : Transaction) : String :=
  Text.record "Transaction" [("conn", t.connection.describe)]

end DatabaseLogon
