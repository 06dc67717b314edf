import DatabaseLogon.Connection
import DatabaseLogon.Dsn.Parser
import DatabaseLogon.Task

namespace DatabaseLogon

/-!
# Opening connections

* `Driver` — how connections are opened.
* `Driver.openDsn`, `Driver.openText` — opening one.
* `Driver.connect` — opening one in a task that is waited for, with a limit on the time.
-/

variable {σ : Type} [ClientLibrary σ]

/-- How connections are opened. -/
structure Driver where
  protocol : Protocol
  /-- How long `connect` waits. -/
  connectTimeout : Duration
  deriving DecidableEq

namespace Driver

/-- The driver that logs on by a session and waits ten seconds. -/
def standard : Driver where
  protocol := .session
  connectTimeout := .ofSeconds 10 0

/-- The text of a driver as a value. -/
def describe (d : Driver) : String :=
  Text.record "Driver"
    [("protocol", d.protocol.describe), ("connect_timeout", d.connectTimeout.text)]

/-- Open a connection. If a step fails, what the steps before it acquired is given back and the
    failure of that step is the result. -/
def openDsn (d : Driver) (dsn : Dsn) : Action σ (Except Error Connection) := do
  let id ← Action.takeNumber
  let (result, held) ← (Logon.ladder id d.protocol dsn).start
  match result with
  | .ok (environment, error, logon) =>
    Action.log (.connectionOpened id d.protocol dsn.externalAuth)
    return .ok
      { id, held, environment, error, logon
        settings := dsn.toSettings
        inTransaction := false
        closed := false }
  | .error e =>
    let _ ← releaseAll held
    return .error e

/-- Open a connection by a connection string. -/
def openText (d : Driver) (text : String) : Action σ (Except Error Connection) :=
  match Dsn.parse text with
  | .ok dsn => d.openDsn dsn
  | .error e => return .error e

/-- Let go of what an attempt to open a connection yielded. -/
def discard : Except Error Connection → Action σ Unit
  | .ok c => c.release
  | .error _ => return ()

/-- What a driver makes of an attempt that it waited for. -/
def settle (d : Driver) : Waited (Except Error Connection) → Action σ (Except Error Connection)
  | .ended result => return result
  | .unjoined reason => return .error (.internal ("connect task failed: " ++ reason))
  | .timedOut => do
    Action.log (.connectTimedOut d.connectTimeout)
    return .error (.connectionTimeout d.connectTimeout)

/-- Open a connection by a connection string in a task, and wait for it as long as the driver
    allows. An attempt that is late runs to its end behind the caller's back, and a connection that
    it still yields is released. -/
def connect (d : Driver) (text : String) (fate : Fate) : Action σ (Except Error Connection) :=
  match Dsn.parse text with
  | .ok dsn => Task.await (d.openDsn dsn) discard d.settle fate
  | .error e => return .error e

end Driver

end DatabaseLogon
