import DatabaseLogon.Client.Call
import DatabaseLogon.Error
import DatabaseLogon.Resource

namespace DatabaseLogon

/-!
# Log events

* `Event` — what is worth logging; `Event.level`, `Event.message` and `Event.fields` write it down.
* `Protocol` — the two ways of logging on, which events mention.
-/

/-- How to log on to the database. -/
inductive Protocol where
  /-- Attach to the server and begin a session, with separate handles for server, service context
      and session. Only this way serves privileged sessions and external authentication. -/
  | session
  /-- Have one native call yield the service context. -/
  | direct
  deriving DecidableEq, Repr

/-- The text of a protocol as a value. -/
def Protocol.describe : Protocol → String
  | .session => "Session"
  | .direct => "Direct"

/-- How important an event is. -/
inductive Level where
  | trace
  | debug
  | info
  | warn
  deriving DecidableEq, Repr

/-- The name of a level. -/
def Level.text : Level → String
  | .trace => "TRACE"
  | .debug => "DEBUG"
  | .info => "INFO"
  | .warn => "WARN"

/-- An event in the life of a connection. Where `id` stands, it is the number of the connection. -/
inductive Event where
  /-- A native call succeeded with a remark. -/
  | successWithInfo
  | environmentFailed (id : UInt32) (status : Status)
  /-- The environment that a failed call left behind could not be freed. -/
  | discardFailed (status : Status)
  | allocationFailed (kind : HandleKind) (status : Status)
  /-- A resource is owned now, as the one with this number. -/
  | resourceAcquired (r : Resource) (depth : Nat)
  | acquired (id : UInt32) (kind : HandleKind)
  | serverAttached (id : UInt32) (connect : String)
  | sessionBegun (id : UInt32) (credential : Credential) (mode : PrivilegedMode)
  | privilegeIgnored (id : UInt32) (mode : PrivilegedMode)
  | externalIgnored (id : UInt32)
  | loggedOn (id : UInt32)
  | connectionOpened (id : UInt32) (protocol : Protocol) (externalAuth : Bool)
  | connectTimedOut (after : Duration)
  | transactionBegun (id : UInt32) (mode : TransactionMode)
  | closing (id : UInt32)
  | releasing (r : Resource)
  | releaseFailed (r : Resource) (error : Error)
  deriving DecidableEq

/-- A value that an event tells. -/
inductive Field where
  | text (s : String)
  | number (n : Nat)
  | truth (b : Bool)
  deriving DecidableEq, Repr

namespace Event

/-- How important an event is. -/
def level : Event → Level
  | .resourceAcquired .. | .releasing _ => .trace
  | .connectionOpened .. => .info
  | .discardFailed _ | .privilegeIgnored .. | .externalIgnored _ | .connectTimedOut _
  | .releaseFailed .. => .warn
  | .successWithInfo | .environmentFailed .. | .allocationFailed .. | .acquired ..
  | .serverAttached .. | .sessionBegun .. | .loggedOn _ | .transactionBegun ..
  | .closing _ => .debug

/-- The wording of an event. -/
def message : Event → String
  | .successWithInfo => "OCI call returned OCI_SUCCESS_WITH_INFO"
  | .environmentFailed .. => "environment creation failed"
  | .discardFailed _ => "failed to free environment of a failed create"
  | .allocationFailed .. => "handle allocation failed"
  | .resourceAcquired .. => "resource acquired"
  | .acquired .. => "acquired"
  | .serverAttached .. => "server attached"
  | .sessionBegun .. => "session begun"
  | .privilegeIgnored .. => "privileged mode ignored by direct logon"
  | .externalIgnored _ => "external authentication ignored by direct logon"
  | .loggedOn _ => "logged on"
  | .connectionOpened .. => "connection opened"
  | .connectTimedOut _ => "connect timed out"
  | .transactionBegun .. => "transaction begun"
  | .closing _ => "closing connection"
  | .releasing _ => "releasing resource"
  | .releaseFailed .. => "failed to release resource"

/-- The values that an event tells, by name. -/
def fields : Event → List (String × Field)
  | .successWithInfo => []
  | .environmentFailed id status => [("id", .number id.toNat), ("status", .text status.text)]
  | .discardFailed status => [("status", .text status.text)]
  | .allocationFailed kind status => [("kind", .text kind.text), ("status", .text status.text)]
  | .resourceAcquired r depth => [("resource", .text r.text), ("depth", .number depth)]
  | .acquired id kind => [("id", .number id.toNat), ("state", .text kind.label)]
  | .serverAttached id connect => [("id", .number id.toNat), ("connect", .text connect)]
  | .sessionBegun id credential mode =>
    [("id", .number id.toNat), ("credential", .text credential.describe),
      ("mode", .text mode.describe)]
  | .privilegeIgnored id mode => [("id", .number id.toNat), ("mode", .text mode.describe)]
  | .externalIgnored id => [("id", .number id.toNat)]
  | .loggedOn id =>
    [("id", .number id.toNat), ("state", .text HandleKind.serviceContext.label)]
  | .connectionOpened id protocol externalAuth =>
    [("id", .number id.toNat), ("protocol", .text protocol.describe),
      ("external_auth", .truth externalAuth)]
  | .connectTimedOut after => [("timeout", .text after.text)]
  | .transactionBegun id mode => [("id", .number id.toNat), ("mode", .text mode.describe)]
  | .closing id => [("id", .number id.toNat)]
  | .releasing r => [("resource", .text r.text)]
  | .releaseFailed r error => [("resource", .text r.text), ("error", .text error.message)]

end Event

end DatabaseLogon
