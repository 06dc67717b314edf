import DatabaseLogon.Dsn.Basic
import DatabaseLogon.Location.Zone
import DatabaseLogon.Ownership

namespace DatabaseLogon

/-!
# Logging on

The steps from nothing to a connection. Each step that acquires something makes it owned at once,
so a failure at any step leaves exactly what has to be given back. Each step logs the number of the
connection.

* `Logon` — the handles that a logon yields besides environment and error handle.
* `Logon.ladder` — all steps of a protocol.
-/

variable {σ : Type} [ClientLibrary σ]

/-- The handles that a logon yields. -/
inductive Logon where
  | session (service server session : Handle)
  | direct (service : Handle)
  deriving DecidableEq

namespace Logon

/-- The protocol that yields such handles. -/
def protocol : Logon → Protocol
  | .session .. => .session
  | .direct _ => .direct

/-- The service context, on which transactions run. -/
def service : Logon → Handle
  | .session service _ _ => service
  | .direct service => service

/-- The server handle, if there is one. -/
def server? : Logon → Option Handle
  | .session _ server _ => some server
  | .direct _ => none

/-- The session handle, if there is one. -/
def session? : Logon → Option Handle
  | .session _ _ user => some user
  | .direct _ => none

/-- The mode in which environments are created: handles may move between threads. -/
def environmentMode : Nat := 1

/-- Create the environment and own it. Without an environment there is no error handle to ask. -/
def openEnvironment (id : UInt32) : Climb σ Handle := do
  let environment ← Climb.attempt (do
    match ← Client.createEnvironment environmentMode with
    | .ok h => return .ok h
    | .error status =>
      Action.log (.environmentFailed id status)
      return .error .environmentCreate)
  Climb.own (.handle environment .environment)
  Climb.log (.acquired id .environment)
  return environment

/-- Attach a server handle. External authentication uses the default database. -/
def attachServer (id : UInt32) (server error : Handle) (dsn : Dsn) : Climb σ Unit := do
  let link := if dsn.externalAuth then none else some dsn.connect
  Climb.attempt (Client.reported error (Client.attach server error link))
  Climb.own (.attachment server error)
  Climb.log (.serverAttached id dsn.connect)

/-- Tell a session handle who logs on, and how that is proved. -/
def giveCredentials (session error : Handle) (dsn : Dsn) : Climb σ Credential := do
  if dsn.externalAuth then
    return .external
  else
    let tell (which : Attribute) (text : String) : Climb σ Unit :=
      Climb.attempt
        (Client.reported error (Client.setAttribute session .session which (.text text) error))
    tell .username dsn.username
    tell .password dsn.password
    return .rdbms

/-- Set a handle as an attribute of a service context. -/
def link (service error : Handle) (which : Attribute) (h : Handle) : Climb σ Unit :=
  Climb.attempt
    (Client.reported error (Client.setAttribute service .serviceContext which (.handle h) error))

/-- Log on by attaching to the server and beginning a session. -/
def bySession (id : UInt32) (environment error : Handle) (dsn : Dsn) : Climb σ Logon := do
  let server ← Climb.allocate id environment .server
  attachServer id server error dsn
  let service ← Climb.allocate id environment .serviceContext
  link service error .server server
  let session ← Climb.allocate id environment .session
  let credential ← giveCredentials session error dsn
  Climb.attempt
    (Client.reported error
      (Client.beginSession service error session credential dsn.privilegedMode))
  Climb.own (.session service error session)
  Climb.log (.sessionBegun id credential dsn.privilegedMode)
  link service error .session session
  return .session service server session

/-- Log on in one call. What this protocol cannot do is ignored with a warning. -/
def byCall (id : UInt32) (environment error : Handle) (dsn : Dsn) : Climb σ Logon := do
  if dsn.privilegedMode ≠ .default then
    Climb.log (.privilegeIgnored id dsn.privilegedMode)
  if dsn.externalAuth then
    Climb.log (.externalIgnored id)
  let service ← Climb.attempt
    (Client.reported error
      (Client.logon environment error dsn.username dsn.password dsn.connect))
  Climb.own (.logon service error)
  Climb.log (.loggedOn id)
  return .direct service

/-- All steps for the connection with this number: the environment, the error handle, the logon. -/
def ladder (id : UInt32) (protocol : Protocol) (dsn : Dsn) :
    Climb σ (Handle × Handle × Logon) := do
  let environment ← openEnvironment id
  let error ← Climb.allocate id environment .error
  let logon ←
    match protocol with
    | .session => bySession id environment error dsn
    | .direct => byCall id environment error dsn
  return (environment, error, logon)

end Logon

end DatabaseLogon
