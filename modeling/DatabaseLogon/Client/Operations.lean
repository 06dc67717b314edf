import DatabaseLogon.Action
import DatabaseLogon.Text.Utf8

namespace DatabaseLogon.Client

/-!
# Operations of a client library

One operation per entry point, each with its rule of success: creating an environment, beginning a
session and logging on succeed also with a remark, everything else only without, and what should
produce a handle fails if none was written. A failed operation gives back the status.

* `createEnvironment`, `allocate`, `free`, `attach`, `detach`, `setAttribute`, `beginSession`,
  `endSession`, `logon`, `logoff`, `startTransaction`, `commit`, `rollback`, `ping`.
* `readDiagnostic` — the record of the last failure.
* `reported` — an operation with its status turned into an error, for which the record is read if
  the status says that there is one.
-/

variable {σ α : Type} [ClientLibrary σ]

/-! ### Rules of success -/

/-- Success without a remark. -/
def check (reply : Reply) : Except Status Unit :=
  if reply.status.isSuccess then .ok () else .error reply.status

/-- Success, a remark allowed and logged. -/
def checkWithInfo (reply : Reply) : Action σ (Except Status Unit) := do
  if reply.status = .successWithInfo then
    Action.log .successWithInfo
  return if reply.status.isSuccessOrInfo then .ok () else .error reply.status

/-- The handle that a successful call wrote. -/
def produced (reply : Reply) : Except Status Handle :=
  match reply.handle with
  | some h => .ok h
  | none => .error .invalidHandle

/-! ### Handles -/

/-- Free a handle. -/
def free (h : Handle) (kind : HandleKind) : Action σ (Except Status Unit) := do
  return check (← Action.call (.handleFree h kind))

/-- Free an environment that nobody owns. A failure is only logged. -/
def discardEnvironment (environment : Handle) : Action σ Unit := do
  match ← free environment .environment with
  | .ok () => return ()
  | .error status => Action.log (.discardFailed status)

/-- Create an environment. One that came with a failure is freed at once. -/
def createEnvironment (mode : Nat) : Action σ (Except Status Handle) := do
  let reply ← Action.call (.envCreate mode)
  match ← checkWithInfo reply with
  | .ok () => return produced reply
  | .error status =>
    match reply.handle with
    | some orphan => discardEnvironment orphan
    | none => pure ()
    return .error status

/-- Allocate a handle under an environment. -/
def allocate (environment : Handle) (kind : HandleKind) : Action σ (Except Status Handle) := do
  let reply ← Action.call (.handleAlloc environment kind)
  match check reply with
  | .ok () => return produced reply
  | .error status => return .error status

/-! ### Servers and sessions -/

/-- Attach a server handle to the database behind a link, or to the default one. -/
def attach (server error : Handle) (link : Option String) : Action σ (Except Status Unit) := do
  return check (← Action.call (.serverAttach server error link))

/-- Detach a server handle. -/
def detach (server error : Handle) : Action σ (Except Status Unit) := do
  return check (← Action.call (.serverDetach server error))

/-- Set an attribute of a handle. -/
def setAttribute (target : Handle) (kind : HandleKind) (which : Attribute) (value : AttributeValue)
    (error : Handle) : Action σ (Except Status Unit) := do
  return check (← Action.call (.attrSet target kind which value error))

/-- Begin a user session. -/
def beginSession (service error session : Handle) (credential : Credential)
    (mode : PrivilegedMode) : Action σ (Except Status Unit) := do
  checkWithInfo (← Action.call (.sessionBegin service error session credential mode))

/-- End a user session. -/
def endSession (service error session : Handle) : Action σ (Except Status Unit) := do
  return check (← Action.call (.sessionEnd service error session))

/-- Log on in one call, which yields a service context. -/
def logon (environment error : Handle) (username password link : String) :
    Action σ (Except Status Handle) := do
  let reply ← Action.call (.logon environment error username password link)
  match ← checkWithInfo reply with
  | .ok () => return produced reply
  | .error status => return .error status

/-- Log off, which frees the service context too. -/
def logoff (service error : Handle) : Action σ (Except Status Unit) := do
  return check (← Action.call (.logoff service error))

/-! ### Transactions -/

/-- Start a transaction of a given isolation. -/
def startTransaction (service error : Handle) (timeout : Nat) (mode : TransactionMode) :
    Action σ (Except Status Unit) := do
  return check (← Action.call (.transStart service error timeout mode))

/-- Commit the transaction. -/
def commit (service error : Handle) : Action σ (Except Status Unit) := do
  return check (← Action.call (.transCommit service error))

/-- Roll back the transaction. -/
def rollback (service error : Handle) : Action σ (Except Status Unit) := do
  return check (← Action.call (.transRollback service error))

/-- Ask whether the server answers. -/
def ping (service error : Handle) : Action σ (Except Status Unit) := do
  return check (← Action.call (.ping service error))

/-! ### Diagnostics -/

/-- The text in the buffer for diagnostics: what fits into it, up to the first NUL. -/
def bufferText (bytes : List UInt8) : List Char :=
  Utf8.decodeLossy ((bytes.take diagnosticBufferSize).takeWhile (· ≠ 0))

/-- The record that a reply holds. A remark is no success here. -/
def recordOf (reply : Reply) : Option Diagnostic :=
  if reply.status.isSuccess then
    some (Diagnostic.ofText reply.errorCode (bufferText reply.errorText))
  else none

/-- Read the first record of an error handle. -/
def readDiagnostic (error : Handle) : Action σ (Option Diagnostic) := do
  return recordOf (← Action.call (.errorGet error))

/-- The error that a failed status means. Only the status for a plain error promises a record. -/
def errorOf (error : Handle) (status : Status) : Action σ Error := do
  if status = .error then
    match ← readDiagnostic error with
    | some record => return .oracle record
    | none => return .native status
  else
    return .native status

/-- An operation with its status turned into an error. -/
def reported (error : Handle) (m : Action σ (Except Status α)) : Action σ (Except Error α) := do
  match ← m with
  | .ok a => return .ok a
  | .error status => return .error (← errorOf error status)

end DatabaseLogon.Client
