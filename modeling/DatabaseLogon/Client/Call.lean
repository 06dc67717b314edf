import DatabaseLogon.Client.EntryPoint
import DatabaseLogon.Client.Handle
import DatabaseLogon.Client.Status
import DatabaseLogon.PrivilegedMode
import DatabaseLogon.TransactionMode

namespace DatabaseLogon

/-!
# Native calls

* `Call` — a call of an entry point with what it is about; `Call.arguments` lists the arguments as
  the library receives them, with constant flags and with lengths that are cast to native integers.
* `Reply` — what the library did in answer.
* `Attribute`, `AttributeValue`, `Credential` — the vocabulary of the logon calls.
-/

/-- An attribute that is set while logging on. -/
inductive Attribute where
  /-- The server handle of a service context. -/
  | server
  /-- The session handle of a service context. -/
  | session
  /-- The user name of a session. -/
  | username
  /-- The password of a session. -/
  | password
  deriving DecidableEq, Repr

namespace Attribute

/-- The number of an attribute in native calls. -/
def code : Attribute → Nat
  | .server => 6
  | .session => 7
  | .username => 22
  | .password => 23

end Attribute

/-- A value for an attribute. -/
inductive AttributeValue where
  | handle (h : Handle)
  | text (s : String)
  deriving DecidableEq

/-- How a session proves who it is. -/
inductive Credential where
  /-- By user name and password. -/
  | rdbms
  /-- By the operating system or another outside authority. -/
  | external
  deriving DecidableEq, Repr

namespace Credential

/-- The number of a credential in native calls. -/
def code : Credential → Nat
  | .rdbms => 1
  | .external => 2

/-- The text of a credential as a value. -/
def describe : Credential → String
  | .rdbms => "Rdbms"
  | .external => "External"

end Credential

/-- The size of the buffer for the text of a diagnostic, in bytes. -/
def diagnosticBufferSize : Nat := 3072

/-- A call of the client library. -/
inductive Call where
  | envCreate (mode : Nat)
  | handleAlloc (parent : Handle) (kind : HandleKind)
  | handleFree (handle : Handle) (kind : HandleKind)
  /-- Without a link the default database is meant. -/
  | serverAttach (server error : Handle) (link : Option String)
  | serverDetach (server error : Handle)
  | attrSet (target : Handle) (kind : HandleKind) (which : Attribute) (value : AttributeValue)
      (error : Handle)
  | sessionBegin (service error session : Handle) (credential : Credential) (mode : PrivilegedMode)
  | sessionEnd (service error session : Handle)
  | logon (environment error : Handle) (username password link : String)
  | logoff (service error : Handle)
  | transStart (service error : Handle) (timeout : Nat) (mode : TransactionMode)
  | transCommit (service error : Handle)
  | transRollback (service error : Handle)
  | ping (service error : Handle)
  | errorGet (error : Handle)
  deriving DecidableEq

/-- An argument as the library receives it. -/
inductive Argument where
  /-- A number, or the address of a handle. -/
  | number (n : Int)
  | text (s : String)
  | null
  deriving DecidableEq, Repr

namespace Call

/-- The function that is called. -/
def entryPoint : Call → EntryPoint
  | .envCreate .. => .envCreate
  | .handleAlloc .. => .handleAlloc
  | .handleFree .. => .handleFree
  | .serverAttach .. => .serverAttach
  | .serverDetach .. => .serverDetach
  | .attrSet .. => .attrSet
  | .sessionBegin .. => .sessionBegin
  | .sessionEnd .. => .sessionEnd
  | .logon .. => .logon
  | .logoff .. => .logoff
  | .transStart .. => .transStart
  | .transCommit .. => .transCommit
  | .transRollback .. => .transRollback
  | .ping .. => .ping
  | .errorGet .. => .errorGet

/-- The number that tells calls of one function apart: the kind of handle that is allocated or
    freed, the attribute that is set. -/
def subject? : Call → Option Nat
  | .handleAlloc _ kind => some kind.code
  | .handleFree _ kind => some kind.code
  | .attrSet _ _ which _ _ => some which.code
  | _ => none

/-- A handle as an argument. -/
def handleArgument (h : Handle) : Argument :=
  .number h.token

/-- A text as two arguments, its bytes and how many they are. The length is a native unsigned
    integer, into which the count is cast. -/
def textArguments (s : String) : List Argument :=
  [.text s, .number (UInt32.ofNat s.utf8ByteSize).toNat]

/-- The link to a server as two arguments. Here the length is a native signed integer, and without a
    link the pointer is null. -/
def linkArguments : Option String → List Argument
  | some link => [.text link, .number (Int32.ofNat link.utf8ByteSize).toInt]
  | none => [.null, .number 0]

/-- The value of an attribute as two arguments, the value and its size. A handle has size zero. -/
def valueArguments : AttributeValue → List Argument
  | .handle h => [handleArgument h, .number 0]
  | .text s => textArguments s

/-- The arguments of a call as the library receives them. Flags that are always the same stand in
    their places. -/
def arguments : Call → List Argument
  | .envCreate mode => [.number mode, .number 0]
  | .handleAlloc parent kind => [handleArgument parent, .number kind.code, .number 0]
  | .handleFree h kind => [handleArgument h, .number kind.code]
  | .serverAttach server error link =>
    [handleArgument server, handleArgument error] ++ linkArguments link ++ [.number 0]
  | .serverDetach server error => [handleArgument server, handleArgument error, .number 0]
  | .attrSet target kind which value error =>
    [handleArgument target, .number kind.code] ++ valueArguments value
      ++ [.number which.code, handleArgument error]
  | .sessionBegin service error session credential mode =>
    [handleArgument service, handleArgument error, handleArgument session, .number credential.code,
      .number mode.code]
  | .sessionEnd service error session =>
    [handleArgument service, handleArgument error, handleArgument session, .number 0]
  | .logon environment error username password link =>
    [handleArgument environment, handleArgument error] ++ textArguments username
      ++ textArguments password ++ textArguments link
  | .logoff service error => [handleArgument service, handleArgument error]
  | .transStart service error timeout mode =>
    [handleArgument service, handleArgument error, .number timeout, .number mode.code]
  | .transCommit service error => [handleArgument service, handleArgument error, .number 0]
  | .transRollback service error => [handleArgument service, handleArgument error, .number 0]
  | .ping service error => [handleArgument service, handleArgument error, .number 0]
  | .errorGet error =>
    [handleArgument error, .number 1, .number diagnosticBufferSize, .number HandleKind.error.code]

end Call

/-- What the library did in answer to a call. -/
structure Reply where
  /-- The return code. -/
  code : Int
  /-- The handle that was written, which does not depend on the return code. -/
  handle : Option Handle
  /-- The error number that was written. -/
  errorCode : Int
  /-- The bytes that were written as the text of a diagnostic, as many as the library had. -/
  errorText : List UInt8
  deriving DecidableEq

/-- A reply that writes nothing. -/
def Reply.plain (code : Int) : Reply where
  code := code
  handle := none
  errorCode := 0
  errorText := []

/-- The status that a reply tells. -/
def Reply.status (r : Reply) : Status :=
  ⟨r.code⟩

end DatabaseLogon
