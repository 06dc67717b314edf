import DatabaseLogon.Client.Handle

namespace DatabaseLogon

/-!
# Native resources
-/

/-- Something that the client library holds for a connection and that has to be given back. -/
inductive Resource where
  /-- An allocated handle, to be freed. -/
  | handle (h : Handle) (kind : HandleKind)
  /-- A server handle that is attached to a database, to be detached. -/
  | attachment (server error : Handle)
  /-- A user session that has begun, to be ended. -/
  | session (service error session : Handle)
  /-- A service context from a direct logon, to be logged off. -/
  | logon (service error : Handle)
  deriving DecidableEq

/-- The name of a resource in log events. -/
def Resource.text : Resource → String
  | .handle _ kind => kind.text ++ " handle"
  | .attachment .. => "server attachment"
  | .session .. => "user session"
  | .logon .. => "logon"

end DatabaseLogon
