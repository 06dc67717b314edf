namespace DatabaseLogon

/-!
# Native handles

* `Handle` — an opaque handle that the client library issued; never null.
* `HandleKind` — what a handle stands for.
-/

/-- A handle issued by the client library, told by its address. -/
structure Handle where
  token : Nat
  token_pos : 0 < token
  deriving DecidableEq

namespace Handle

/-- The handle at this address; the null address is none. -/
def ofToken? (token : Nat) : Option Handle :=
  if h : 0 < token then some ⟨token, h⟩ else none

@[simp] theorem ofToken?_zero : ofToken? 0 = none := rfl

/-- Wrapping the address of a handle gives the handle again. -/
@[simp] theorem ofToken?_token (h : Handle) : ofToken? h.token = some h := by
  simp [ofToken?, h.token_pos]

end Handle

/-- What a handle stands for. -/
inductive HandleKind where
  | environment
  | error
  | server
  | serviceContext
  | session
  deriving DecidableEq, Repr

namespace HandleKind

/-- The number of a kind in native calls. -/
def code : HandleKind → Nat
  | .environment => 1
  | .error => 2
  | .serviceContext => 3
  | .server => 8
  | .session => 9

/-- The name of a kind in messages. -/
def text : HandleKind → String
  | .environment => "environment"
  | .error => "error"
  | .server => "server"
  | .serviceContext => "service context"
  | .session => "user session"

/-- The name of a kind as a value. -/
def describe : HandleKind → String
  | .environment => "Environment"
  | .error => "Error"
  | .server => "Server"
  | .serviceContext => "ServiceContext"
  | .session => "Session"

/-- The short name of a kind in log events. -/
def label : HandleKind → String
  | .environment => "env"
  | .error => "err"
  | .server => "srv"
  | .serviceContext => "svc"
  | .session => "usrSession"

end HandleKind

end DatabaseLogon
