import DatabaseLogon.Client.Diagnostic
import DatabaseLogon.Client.EntryPoint
import DatabaseLogon.Client.Handle
import DatabaseLogon.Client.Status
import DatabaseLogon.Duration
import DatabaseLogon.Text.Decimal

namespace DatabaseLogon

/-!
# Errors

Three groups: connection strings that cannot be used, failures before there is an error handle to
ask, and what native calls and the database report.

* `Error` — the causes; `Error.message` — their wording.
* `Error.isConfiguration`, `Error.isConnection` — the groups that callers tell apart.
-/

/-- Why an operation failed. -/
inductive Error where
  /-- The connection string is malformed. -/
  | invalidConnectionString (text : String)
  /-- A parameter of the connection string has a value that cannot be used. -/
  | invalidParameter (name value : String)
  /-- There is no environment, and so no error handle to ask for the reason. -/
  | environmentCreate
  /-- A handle of this kind could not be allocated. -/
  | handleAlloc (kind : HandleKind)
  /-- The database reported this record. -/
  | oracle (record : Diagnostic)
  /-- A native call failed with a status that comes with no record. -/
  | native (status : Status)
  /-- The client library could not be loaded, or lacks an entry point. -/
  | libraryLoad (path : String) (missing : Option EntryPoint)
  /-- The connection was not there in time. -/
  | connectionTimeout (after : Duration)
  /-- The connection is closed. -/
  | connectionClosed
  /-- A failure that should not happen. -/
  | internal (text : String)
  deriving DecidableEq

namespace Error

/-- The width to which the number of a database error is filled with zeros. -/
def numberWidth : Nat := 5

/-- The wording of an error. -/
def message : Error → String
  | .invalidConnectionString text => "invalid connection string: " ++ text
  | .invalidParameter name value => "invalid " ++ name ++ ": " ++ value
  | .environmentCreate => "cannot create environment"
  | .handleAlloc kind => "cannot allocate " ++ kind.text ++ " handle"
  | .oracle record => "ORA-" ++ Decimal.padded numberWidth record.code ++ ": " ++ record.message
  | .native status => "native call failed: " ++ status.text
  | .libraryLoad path missing =>
    "cannot load OCI library " ++ path ++ ": " ++
      match missing with
      | some entry => "undefined symbol: " ++ entry.symbol
      | none => "cannot open shared object file"
  | .connectionTimeout after => "connection timeout after " ++ after.text
  | .connectionClosed => "connection closed"
  | .internal text => "internal error: " ++ text

/-- The text of an error as a value. -/
def describe : Error → String
  | .invalidConnectionString text => Text.wrapped "InvalidConnectionString" (Text.quoted text)
  | .invalidParameter name value =>
    Text.record "InvalidParameter" [("name", Text.quoted name), ("value", Text.quoted value)]
  | .environmentCreate => "EnvironmentCreate"
  | .handleAlloc kind => Text.wrapped "HandleAlloc" kind.describe
  | .oracle record =>
    Text.record "Oracle" [("code", toString record.code), ("message", Text.quoted record.message)]
  | .native status => Text.wrapped "Native" status.describe
  | .libraryLoad path missing =>
    Text.record "LibraryLoad"
      [("path", Text.quoted path), ("missing", Text.optional (missing.map EntryPoint.symbol))]
  | .connectionTimeout after => Text.wrapped "ConnectionTimeout" after.text
  | .connectionClosed => "ConnectionClosed"
  | .internal text => Text.wrapped "Internal" (Text.quoted text)

/-- The number of an error that the database reported. -/
def oracleCode? : Error → Option Int
  | .oracle record => some record.code
  | _ => none

/-- Is the connection string to blame? -/
def isConfiguration : Error → Bool
  | .invalidConnectionString _ | .invalidParameter .. => true
  | _ => false

/-- Is there no usable connection? -/
def isConnection : Error → Bool
  | .environmentCreate | .handleAlloc _ | .connectionTimeout _ | .connectionClosed => true
  | _ => false

end Error

end DatabaseLogon
