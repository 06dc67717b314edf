import DatabaseLogon.Error
import DatabaseLogon.Location
import DatabaseLogon.PrivilegedMode
import DatabaseLogon.Text.Utf8
import DatabaseLogon.TransactionMode

namespace DatabaseLogon

/-!
# Data source names

* `Dsn` — who logs on, where, and with which `Settings`, given a table of time zones.
* `Parameter` — the settings by their names in a connection string.
* `Dsn.Fault` — what can be wrong with a connection string, and `Dsn.Fault.toError`.
* `Dsn.describe` — a data source name as a value, which hides the password.
-/

section

variable [ZoneTable]

/-- What a connection string may set in its query part. -/
structure Settings where
  location : Location
  transactionMode : TransactionMode
  /-- Are `?` markers in statements numbered? -/
  questionMarkPlaceholders : Bool
  prefetchRows : UInt32
  prefetchMemory : UInt32
  privilegedMode : PrivilegedMode
  deriving DecidableEq

/-- The settings of a connection string without a query part. -/
def Settings.standard : Settings where
  location := .localTime
  transactionMode := .readWrite
  questionMarkPlaceholders := false
  prefetchRows := 10
  prefetchMemory := 0
  privilegedMode := .default

/-- A data source name. -/
structure Dsn extends Settings where
  username : String
  password : String
  /-- The link to the server, `host[:port][/service]`. -/
  connect : String
  /-- Does an outside authority vouch for the user? Settled when a name is read or built. -/
  externalAuth : Bool
  deriving DecidableEq

end

/-- A setting of the query part. -/
inductive Parameter where
  | location
  | isolation
  | placeholders
  | prefetchRows
  | prefetchMemory
  | privilege
  deriving DecidableEq, Repr

namespace Parameter

/-- The parameters, in the order in which they are written. -/
def all : List Parameter :=
  [.location, .isolation, .placeholders, .prefetchRows, .prefetchMemory, .privilege]

/-- The key of a parameter. -/
def name : Parameter → String
  | .location => "loc"
  | .isolation => "isolation"
  | .placeholders => "questionph"
  | .prefetchRows => "prefetch_rows"
  | .prefetchMemory => "prefetch_memory"
  | .privilege => "as"

/-- The parameter of a key; case counts. -/
def ofName? (key : String) : Option Parameter :=
  all.find? (·.name = key)

@[simp] theorem ofName?_name (p : Parameter) : ofName? p.name = some p := by
  cases p <;> decide

end Parameter

namespace Dsn

/-- The scheme that a connection string may begin with. -/
def scheme : List Char :=
  "oracle://".toList

section

variable [ZoneTable]

/-- The name that says nothing: external authentication at the default database. -/
def empty : Dsn where
  toSettings := .standard
  username := ""
  password := ""
  connect := ""
  externalAuth := true

/-- The name with its external authentication settled: it applies if nothing says who logs on and
    where. -/
def settled (d : Dsn) : Dsn :=
  { d with externalAuth := d.username = "" && d.password = "" && d.connect = "" }

/-- The text of a name as a value. The password does not appear. -/
def describe (d : Dsn) : String :=
  Text.record "Dsn"
    [("username", Text.quoted d.username),
     ("password", Text.quoted "***"),
     ("connect", Text.quoted d.connect),
     ("location", d.location.describe),
     ("transaction_mode", d.transactionMode.describe),
     ("question_mark_placeholders", Text.truth d.questionMarkPlaceholders),
     ("prefetch_rows", toString d.prefetchRows.toNat),
     ("prefetch_memory", toString d.prefetchMemory.toNat),
     ("privileged_mode", d.privilegedMode.describe),
     ("external_auth", Text.truth d.externalAuth)]

end

/-! ### Faults -/

/-- A part of a connection string that may hold escapes. -/
inductive Part where
  | username
  | password
  | host
  deriving DecidableEq, Repr

/-- The name of a part in messages. -/
def Part.name : Part → String
  | .username => "username"
  | .password => "password"
  | .host => "host"

/-- What is wrong with a connection string. -/
inductive Fault where
  /-- There is no text at all. -/
  | empty
  /-- An escape that is malformed or not allowed in this part, as it is written. -/
  | escape (fragment : List UInt8) (part : Part)
  /-- A character that the host cannot hold. -/
  | character (c : Char)
  /-- The unescaped bytes are no UTF-8. -/
  | encoding (fault : Utf8.Fault) (part : Part)
  /-- A parameter has a value that cannot be used. -/
  | parameter (p : Parameter) (value : String)
  deriving DecidableEq

/-- The error that reports a fault. -/
def Fault.toError : Fault → Error
  | .empty => .invalidConnectionString "empty dsn"
  | .escape fragment part =>
    .invalidConnectionString
      ("invalid escape " ++ Text.quoted (String.ofList (Utf8.decodeLossy fragment)) ++ " in "
        ++ part.name)
  | .character c =>
    .invalidConnectionString ("invalid character " ++ Text.quotedChar c ++ " in host")
  | .encoding fault part =>
    .invalidConnectionString ("invalid " ++ part.name ++ ": " ++ fault.message)
  | .parameter p value => .invalidParameter p.name value

/-- Every fault of a connection string is a configuration error. -/
@[simp] theorem Fault.isConfiguration_toError (f : Fault) : f.toError.isConfiguration = true := by
  cases f <;> rfl

/-- Is this an ASCII blank or control character? -/
def isControl (c : Char) : Bool :=
  c.toNat ≤ 0x20 || c.toNat = 0x7F

/-- Can a link to the server not hold this character? A link must be readable when it is written
    into a connection string. -/
def isForbidden (c : Char) : Bool :=
  c = '@' || isControl c

end Dsn

end DatabaseLogon
