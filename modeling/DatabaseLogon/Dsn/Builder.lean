import DatabaseLogon.Dsn.Basic

namespace DatabaseLogon.Dsn

/-!
# Building data source names

* `Builder` — a name in the making; `Builder.set` makes one `Change`, `Builder.setAll` several.
* `Builder.build` — the finished name. It is refused if its connection string could not be read.
-/

variable [ZoneTable]

/-- A change of one field of a name. -/
inductive Change where
  | username (text : String)
  | password (text : String)
  | connect (text : String)
  | location (l : Location)
  | transactionMode (m : TransactionMode)
  | questionMarkPlaceholders (enabled : Bool)
  | prefetchRows (rows : UInt32)
  | prefetchMemory (bytes : UInt32)
  | privilegedMode (m : PrivilegedMode)
  deriving DecidableEq

/-- A name in the making. -/
structure Builder where
  dsn : Dsn
  deriving DecidableEq

namespace Builder

/-- A name of which nothing is said yet. -/
def empty : Builder where
  dsn := .empty

/-- Make one change. -/
def set (b : Builder) : Change → Builder
  | .username text => { b with dsn.username := text }
  | .password text => { b with dsn.password := text }
  | .connect text => { b with dsn.connect := text }
  | .location l => { b with dsn.location := l }
  | .transactionMode m => { b with dsn.transactionMode := m }
  | .questionMarkPlaceholders enabled => { b with dsn.questionMarkPlaceholders := enabled }
  | .prefetchRows rows => { b with dsn.prefetchRows := rows }
  | .prefetchMemory bytes => { b with dsn.prefetchMemory := bytes }
  | .privilegedMode m => { b with dsn.privilegedMode := m }

/-- Make changes in order. -/
def setAll (b : Builder) (changes : List Change) : Builder :=
  changes.foldl set b

/-- The finished name, or its link's first character that no link can hold. -/
def finish (b : Builder) : Except Fault Dsn :=
  match b.dsn.connect.toList.find? isForbidden with
  | some c => .error (.character c)
  | none => .ok b.dsn.settled

/-- Finish a name. -/
def build (b : Builder) : Except Error Dsn :=
  b.finish.mapError Fault.toError

/-- The text of a builder as a value. The password does not appear. -/
def describe (b : Builder) : String :=
  Text.record "DsnBuilder" [("dsn", b.dsn.describe)]

end Builder

end DatabaseLogon.Dsn
