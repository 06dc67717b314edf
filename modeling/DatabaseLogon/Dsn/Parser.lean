import DatabaseLogon.Dsn.Basic
import DatabaseLogon.Text.Decimal
import DatabaseLogon.Text.Form
import DatabaseLogon.Text.Percent
import DatabaseLogon.Text.Split

namespace DatabaseLogon

/-!
# Reading connection strings

A connection string is `[oracle://][user[/password]@]host[?key=value&...]`. It is cut from the
right: the last `@` ends the credentials, the last `/` in them separates the password, the last `?`
behind them begins the query. So the user name and the password may hold a raw `@`, the user name a
raw `/` and the host a raw `?`.

* `Dsn.Parts.ofText` — the cut.
* `Dsn.readComponent`, `Dsn.readHost` — undoing the escapes of a part.
* `Settings.ofPairs` — the meaning of the query: of each key the first value counts.
* `Dsn.parse` — all together.
-/

namespace Dsn

/-- A connection string without the scheme in front. -/
def withoutScheme (text : List Char) : List Char :=
  if scheme.isPrefixOf text then text.drop scheme.length else text

/-- The parts of a connection string, escapes still in place. -/
structure Parts where
  username : List Char
  password : List Char
  host : List Char
  query : List Char
  deriving DecidableEq, Repr

/-- The user name and the password before the `@`. Without `/` there is no password. -/
def splitCredentials (text : List Char) : List Char × List Char :=
  (Text.splitLast '/' text).getD (text, [])

/-- The host and the query behind the `@`. Without `?` there is no query. -/
def splitAddress (text : List Char) : List Char × List Char :=
  (Text.splitLast '?' text).getD (text, [])

/-- The credentials and the address. Without `@` there are no credentials. -/
def splitAuthority (text : List Char) : List Char × List Char :=
  (Text.splitLast '@' text).getD ([], text)

/-- The parts of a connection string without scheme. -/
def Parts.ofText (text : List Char) : Parts :=
  let (authority, address) := splitAuthority text
  let (username, password) := splitCredentials authority
  let (host, query) := splitAddress address
  { username, password, host, query }

/-! ### Escapes -/

/-- A text for the bytes that a part stands for. -/
def readBytes (part : Part) (bytes : List UInt8) : Except Fault String :=
  match Utf8.decode bytes with
  | .ok text => .ok (String.ofList text)
  | .error fault => .error (.encoding fault part)

/-- A part in which every escape is allowed. -/
def readComponent (part : Part) (text : List Char) : Except Fault String :=
  let pieces := Percent.pieces (Utf8.encode text)
  match Percent.stray? pieces with
  | some fragment => .error (.escape fragment part)
  | none => readBytes part (pieces.map Percent.Piece.byte)

/-- What the host cannot hold: a raw blank or control character, and an escape of an ASCII character
    other than the escape mark itself. -/
def hostFault? : Percent.Piece → Option Fault
  | .plain b =>
    let c := Char.ofNat b.toNat
    if isControl c then some (.character c) else none
  | .escape high low =>
    let b := (Percent.Piece.escape high low).byte
    if b < 0x80 ∧ b ≠ Percent.mark then
      some (.escape (Percent.Piece.escape high low).spelling .host)
    else none

/-- The host. All its escapes are well formed before any of them is found not allowed. -/
def readHost (text : List Char) : Except Fault String :=
  let pieces := Percent.pieces (Utf8.encode text)
  match Percent.stray? pieces with
  | some fragment => .error (.escape fragment .host)
  | none =>
    match pieces.findSome? hostFault? with
    | some fault => .error fault
    | none => readBytes .host (pieces.map Percent.Piece.byte)

end Dsn

/-! ### Parameters -/

/-- The value of a switch; case counts. -/
def readSwitch? (value : String) : Option Bool :=
  if value = "YES" ∨ value = "TRUE" then some true
  else if value = "NO" ∨ value = "FALSE" then some false
  else none

variable [ZoneTable]

namespace Settings

/-- The settings with one of them changed to what a value means, if it means anything. -/
def set? (s : Settings) (p : Parameter) (value : String) : Option Settings :=
  match p with
  | .location => (Location.ofName? value).map ({ s with location := · })
  | .isolation => (TransactionMode.ofKeyword? value).map ({ s with transactionMode := · })
  | .placeholders => (readSwitch? value).map ({ s with questionMarkPlaceholders := · })
  | .prefetchRows => (Decimal.bounded? value.toList).map ({ s with prefetchRows := · })
  | .prefetchMemory => (Decimal.bounded? value.toList).map ({ s with prefetchMemory := · })
  | .privilege => (PrivilegedMode.ofKeyword? value).map ({ s with privilegedMode := · })

/-- The settings after one pair of the query. A key that is no parameter is skipped. -/
def setPair (s : Settings) (pair : String × String) : Except Dsn.Fault Settings :=
  match Parameter.ofName? pair.1 with
  | none => .ok s
  | some p =>
    match s.set? p pair.2 with
    | some changed => .ok changed
    | none => .error (.parameter p pair.2)

/-- The settings after some pairs, or the fault of the first pair that cannot be used. -/
def setPairs (s : Settings) : List (String × String) → Except Dsn.Fault Settings
  | [] => .ok s
  | pair :: pairs =>
    match s.setPair pair with
    | .ok changed => changed.setPairs pairs
    | .error fault => .error fault

/-- Of the pairs of one key, only the first. -/
def firstOfEach : List (String × String) → List (String × String)
  | [] => []
  | pair :: pairs => pair :: (firstOfEach pairs).filter (·.1 ≠ pair.1)

/-- The settings that the pairs of a query mean. -/
def ofPairs (pairs : List (String × String)) : Except Dsn.Fault Settings :=
  standard.setPairs (firstOfEach pairs)

end Settings

namespace Dsn

/-- The name that the parts of a connection string mean. The parts are read from left to right, so
    the leftmost part with a fault decides which fault is reported. -/
def ofParts (parts : Parts) : Except Fault Dsn := do
  let username ← readComponent .username parts.username
  let password ← readComponent .password parts.password
  let connect ← readHost parts.host
  let settings ← Settings.ofPairs (Form.pairs (Utf8.encode parts.query))
  return settled { toSettings := settings, username, password, connect, externalAuth := true }

/-- The name that a connection string means. -/
def read (text : List Char) : Except Fault Dsn :=
  if text = [] then .error .empty else ofParts (Parts.ofText (withoutScheme text))

/-- Read a connection string. -/
def parse (text : String) : Except Error Dsn :=
  (read text.toList).mapError Fault.toError

end Dsn

end DatabaseLogon
