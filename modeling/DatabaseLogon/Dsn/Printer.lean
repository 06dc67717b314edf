import DatabaseLogon.Dsn.Basic
import DatabaseLogon.Text.Form

namespace DatabaseLogon

/-!
# Writing connection strings

`Dsn.render` writes a data source name such that reading gives it back. The credentials are written
as address components, the link with its `%` escaped, and of the settings those that differ from the
standard.
-/

variable [ZoneTable]

/-- A pair for a setting that is not at its standard value. -/
def Settings.pair? (p : Parameter) (value? : Option String) : List (String × String) :=
  match value? with
  | some value => [(p.name, value)]
  | none => []

/-- The pairs that tell these settings from the standard. -/
def Settings.pairs (s : Settings) : List (String × String) :=
  pair? .location (if s.location = standard.location then none else some s.location.name)
    ++ pair? .isolation
      (if s.transactionMode = standard.transactionMode then none
        else some s.transactionMode.keyword)
    ++ pair? .placeholders (if s.questionMarkPlaceholders then some "YES" else none)
    ++ pair? .prefetchRows
      (if s.prefetchRows = standard.prefetchRows then none
        else some (toString s.prefetchRows.toNat))
    ++ pair? .prefetchMemory
      (if s.prefetchMemory = standard.prefetchMemory then none
        else some (toString s.prefetchMemory.toNat))
    ++ pair? .privilege s.privilegedMode.keyword?

namespace Dsn

/-- The credentials with the `@` behind them, unless there are none. -/
def credentials (d : Dsn) : List Char :=
  if d.username = "" ∧ d.password = "" then []
  else
    Percent.encodeComponent d.username.toList
      ++ (if d.password = "" then [] else '/' :: Percent.encodeComponent d.password.toList)
      ++ ['@']

/-- The link to the server with its `%` escaped. -/
def host (d : Dsn) : List Char :=
  d.connect.toList.flatMap fun c => if c = '%' then ['%', '2', '5'] else [c]

/-- The query with the `?` in front of it. A link that holds a `?` needs one behind it even without
    a query, because the last `?` is the one that counts. -/
def query (d : Dsn) : List Char :=
  let pairs := Form.write d.pairs
  if pairs = [] ∧ '?' ∉ d.connect.toList then [] else '?' :: pairs

/-- The connection string of a name, the password included. -/
def render (d : Dsn) : String :=
  String.ofList (scheme ++ d.credentials ++ d.host ++ d.query)

end Dsn

end DatabaseLogon
