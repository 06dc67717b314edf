namespace DatabaseLogon

/-!
# Entry points of the client library

* `EntryPoint` — the native functions that are used.
* `EntryPoint.all` — all of them, in the order in which they are resolved.
* `EntryPoint.symbol`, `EntryPoint.ofSymbol?` — their names in the library.
-/

/-- A function of the client library. -/
inductive EntryPoint where
  | envCreate
  | handleAlloc
  | handleFree
  | serverAttach
  | serverDetach
  | attrSet
  | sessionBegin
  | sessionEnd
  | logon
  | logoff
  | transStart
  | transCommit
  | transRollback
  | ping
  | errorGet
  deriving DecidableEq, Repr

namespace EntryPoint

/-- The functions in the order in which they are resolved. -/
def all : List EntryPoint :=
  [.envCreate, .handleAlloc, .handleFree, .serverAttach, .serverDetach, .attrSet, .sessionBegin,
    .sessionEnd, .logon, .logoff, .transStart, .transCommit, .transRollback, .ping, .errorGet]

/-- The name under which the library exports a function. -/
def symbol : EntryPoint → String
  | .envCreate => "OCIEnvCreate"
  | .handleAlloc => "OCIHandleAlloc"
  | .handleFree => "OCIHandleFree"
  | .serverAttach => "OCIServerAttach"
  | .serverDetach => "OCIServerDetach"
  | .attrSet => "OCIAttrSet"
  | .sessionBegin => "OCISessionBegin"
  | .sessionEnd => "OCISessionEnd"
  | .logon => "OCILogon"
  | .logoff => "OCILogoff"
  | .transStart => "OCITransStart"
  | .transCommit => "OCITransCommit"
  | .transRollback => "OCITransRollback"
  | .ping => "OCIPing"
  | .errorGet => "OCIErrorGet"

/-- The function that the library exports under a name. -/
def ofSymbol? (name : String) : Option EntryPoint :=
  all.find? (·.symbol = name)

/-- Does a call of this function write a new handle? -/
def producesHandle : EntryPoint → Bool
  | .envCreate | .handleAlloc | .logon => true
  | _ => false

@[simp] theorem ofSymbol?_symbol (e : EntryPoint) : ofSymbol? e.symbol = some e := by
  cases e <;> decide

end EntryPoint

end DatabaseLogon
