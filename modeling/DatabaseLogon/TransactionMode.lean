namespace DatabaseLogon

/-!
# Transaction isolation
-/

/-- The isolation with which transactions begin. -/
inductive TransactionMode where
  | readWrite
  | readOnly
  | serializable
  deriving DecidableEq, Repr

namespace TransactionMode

/-- The flag that starts a transaction of this isolation. -/
def code : TransactionMode → Nat
  | .readOnly => 0x100
  | .readWrite => 0x200
  | .serializable => 0x400

/-- The word for it in a connection string. -/
def keyword : TransactionMode → String
  | .readWrite => "DEFAULT"
  | .readOnly => "READONLY"
  | .serializable => "SERIALIZABLE"

/-- The isolation that a word means; case counts. -/
def ofKeyword? (word : String) : Option TransactionMode :=
  if word = "READONLY" then some .readOnly
  else if word = "SERIALIZABLE" then some .serializable
  else if word = "DEFAULT" then some .readWrite
  else none

/-- The text of an isolation as a value. -/
def describe : TransactionMode → String
  | .readWrite => "ReadWrite"
  | .readOnly => "ReadOnly"
  | .serializable => "Serializable"

@[simp] theorem ofKeyword?_keyword (m : TransactionMode) : ofKeyword? m.keyword = some m := by
  cases m <;> rfl

end TransactionMode

end DatabaseLogon
