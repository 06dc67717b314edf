namespace DatabaseLogon

/-!
# Privileged sessions
-/

/-- The privileges that a session asks for. -/
inductive PrivilegedMode where
  /-- An ordinary session. -/
  | default
  | sysDba
  | sysAsm
  | sysOper
  deriving DecidableEq, Repr

namespace PrivilegedMode

/-- The mode flag with which such a session begins. -/
def code : PrivilegedMode → Nat
  | .default => 0
  | .sysDba => 0x2
  | .sysOper => 0x4
  | .sysAsm => 0x8000

/-- The word for it in a connection string; an ordinary session has none. -/
def keyword? : PrivilegedMode → Option String
  | .default => none
  | .sysDba => some "SYSDBA"
  | .sysAsm => some "SYSASM"
  | .sysOper => some "SYSOPER"

/-- The privileges that a word means; the case of ASCII letters does not count. -/
def ofKeyword? (word : String) : Option PrivilegedMode :=
  let upper := String.ofList (word.toList.map Char.toUpper)
  if upper = "SYSDBA" then some .sysDba
  else if upper = "SYSASM" then some .sysAsm
  else if upper = "SYSOPER" then some .sysOper
  else none

/-- The text of a mode as a value. -/
def describe : PrivilegedMode → String
  | .default => "Default"
  | .sysDba => "SysDba"
  | .sysAsm => "SysAsm"
  | .sysOper => "SysOper"

theorem ofKeyword?_keyword? {m : PrivilegedMode} {word : String} (h : m.keyword? = some word) :
    ofKeyword? word = some m := by
  cases m <;> cases h <;> decide

end PrivilegedMode

end DatabaseLogon
