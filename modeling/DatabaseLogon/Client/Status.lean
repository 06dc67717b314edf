import DatabaseLogon.Text.Record

namespace DatabaseLogon

/-!
# Statuses of native calls

* `Status` — what a native call returned, told by its return code alone.
* `Status.name?` — the codes that have a name.
* `Status.text`, `Status.describe` — the status in messages and as a value.
-/

/-- The status of a native call. -/
structure Status where
  /-- The return code. -/
  code : Int
  deriving DecidableEq, Repr

namespace Status

def success : Status := ⟨0⟩
def successWithInfo : Status := ⟨1⟩
def needData : Status := ⟨99⟩
def noData : Status := ⟨100⟩
/-- The call failed and left a diagnostic record. -/
def error : Status := ⟨-1⟩
def invalidHandle : Status := ⟨-2⟩
def stillExecuting : Status := ⟨-3123⟩
/-- The name of the status with code -24200, which asks a callback to go on. -/
def continuing : Status := ⟨-24200⟩

/-- The named statuses: the name as a value and the name in messages. -/
def named : List (Status × String × String) :=
  [(success, "Success", "OCI_SUCCESS"),
   (successWithInfo, "SuccessWithInfo", "OCI_SUCCESS_WITH_INFO"),
   (needData, "NeedData", "OCI_NEED_DATA"),
   (noData, "NoData", "OCI_NO_DATA"),
   (error, "Error", "OCI_ERROR"),
   (invalidHandle, "InvalidHandle", "OCI_INVALID_HANDLE"),
   (stillExecuting, "StillExecuting", "OCI_STILL_EXECUTING"),
   (continuing, "Continue", "OCI_CONTINUE")]

/-- The two names of a status that has any. -/
def name? (s : Status) : Option (String × String) :=
  named.lookup s

/-- The status in messages. -/
def text (s : Status) : String :=
  match s.name? with
  | some (_, message) => message
  | none => "OCI status " ++ toString s.code

/-- The status as a value. -/
def describe (s : Status) : String :=
  match s.name? with
  | some (value, _) => value
  | none => Text.wrapped "Other" (toString s.code)

/-- Did the call succeed without reservation? -/
def isSuccess (s : Status) : Bool :=
  s = success

/-- Did the call succeed, with or without a remark? -/
def isSuccessOrInfo (s : Status) : Bool :=
  s = success || s = successWithInfo

end Status

end DatabaseLogon
