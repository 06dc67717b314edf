namespace DatabaseLogon.Text

/-!
# The text of values

How structured values are shown in diagnostics: `Name { field: value, field: value }` for a record,
`Name(value)` for a value under a name, and the bare name where there is no value.
-/

/-- A record with its fields in order. -/
def record (name : String) (fields : List (String × String)) : String :=
  name ++ " \x7b " ++ ", ".intercalate (fields.map fun (field, value) => field ++ ": " ++ value)
    ++ " \x7d"

/-- A value under a name. -/
def wrapped (name value : String) : String :=
  name ++ "(" ++ value ++ ")"

/-- A value that may be missing. -/
def optional : Option String → String
  | some value => wrapped "Some" value
  | none => "None"

/-- A value, or the error that stands in its place. -/
def outcome : Except String String → String
  | .ok value => wrapped "Ok" value
  | .error e => wrapped "Err" e

/-- A truth value. -/
def truth (b : Bool) : String :=
  if b then "true" else "false"

end DatabaseLogon.Text
