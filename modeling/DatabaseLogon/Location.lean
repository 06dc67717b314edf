import DatabaseLogon.Location.ZoneTable
import DatabaseLogon.Text.Record

namespace DatabaseLogon

/-!
# The time zone of dates

* `Location` — local time or a named zone.
* `Location.ofName?`, `Location.name` — reading and writing its name.
-/

variable [ZoneTable]

/-- The time zone in which dates are read and written. -/
inductive Location where
  /-- The zone that the machine runs in. -/
  | localTime
  | zone (z : ZoneTable.Zone)
  deriving DecidableEq

namespace Location

/-- The name of a location. -/
def name : Location → String
  | .localTime => "Local"
  | .zone z => ZoneTable.name z

/-- The location of a name. The empty name means universal time. -/
def ofName? (name : String) : Option Location :=
  if name = "" then some (.zone ZoneTable.utc)
  else if name = "Local" then some .localTime
  else (ZoneTable.ofName? name).map .zone

/-- The text of a location as a value. -/
def describe : Location → String
  | .localTime => "Local"
  | .zone z => Text.wrapped "Zone" (ZoneTable.name z)

/-- A location is found under its name. -/
@[simp] theorem ofName?_name (l : Location) : ofName? l.name = some l := by
  cases l with
  | localTime => simp [ofName?, name]
  | zone z => simp [ofName?, name, ZoneTable.name_ne z]

end Location

end DatabaseLogon
