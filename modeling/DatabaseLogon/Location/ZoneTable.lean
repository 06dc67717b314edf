namespace DatabaseLogon

/-!
# Tables of time zones

Which time zones there are, and what they are called, differs from one release of the time zone
database to the next. What is said of connection strings holds for all of them.

* `ZoneTable` — the zones of a release, and how they are found by their names.
* `ZoneTable.name_injective` — two zones have two names.
-/

/-- A table of named time zones. -/
class ZoneTable where
  /-- A time zone with a name. -/
  Zone : Type
  /-- The name of a zone, -/
  name : Zone → String
  /-- and the zone of a name. -/
  ofName? : String → Option Zone
  /-- Universal time. -/
  utc : Zone
  /-- A zone is found under its name. -/
  ofName?_name : ∀ z, ofName? (name z) = some z
  /-- No zone has the empty name or the name of local time. -/
  name_ne : ∀ z, name z ≠ "" ∧ name z ≠ "Local"

namespace ZoneTable

attribute [simp] ofName?_name

variable [ZoneTable] {z z' : Zone}

/-- Two zones have two names. -/
theorem name_injective (h : name z = name z') : z = z' := by
  have found := ofName?_name z
  rw [h, ofName?_name] at found
  exact (Option.some.inj found).symm

instance : DecidableEq Zone :=
  fun _ _ => decidable_of_iff _ ⟨name_injective, congrArg name⟩

end ZoneTable

end DatabaseLogon
