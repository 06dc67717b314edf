import DatabaseLogon.Error

namespace DatabaseLogon

/-!
# Results of statements
-/

/-- What is reported after a statement has changed rows. -/
structure ExecResult where
  /-- The number of the last inserted row, or why there is none. -/
  lastInsertId : Except Error Int
  /-- How many rows the statement touched, or why that is unknown. -/
  rowsAffected : Except Error Int
  /-- The address of the last inserted row, if it was reported. -/
  lastRowId : Option String

namespace ExecResult

/-- A result without the address of a row. -/
def ofCounts (lastInsertId rowsAffected : Except Error Int) : ExecResult where
  lastInsertId := lastInsertId
  rowsAffected := rowsAffected
  lastRowId := none

/-- The result with the address of the last inserted row. -/
def withRowId (r : ExecResult) (rowId : String) : ExecResult :=
  { r with lastRowId := some rowId }

/-- The text of a count as a value. -/
def describeCount (count : Except Error Int) : String :=
  Text.outcome ((count.map toString).mapError Error.describe)

/-- The text of a result as a value. -/
def describe (r : ExecResult) : String :=
  Text.record "ExecResult"
    [("last_insert_id", describeCount r.lastInsertId),
     ("rows_affected", describeCount r.rowsAffected),
     ("last_row_id", Text.optional (r.lastRowId.map Text.quoted))]

end ExecResult

end DatabaseLogon
