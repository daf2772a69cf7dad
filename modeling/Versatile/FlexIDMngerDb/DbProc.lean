import Versatile.Request

/-!
# `db_proc` of `flexIDMnger_db.py`

The database interface of the manager with a local database. It executes one statement for
each row of an insertion and commits after the last one; a selection executes one statement,
unless it asks for sensors, which are answered from a fixed list. The other two topics have
no branch: `db_proc` falls through and returns `None`.
-/

namespace Versatile.FlexIDMngerDb

open Py

/-- One `column = 'value'` of an `INSERT`. The strings of a list are escaped, and then the
quotes Python put around them. -/
def insertCell (c : String × Value) : Except Exc Cell :=
  match c.2 with
  | .list vs => do
      let encoded ← vs.mapM Value.encoded
      let value := "[" ++ ", ".intercalate encoded ++ "]"
      return ⟨c.1, escapeQuotes value⟩
  | v => return ⟨c.1, v.text⟩

/-- One `column = 'value'` of a `WHERE` clause: the text of the value as it is. -/
def whereCell (c : String × Value) : Cell := ⟨c.1, c.2.text⟩

/-- Build one `INSERT` and execute it. -/
def insertRow (srv : Server) (t : Table) (row : Fields) : Proc Exc Database Unit := do
  let cells ← (row.mapM insertCell : Except Exc (List Cell))
  let _ ← srv.execute (.insert t cells)

/-- The loop over the rows of an insertion. -/
def insertRows (srv : Server) (t : Table) : List Fields → Proc Exc Database Unit
  | [] => pure ()
  | row :: rows => do
      insertRow srv t row
      insertRows srv t rows

/-- What a query for sensors is answered with. -/
def sensorIDs : List Value :=
  [.str "8040f067c1cd83962abf3599de79c1abb77b2f026d",
    .str "80ce209e43e85f0089649a0be19d16ea2da0c84e82"]

/-- `db_proc`. -/
def db_proc (srv : Server) : DbTopic → DbQuery → Proc Exc Database Value
  | .insert, .onTable table data => do
      insertRows srv table data
      Proc.modify Database.commit
      return .dict [("error", .int 0)]
  | .select, .onTable _ [] => Proc.raise .indexError
  | .select, .onTable table (row :: _) => do
      if ((Dict.get row "category").getD .none).isStr "Sensor" then
        return .dict [("error", .int 0), ("data", .list sensorIDs)]
      else
        let rows ← srv.execute (.select table (row.map whereCell))
        return .dict [("error", .int 0), ("data", .list (rows.map (Tuple.toDict table)))]
  | .insert, _ => Proc.raise .keyError
  | .select, _ => Proc.raise .keyError
  | .delete, _ => return .none
  | .update, _ => return .none

end Versatile.FlexIDMngerDb
