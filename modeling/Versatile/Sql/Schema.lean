import Versatile.Lib.TxLog
import Versatile.Lib.Proc
import Versatile.Py.Text
import Versatile.Sql.Literal

/-!
# The database behind `flexIDMnger_db.py`

The tables of `database_schema_versatile.sql` that the manager writes, the statements it
executes, and the one connection it executes them on. Only `INSERT` and `SELECT` ever reach
the server, so the contents of the tables are a log of inserted rows: the committed ones,
and the ones inserted since the last commit, which this connection sees too.

What a statement does once the server takes it is fixed here: an unknown column, a
duplicate primary key and a missing parent row are errors, and an executed `INSERT` stores
the values of the literals it was given. Left open in `Server` are the collation it compares
values with, which statements it refuses for any other reason (a syntax error, a value too
long for its column, a lost connection), and what it makes of a statement with a broken
literal, whose rest it reads as something else: which row such an `INSERT` stores, and which
rows such a `SELECT` fetches. Either may depend on anything. Taken for granted is that such an
`INSERT` stores no more than one row and changes none that is stored, and that such a `SELECT`
changes nothing: an `ON DUPLICATE KEY UPDATE` or a second statement is not modelled.
-/

namespace Versatile

open Py

/-- The tables the manager reads and writes. -/
inductive Table where
  | Device
  | Neighbor
  | RegisterList
  deriving DecidableEq, Repr

namespace Table

/-- The name of the table in a statement. -/
def name : Table → String
  | Device => "Device"
  | Neighbor => "Neighbor"
  | RegisterList => "RegisterList"

/-- The columns, in the order of the schema. -/
def columns : Table → List String
  | Device => ["deviceId", "relay", "pubKey", "ifaceType", "hwAddress", "ipv4", "wifiSSID"]
  | Neighbor => ["neighborId", "deviceId", "neighborIface", "neighborIpv4", "neighborHwAddress"]
  | RegisterList =>
      ["providingId", "deviceId", "hash", "registerType", "category", "attr1", "attr2", "attr3"]

/-- The primary key. -/
def primaryKey : Table → List String
  | Device => ["deviceId"]
  | Neighbor => ["neighborId"]
  | RegisterList => ["providingId", "deviceId"]

/-- Does `deviceId` reference `Device`? -/
def referencesDevice : Table → Bool
  | Device => false
  | Neighbor => true
  | RegisterList => true

/-- The default of a column that an `INSERT` leaves out; `none` is `NULL`. -/
def default : Table → String → Option String
  | RegisterList, "attr2" => some "."
  | RegisterList, "attr3" => some "."
  | _, _ => none

end Table

/-- A row as the handlers build it: a Python dict of column values. -/
abbrev Fields := List (String × Value)

/-- A stored row: the texts of the columns that were given. -/
abbrev Tuple := List (String × String)

/-- The value of a column of a stored row. -/
def Tuple.cell (t : Table) (r : Tuple) (col : String) : Option String :=
  match Dict.get r col with
  | some v => some v
  | none => t.default col

/-- A stored row as a dictionary cursor returns it. -/
def Tuple.toDict (t : Table) (r : Tuple) : Value :=
  .dict (t.columns.map fun col =>
    (col, match Tuple.cell t r col with | some v => .str v | none => .none))

/-! ## Statements -/

/-- One `column = 'literal'` of a statement, with the text that was pasted. -/
structure Cell where
  column : String
  literal : String

/-- The statements the manager executes. -/
inductive Statement where
  | insert (t : Table) (cells : List Cell)
  | select (t : Table) (cells : List Cell)

/-- The text of one `column = 'literal'`. -/
def Cell.text (c : Cell) : String := c.column ++ " = '" ++ c.literal ++ "'"

/-- The text sent to the server. -/
def Statement.text : Statement → String
  | .insert t cells => "INSERT INTO " ++ t.name ++ " SET " ++ ", ".intercalate (cells.map Cell.text)
  | .select t cells =>
      "SELECT * FROM " ++ t.name ++ " WHERE " ++ " and ".intercalate (cells.map Cell.text)

/-- The values of the literals of a statement; none, if one of them is broken. -/
def readCells : List Cell → Option Tuple
  | [] => some []
  | c :: cs => do
      let value ← readText c.literal
      let values ← readCells cs
      return (c.column, value) :: values

/-! ## The server and the connection -/

/-- The connection of the manager. -/
structure Database where
  /-- The rows of all tables, in the order they were inserted. -/
  log : TxLog (Table × Tuple)
  /-- The number of statements executed so far. -/
  executed : Nat

/-- What is left open about the server. -/
structure Server where
  /-- Does the server take two values for the same, once it has read them? The collation of the
  columns decides. -/
  same : String → String → Bool
  same_refl : ∀ a, same a a = true
  same_symm : ∀ a b, same a b = true → same b a = true
  same_trans : ∀ a b c, same a b = true → same b c = true → same a c = true
  /-- The error the server answers the `n`-th statement with, for a reason other than the
  columns and keys of the schema. -/
  refuses : Nat → String → Option Nat
  /-- The row that an `INSERT` is to store, a literal of which has no value (`readCells`): its text
  runs on into the statement. -/
  brokenRow : Database → String → Tuple
  /-- The rows that a `SELECT` with such a literal fetches. -/
  brokenRows : Database → String → List Tuple

/-- A server that compares values exactly and refuses nothing of its own; broken literals are
read as nothing. -/
def Server.exact : Server where
  same := (· == ·)
  same_refl := fun a => beq_self_eq_true a
  same_symm := fun a b h => by rw [beq_iff_eq] at h ⊢; exact h.symm
  same_trans := fun a b c h1 h2 => by rw [beq_iff_eq] at h1 h2 ⊢; exact h1.trans h2
  refuses := fun _ _ => none
  brokenRow := fun _ _ => []
  brokenRows := fun _ _ => []

/-- The rows of one table among logged rows. -/
def rowsOf (t : Table) (l : List (Table × Tuple)) : List Tuple :=
  l.filterMap fun e => if e.1 = t then some e.2 else none

namespace Database

/-- The rows of a table that the connection sees. -/
def rows (db : Database) (t : Table) : List Tuple := rowsOf t db.log.all

/-- The rows of a table that are committed. -/
def committedRows (db : Database) (t : Table) : List Tuple := rowsOf t db.log.committed

/-- One more statement was executed. -/
def tick (db : Database) : Database := { db with executed := db.executed + 1 }

/-- A row was inserted. -/
def store (db : Database) (t : Table) (r : Tuple) : Database :=
  { db with log := db.log.insert (t, r) }

/-- `db.commit()`. -/
def commit (db : Database) : Database := { db with log := db.log.commit }

end Database

namespace Server

variable (srv : Server)

/-- Does a stored row have a column with this value? -/
def hasCell (t : Table) (r : Tuple) (col text : String) : Bool :=
  match Tuple.cell t r col with
  | some v => srv.same v text
  | none => false

/-- Do two rows have the same values in some columns? -/
def agree (t : Table) (cols : List String) (r r' : Tuple) : Bool :=
  cols.all fun col =>
    match Dict.get r' col with
    | some v => srv.hasCell t r col v
    | none => false

/-- The checks of the schema on an `INSERT`: known columns, primary key, foreign key. -/
def admits (db : Database) (t : Table) (r : Tuple) : Except Exc Unit :=
  if ¬ r.all (fun c => c.1 ∈ t.columns) then .error (.sqlError 1054)
  else if (db.rows t).any (srv.agree t t.primaryKey · r) then .error (.sqlError 1062)
  else if t.referencesDevice ∧ ¬ (db.rows .Device).any (srv.agree .Device ["deviceId"] · r) then
    .error (.sqlError 1452)
  else .ok ()

/-- Does a row meet the conditions of a `WHERE` clause? -/
def meets (t : Table) (conds : Tuple) (r : Tuple) : Bool :=
  conds.all fun c => srv.hasCell t r c.1 c.2

/-- The row an `INSERT` is to store. -/
def newRow (db : Database) (t : Table) (cells : List Cell) : Tuple :=
  match readCells cells with
  | some r => r
  | none => srv.brokenRow db (Statement.insert t cells).text

/-- The rows a `SELECT` fetches. -/
def fetched (db : Database) (t : Table) (cells : List Cell) : List Tuple :=
  match readCells cells with
  | some conds => (db.rows t).filter (srv.meets t conds)
  | none => srv.brokenRows db (Statement.select t cells).text

/-- `cursor.execute`: the rows it fetches, none for an `INSERT`. A refused statement leaves
the tables as they were. -/
def execute (stmt : Statement) : Proc Exc Database (List Tuple) := fun db =>
  match srv.refuses db.executed stmt.text with
  | some code => (.error (.sqlError code), db.tick)
  | none =>
    match stmt with
    | .insert t cells =>
      match srv.admits db t (srv.newRow db t cells) with
      | .ok () => (.ok [], db.tick.store t (srv.newRow db t cells))
      | .error e => (.error e, db.tick)
    | .select t cells =>
      if ¬ cells.all (fun c => c.column ∈ t.columns) then (.error (.sqlError 1054), db.tick)
      else (.ok (srv.fetched db t cells), db.tick)

end Server

end Versatile
