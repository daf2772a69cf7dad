import Versatile.Lib.Decimal
import Versatile.Lib.Dict
import Versatile.Lib.Prog
import Versatile.Py.Value
import Versatile.Sql.Literal

/-!
# The database `diversity`

The tables the resolvers of 2016 work on, and one connection to them as a handler opens it:
the changes it has made since its last commit, which the others do not see. A commit applies
them in order. `ALTER TABLE` commits what is open before it does anything else, and a
connection that is dropped takes its open changes with it.

The attribute columns of `Service` are `attr1` up to some `attrN`, which is how the handlers
find and leave them. The other columns of the tables are the ones the statements name.

An `INSERT` stores the values of the literals its texts make, which are the texts themselves if
they have no apostrophe and no backslash. What it does where a text breaks its literal is left open
(`Server.broken`): it fails, or stores any rows in its columns. That it is still one `INSERT` into
the same table is taken for granted. The numbers that are looked up and deleted by are their own
values.

Left open too are the collation that texts are compared with and what `CAST .. AS SIGNED` makes of
a text that is no number in the range of `BIGINT` (`Server`), and which calls the database
fails (`Faults`), for whatever other reason.
-/

namespace Versatile.Diversity

open Py

/-- The tables. -/
inductive Table where
  | Device
  | Neighbor
  | Service
  | Request
  | QosRequirement
  deriving DecidableEq, Repr

/-- A stored row: the texts of the columns it was given. -/
abbrev Row := List (String × String)

/-- The rows of all tables, oldest first. -/
abbrev Rows := List (Table × Row)

/-- The text of a column. -/
def Row.cell (r : Row) (column : String) : Option String := Dict.get r column

/-- The texts in one column of a table. -/
def Rows.cells (rows : Rows) (t : Table) (column : String) : List String :=
  rows.filterMap fun e => if e.1 = t then Row.cell e.2 column else none

theorem Rows.cells_append (rows rows' : Rows) (t : Table) (column : String) :
    Rows.cells (rows ++ rows') t column = Rows.cells rows t column ++ Rows.cells rows' t column :=
  List.filterMap_append

/-- The rows of one table have no texts in another. -/
theorem Rows.cells_other {t t' : Table} (h : t ≠ t') (rows : List Row) (column : String) :
    Rows.cells (rows.map fun r => (t, r)) t' column = [] := by
  rw [Rows.cells, List.filterMap_map, List.filterMap_eq_nil_iff]
  intro r _
  exact if_neg h

/-- Rows of one table are told apart by what they hold. -/
theorem Rows.tag_injective (t : Table) : Function.Injective (List.map fun r : Row => (t, r)) :=
  List.map_injective_iff.mpr fun _ _ h => (Prod.mk.inj h).2

/-- The name of the `n`-th attribute column. -/
def attrName (n : Nat) : String := "attr" ++ toString n

/-- The columns of `Service` with `n` attribute columns. -/
def serviceColumns (n : Nat) : List String :=
  ["dummyID", "serviceID", "deviceID", "serviceType"] ++
    (List.range n).map fun i => attrName (i + 1)

/-! ## The server -/

/-- The range of `BIGINT`. -/
def InBigint (n : Int) : Prop := -2 ^ 63 ≤ n ∧ n < 2 ^ 63

instance (n : Int) : Decidable (InBigint n) := inferInstanceAs (Decidable (_ ∧ _))

/-- What is left open about the server. -/
structure Server where
  /-- Does the server take two texts for the same, once it has read them? The collation of the
  columns decides. -/
  same : String → String → Bool
  same_refl : ∀ a, same a a = true
  /-- No collation takes different digits, or signs, for the same. -/
  same_int : ∀ n m : Int, same (toString n) (toString m) = true → n = m
  /-- `CAST(text AS SIGNED)`. -/
  castSigned : String → Int
  cast_int : ∀ n : Int, InBigint n → castSigned (toString n) = n
  /-- What an `INSERT` of these texts does, one of which breaks its literal, on a connection that
  sees these rows: the rows it stores, or its error. -/
  broken : Rows → Table → Row → Except Nat (List Row)
  /-- The rows have the columns of the statement. -/
  broken_columns : ∀ {rows t row new}, broken rows t row = .ok new →
    ∀ r ∈ new, ∀ c ∈ r, c.1 ∈ row.map Prod.fst
  /-- What stands in front of the text that breaks its literal is read as it should be. -/
  broken_first : ∀ {rows t column text value row new}, readText text = some value →
    broken rows t ((column, text) :: row) = .ok new → ∃ r ∈ new, Row.cell r column = some value

/-- A server that takes texts for the same when they are, casts what is no number to zero, and
refuses every broken literal. -/
def Server.plain : Server where
  same a b := a = b
  same_refl a := decide_eq_true rfl
  same_int _ _ h := Decimal.toString_int_injective (of_decide_eq_true h)
  castSigned text := (Decimal.readInt text.toList).getD 0
  cast_int n _ := by rw [Decimal.readInt_toString, Option.getD_some]
  broken _ _ _ := .error 1064
  broken_columns h := absurd h (by simp)
  broken_first _ h := absurd h (by simp)

/-- The server, if it refuses every broken literal. -/
def Server.strict (srv : Server) : Server :=
  { srv with
    broken := fun _ _ _ => .error 1064
    broken_columns := fun h => absurd h (by simp)
    broken_first := fun _ h => absurd h (by simp) }

/-- The rows an `INSERT` of these texts stores, on a connection that sees these rows. -/
def Server.reads (srv : Server) (rows : Rows) (t : Table) (row : Row) : Except Nat (List Row) :=
  match readTexts row with
  | some r => .ok [r]
  | none => srv.broken rows t row

section Reads

variable {srv : Server} {rows : Rows} {t : Table} {row r : Row} {new : List Row}

/-- Texts that do not break their literals are one row. -/
theorem reads_of_readTexts (h : readTexts row = some r) : srv.reads rows t row = .ok [r] := by
  rw [Server.reads, h]

/-- The rows it stores are the one the texts are read as. -/
def Server.Exact (srv : Server) (t : Table) (row : Row) : Prop :=
  ∀ rows new, srv.reads rows t row = .ok new → ∃ r, readTexts row = some r ∧ new = [r]

/-- They are where no text breaks its literal. -/
theorem exact_of_unbroken (h : ∀ c ∈ row, Unbroken c.2) : srv.Exact t row := by
  obtain ⟨r, hread⟩ := exists_readTexts.mpr h
  intro rows new hreads
  exact ⟨r, hread, Except.ok.inj (hreads.symm.trans (reads_of_readTexts hread))⟩

/-- They always are for a server that refuses every broken literal. -/
theorem exact_strict : srv.strict.Exact t row := by
  intro rows new hreads
  cases hread : readTexts row with
  | some r => exact ⟨r, rfl, Except.ok.inj (hreads.symm.trans (reads_of_readTexts hread))⟩
  | none =>
    rw [Server.reads, hread] at hreads
    exact absurd hreads (by simp [Server.strict])

/-- What is stored has the columns of the statement. -/
theorem reads_columns (h : srv.reads rows t row = .ok new) (hr : r ∈ new) {c : String × String}
    (hc : c ∈ r) : c.1 ∈ row.map Prod.fst := by
  cases hread : readTexts row with
  | some r' =>
    rw [reads_of_readTexts hread] at h
    obtain rfl := Except.ok.inj h
    obtain rfl := List.mem_singleton.mp hr
    rw [← readTexts_columns hread]
    exact List.mem_map_of_mem hc
  | none =>
    rw [Server.reads, hread] at h
    exact srv.broken_columns h r hr c hc

/-- A first text that does not break its literal is stored. -/
theorem reads_first {column text value : String} (htext : readText text = some value)
    (h : srv.reads rows t ((column, text) :: row) = .ok new) :
    ∃ r ∈ new, Row.cell r column = some value := by
  cases hread : readTexts ((column, text) :: row) with
  | some r =>
    rw [reads_of_readTexts hread] at h
    obtain rfl := Except.ok.inj h
    obtain ⟨value', values, hvalue, _, rfl⟩ := readTexts_cons_eq_some.mp hread
    obtain rfl := Option.some.inj (htext.symm.trans hvalue)
    refine ⟨_, List.mem_singleton_self _, ?_⟩
    rw [Row.cell, Dict.get_cons, if_pos rfl]
  | none =>
    rw [Server.reads, hread] at h
    exact srv.broken_first htext h

end Reads

/-- Which calls the database fails, by their number, and with which error. -/
abbrev Faults := Nat → Option Nat

/-- `MAX` of texts: digits are ordered as characters. -/
def maxText : List String → Option String
  | [] => none
  | a :: as => some (as.foldl (fun a b => if a < b then b else a) a)

/-- Does `deviceID` of the row match the text? -/
def Server.names (srv : Server) (deviceID : String) (r : Row) : Bool :=
  match Row.cell r "deviceID" with
  | some v => srv.same v deviceID
  | none => false

/-! ## Connections -/

/-- A change a connection makes. -/
inductive Change where
  | insert (t : Table) (row : Row)
  | delete (t : Table) (deviceID : String)

/-- The rows after a change. -/
def Change.apply (srv : Server) (rows : Rows) : Change → Rows
  | .insert t row => rows ++ [(t, row)]
  | .delete t deviceID => rows.filter fun e => !(e.1 = t && srv.names deviceID e.2)

/-- The rows after several changes. -/
def applyAll (srv : Server) (changes : List Change) (rows : Rows) : Rows :=
  changes.foldl (Change.apply srv) rows

/-- What a handler shows: the changes it committed, and the events it emitted. -/
inductive Event where
  | committed (changes : List Change)
  | emitted (event : String) (payload : Value)

/-- What outlives a handler: the committed rows, the attribute columns of `Service`, how many
calls the database has had, and the global `manageNum` of the process. -/
structure World where
  rows : Rows
  attrs : Nat
  asked : Nat
  manageNum : Nat
  deriving DecidableEq

/-- The texts of a row in the attribute columns: the default `.` where it was given none. -/
def attributesOf (attrs : Nat) (r : Row) : List String :=
  (List.range attrs).map fun i => (Row.cell r (attrName (i + 1))).getD "."

/-- What is stored: every row, a service with all its attribute columns. A new column changes every
service. -/
def World.stored (w : World) : List (Table × Row × List String) :=
  w.rows.map fun e => (e.1, e.2, if e.1 = .Service then attributesOf w.attrs e.2 else [])

/-- There is a service. -/
def HasService (rows : Rows) : Prop := ∃ e ∈ rows, e.1 = .Service

instance (rows : Rows) : Decidable (HasService rows) :=
  inferInstanceAs (Decidable (∃ e ∈ rows, e.1 = .Service))

/-- **What is stored stays** if the rows do, and the columns where there is a service. -/
theorem stored_eq_iff {w w' : World} : w'.stored = w.stored ↔
    w'.rows = w.rows ∧ (HasService w.rows → w'.attrs = w.attrs) := by
  refine ⟨?_, ?_⟩
  · intro h
    have hrows : w'.rows = w.rows := by
      have hproject := congrArg (List.map fun e => (e.1, e.2.1)) h
      simpa [World.stored, List.map_map, Function.comp_def] using hproject
    refine ⟨hrows, ?_⟩
    intro hservice
    obtain ⟨e, hmem, ht⟩ := hservice
    -- the service shows how many columns there are
    rw [World.stored, World.stored, hrows] at h
    have hcolumns := congrArg (fun e => e.2.2.length) (List.map_inj_left.mp h e hmem)
    simpa [ht, attributesOf] using hcolumns
  · intro hboth
    obtain ⟨hrows, hattrs⟩ := hboth
    rw [World.stored, World.stored, hrows]
    refine List.map_congr_left fun e he => ?_
    by_cases ht : e.1 = .Service
    · rw [hattrs ⟨e, he, ht⟩]
    · rw [if_neg ht, if_neg ht]

/-- What a handler works on: the world, the open changes of its connection, and what it has
shown so far. -/
structure State where
  world : World
  conn : List Change
  log : List Event

namespace State

/-- One more call of the database. -/
def tick (s : State) : State := { s with world := { s.world with asked := s.world.asked + 1 } }

/-- The rows as the connection sees them. -/
def view (srv : Server) (s : State) : Rows := applyAll srv s.conn s.world.rows

/-- A new connection. -/
def opened (s : State) : State := { s with conn := [] }

/-- The open changes become the committed ones. -/
def commit (srv : Server) (s : State) : State :=
  { world := { s.world with rows := s.view srv }, conn := [],
    log := s.log ++ [.committed s.conn] }

/-- The commit before `ALTER TABLE`, of what is open. -/
def commitOpen (srv : Server) (s : State) : State :=
  match s.conn with
  | [] => s
  | _ => s.commit srv

/-- More open changes. -/
def push (cs : List Change) (s : State) : State := { s with conn := s.conn ++ cs }

/-- One more attribute column. -/
def addAttr (s : State) : State := { s with world := { s.world with attrs := s.world.attrs + 1 } }

/-- One more event. -/
def shown (e : Event) (s : State) : State := { s with log := s.log ++ [e] }

/-- The next management number. -/
def manage (s : State) : State :=
  { s with world := { s.world with manageNum := s.world.manageNum + 1 } }

end State

/-! ## Statements -/

/-- The statements the handlers execute. -/
inductive Statement where
  /-- `SELECT MAX(CAST(column as SIGNED)) From t` -/
  | maxSigned (t : Table) (column : String)
  /-- `SELECT MAX(column) from t` -/
  | maxText (t : Table) (column : String)
  /-- `SELECT dummyID from Device where deviceID='..'`: how many rows it finds. -/
  | exist (deviceID : String)
  /-- `SELECT count(*) from information_schema.columns where table_name = 'Service'` -/
  | columnCount
  /-- `ALTER table Service add attrN varchar(50) default '.'` -/
  | alter (n : Nat)
  /-- `INSERT into t (..) values (..)`: the columns, and the texts pasted between quotes. -/
  | insert (t : Table) (row : Row)
  /-- `DELETE from t where deviceID='..'` -/
  | delete (t : Table) (deviceID : String)

/-- What a statement gives back. -/
abbrev Statement.Result : Statement → Type
  | maxSigned _ _ => Option Int
  | maxText _ _ => Option String
  | exist _ => Nat
  | columnCount => Nat
  | alter _ => Unit
  | insert _ _ => Unit
  | delete _ _ => Unit

/-- Has the table the columns of the row? Only `Service` ever changes. -/
def World.hasColumns (w : World) (t : Table) (row : Row) : Bool :=
  t ≠ .Service || row.all fun c => c.1 ∈ serviceColumns w.attrs

/-- So it has those of the rows that are stored. -/
theorem hasColumns_reads {srv : Server} {w : World} {rows : Rows} {t : Table} {row r : Row}
    {new : List Row} (h : w.hasColumns t row = true) (hreads : srv.reads rows t row = .ok new)
    (hr : r ∈ new) : w.hasColumns t r = true := by
  rw [World.hasColumns, Bool.or_eq_true] at h ⊢
  refine h.imp_right fun hall => List.all_eq_true.mpr fun c hc => ?_
  obtain ⟨c', hc', hname⟩ := List.mem_map.mp (reads_columns hreads hr hc)
  rw [← hname]
  exact List.all_eq_true.mp hall c' hc'

/-- What a statement does that the database does not fail: its result or the error of the
statement itself, of a broken literal, an unknown column (1054) or one that is there already
(1060). No handler skips an attribute column, so one that is not the next is there. -/
def Statement.eval (srv : Server) : (q : Statement) → State → Except Nat q.Result × State
  | .maxSigned t column, s =>
      (.ok (((Rows.cells (s.view srv) t column).map srv.castSigned).max?), s)
  | .maxText t column, s => (.ok (Diversity.maxText (Rows.cells (s.view srv) t column)), s)
  | .exist deviceID, s =>
      (.ok ((s.view srv).countP fun e => e.1 = .Device && srv.names deviceID e.2), s)
  | .columnCount, s => (.ok (serviceColumns s.world.attrs).length, s)
  | .alter n, s =>
      let s := s.commitOpen srv
      if n = s.world.attrs + 1 then (.ok (), s.addAttr) else (.error 1060, s)
  | .insert t row, s => match srv.reads (s.view srv) t row with
      | .error code => (.error code, s)
      | .ok rows =>
          if s.world.hasColumns t row then (.ok (), s.push (rows.map (Change.insert t)))
          else (.error 1054, s)
  | .delete t deviceID, s => (.ok (), s.push [.delete t deviceID])

/-- **What an `INSERT` does**: it fails, or the rows its texts are read as are open. -/
theorem eval_insert_cases (srv : Server) (t : Table) (row : Row) (s : State) :
    (∃ code, Statement.eval srv (.insert t row) s = (.error code, s)) ∨
    ∃ new, srv.reads (s.view srv) t row = .ok new ∧ s.world.hasColumns t row = true ∧
      Statement.eval srv (.insert t row) s = (.ok (), s.push (new.map (Change.insert t))) := by
  rw [Statement.eval]
  cases hreads : srv.reads (s.view srv) t row with
  | error code => exact Or.inl ⟨code, rfl⟩
  | ok new =>
    by_cases hcolumns : s.world.hasColumns t row = true
    · simp only [if_pos hcolumns]
      exact Or.inr ⟨new, rfl, hcolumns, rfl⟩
    · simp only [if_neg hcolumns]
      exact Or.inl ⟨1054, rfl⟩

/-- Texts that do not break their literals are inserted, if the table has the columns. -/
theorem eval_insert {srv : Server} {t : Table} {row r : Row} {s : State}
    (hread : readTexts row = some r) (hcolumns : s.world.hasColumns t row = true) :
    Statement.eval srv (.insert t row) s = (.ok (), s.push [.insert t r]) := by
  rw [Statement.eval, reads_of_readTexts hread]
  simp only [if_pos hcolumns]
  rfl

/-! ## The operations of a handler -/

/-- The operations of a handler. -/
inductive Act where
  /-- `mysql.connect()`. -/
  | connect
  /-- `cursor.execute`, with the `fetchall` that follows a selection. -/
  | execute (q : Statement)
  /-- `conn.commit()`. -/
  | commit
  /-- `emit`. -/
  | emit (event : String) (payload : Value)
  /-- `manageNum = manageNum + 1`. -/
  | manage

/-- What an operation gives back: those of the database may fail. -/
abbrev Act.Res : Act → Type
  | connect => Except Nat Unit
  | execute q => Except Nat q.Result
  | commit => Except Nat Unit
  | emit _ _ => Unit
  | manage => Nat

/-- A call of the database, which fails it or takes it. -/
def call {α : Type} (faults : Faults) (f : State → Except Nat α × State) (s : State) :
    Except Nat α × State :=
  match faults s.world.asked with
  | some code => (.error code, s.tick)
  | none => f s.tick

/-- What an operation does. -/
def act (srv : Server) (faults : Faults) : (o : Act) → State → o.Res × State
  | .connect, s => call faults (fun s => (.ok (), s.opened)) s
  | .execute q, s => call faults (q.eval srv) s
  | .commit, s => call faults (fun s => (.ok (), s.commit srv)) s
  | .emit event payload, s => ((), s.shown (.emitted event payload))
  | .manage, s => (s.world.manageNum + 1, s.manage)

end Versatile.Diversity
