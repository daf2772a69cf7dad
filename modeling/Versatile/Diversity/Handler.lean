import Versatile.Py.Number
import Versatile.Diversity.Database

/-!
# Handlers over the database

What the handlers of both resolvers are made of: the calls of the database, which raise when
it fails them, the next number in a column, and rows inserted one by one.

Three kinds of program come back in the proofs. A `Quiet` step commits nothing, emits nothing
and adds no column. A call is `Granted` or fails. And from a call on that `Refuses` every later
one, nothing is committed any more.
-/

namespace Versatile.Diversity

open Py

/-- A program of a handler. -/
abbrev Handler (α : Type) := Prog Act Act.Res Exc α

/-! ## Operations -/

/-- One operation. -/
def operation {ε : Type} (o : Act) : Prog Act Act.Res ε o.Res := Prog.perform o

/-- The driver raises what the database answers as an error. -/
def answered {α : Type} (r : Except Nat α) : Except Exc α := r.mapError Exc.sqlError

theorem answered_eq_ok {α : Type} {r : Except Nat α} {a : α} :
    answered r = .ok a ↔ r = .ok a := by
  cases r <;> simp [answered, Except.mapError]

/-- `mysql.connect()`. -/
def connect : Handler Unit := do
  let r : Except Nat Unit ← operation .connect
  answered r

/-- `cursor.execute(..)`. -/
def execute (q : Statement) : Handler q.Result := do
  let r : Except Nat q.Result ← operation (.execute q)
  answered r

/-- `SELECT MAX(CAST(column as SIGNED)) From t`. -/
def maxSigned (t : Table) (column : String) : Handler (Option Int) := execute (.maxSigned t column)

/-- `SELECT MAX(column) from t`. -/
def maxOfTexts (t : Table) (column : String) : Handler (Option String) :=
  execute (.maxText t column)

/-- `SELECT dummyID from Device where deviceID='..'`: how many rows there are. -/
def exist (deviceID : String) : Handler Nat := execute (.exist deviceID)

/-- `SELECT count(*) from information_schema.columns where table_name = 'Service'`. -/
def columnCount : Handler Nat := execute .columnCount

/-- `conn.commit()`. -/
def commit : Handler Unit := do
  let r : Except Nat Unit ← operation .commit
  answered r

/-- `emit(event, payload)`. -/
def emit {ε : Type} (event : String) (payload : Value) : Prog Act Act.Res ε Unit :=
  operation (.emit event payload)

/-- `manageNum = manageNum + 1`. -/
def nextManageNum : Handler Nat := operation .manage

/-! ## Parts of the handlers -/

/-- The number after the maximum, as a text. -/
def nextID : Option Int → String
  | some maxID => toString (maxID + 1)
  | none => "1"

/-- A new connection, and the next device ID. -/
def newDeviceID : Handler String := do
  connect
  let maxID ← maxSigned .Device "deviceID"
  return nextID maxID

/-- Insert a row made of each of some values. -/
def insertAll (t : Table) (rowOf : Value → Except Exc Row) : List Value → Handler Unit
  | [] => pure ()
  | v :: vs => do
      let row ← rowOf v
      execute (.insert t row)
      insertAll t rowOf vs

/-- The row of one interface. Without a `hwAddress` it is `ifaceType` that becomes the
placeholder, and the concatenation raises. -/
def deviceRow (placeholder deviceID relay : String) (data : Value) : Except Exc Row := do
  let ifaceType ← data.get "ifaceType"
  let hwAddress ← data.get "hwAddress"
  let ipv4 ← data.get "ipv4"
  let wifiSSID ← data.get "wifiSSID"
  let ifaceType := if ifaceType.isNone then .str placeholder else ifaceType
  let ifaceType := if hwAddress.isNone then .str placeholder else ifaceType
  let ipv4 := if ipv4.isNone then .str placeholder else ipv4
  let wifiSSID := if wifiSSID.isNone then .str placeholder else wifiSSID
  let ifaceType ← ifaceType.asStr
  let hwAddress ← hwAddress.asStr
  let ipv4 ← ipv4.asStr
  let wifiSSID ← wifiSSID.asStr
  return [("deviceID", deviceID), ("interface", ifaceType), ("mac", hwAddress), ("ip", ipv4),
    ("wifiSSID", wifiSSID), ("relay", relay)]

/-- The payload of an answer. -/
def answerOf (error : Int) : Value := .dict [("error", .int error)]

/-- The payload of an answer with a device ID. -/
def joinAnswer (error : Int) (deviceID : String) : Value :=
  .dict [("error", .int error), ("id", .str deviceID)]

/-- The error an answer carries. -/
def errorOf (payload : Value) : Option Int :=
  match payload.get "error" with
  | .ok (.int n) => some n
  | _ => none

/-- The device ID an answer carries. -/
def idOf (payload : Value) : Option String :=
  match payload.get "id" with
  | .ok (.str deviceID) => some deviceID
  | _ => none

@[simp] theorem errorOf_answerOf (n : Int) : errorOf (answerOf n) = some n := rfl

@[simp] theorem errorOf_joinAnswer (n : Int) (deviceID : String) :
    errorOf (joinAnswer n deviceID) = some n := rfl

@[simp] theorem idOf_joinAnswer (n : Int) (deviceID : String) :
    idOf (joinAnswer n deviceID) = some deviceID := rfl

/-- Run a handler: how it ends, and the state it leaves. -/
def perform {ε α : Type} (srv : Server) (faults : Faults) (p : Prog Act Act.Res ε α) :
    State → Except ε α × State := Prog.run (act srv faults) p

/-! ## What a run does -/

section Run

variable {srv : Server} {faults : Faults} {ε ε' α β : Type}

@[simp] theorem perform_pure (a : α) (s : State) :
    perform srv faults (pure a : Prog Act Act.Res ε α) s = (.ok a, s) := rfl

@[simp] theorem perform_raise (e : ε) (s : State) :
    perform srv faults (Prog.raise e : Prog Act Act.Res ε α) s = (.error e, s) := rfl

@[simp] theorem perform_lift (x : Except ε α) (s : State) :
    perform srv faults (liftM x : Prog Act Act.Res ε α) s = (x, s) := by
  rw [perform, Prog.run_lift]
  rfl

theorem perform_bind (p : Prog Act Act.Res ε α) (f : α → Prog Act Act.Res ε β) (s : State) :
    perform srv faults (p >>= f) s = match perform srv faults p s with
      | (.ok a, s') => perform srv faults (f a) s'
      | (.error e, s') => (.error e, s') := by
  rw [perform, Prog.run_bind, Proc.bind_apply, perform]
  cases Prog.run (act srv faults) p s with
  | mk r s' => cases r <;> rfl

theorem perform_bind_ok {p : Prog Act Act.Res ε α} {f : α → Prog Act Act.Res ε β} {s s' : State}
    {a : α} (h : perform srv faults p s = (.ok a, s')) :
    perform srv faults (p >>= f) s = perform srv faults (f a) s' := by rw [perform_bind, h]

theorem perform_bind_error {p : Prog Act Act.Res ε α} {f : α → Prog Act Act.Res ε β}
    {s s' : State} {e : ε} (h : perform srv faults p s = (.error e, s')) :
    perform srv faults (p >>= f) s = (.error e, s') := by rw [perform_bind, h]

/-- A sequence that ends with a value: both parts did. -/
theorem perform_bind_eq_ok {p : Prog Act Act.Res ε α} {f : α → Prog Act Act.Res ε β}
    {s s'' : State} {b : β} : perform srv faults (p >>= f) s = (.ok b, s'') ↔
      ∃ a s', perform srv faults p s = (.ok a, s') ∧
        perform srv faults (f a) s' = (.ok b, s'') := by
  rw [perform, Prog.run_bind]
  exact Proc.bind_eq_ok

theorem perform_tryExcept (p : Prog Act Act.Res ε α) (handler : ε → Prog Act Act.Res ε' α)
    (s : State) : perform srv faults (Prog.tryExcept p handler) s =
      match perform srv faults p s with
      | (.ok a, s') => (.ok a, s')
      | (.error e, s') => perform srv faults (handler e) s' := by
  rw [perform, Prog.run_tryExcept, perform]
  cases Prog.run (act srv faults) p s with
  | mk r s' => cases r <;> rfl

theorem perform_try_ok {p : Prog Act Act.Res ε α} {handler : ε → Prog Act Act.Res ε' α}
    {s s' : State} {a : α} (h : perform srv faults p s = (.ok a, s')) :
    perform srv faults (Prog.tryExcept p handler) s = (.ok a, s') := by
  rw [perform_tryExcept, h]

theorem perform_try_error {p : Prog Act Act.Res ε α} {handler : ε → Prog Act Act.Res ε' α}
    {s s' : State} {e : ε} (h : perform srv faults p s = (.error e, s')) :
    perform srv faults (Prog.tryExcept p handler) s = perform srv faults (handler e) s' := by
  rw [perform_tryExcept, h]

theorem perform_operation (o : Act) (s : State) :
    perform srv faults (operation o : Prog Act Act.Res ε o.Res) s =
      (.ok (act srv faults o s).1, (act srv faults o s).2) := rfl

/-- The database fails the next call, or takes it. -/
theorem perform_connect (s : State) : perform srv faults connect s =
    match faults s.world.asked with
    | some code => (.error (.sqlError code), s.tick)
    | none => (.ok (), s.tick.opened) := by
  rw [connect, perform_bind, perform_operation]
  simp only [act, call]
  cases faults s.world.asked <;> rfl

theorem perform_execute (q : Statement) (s : State) : perform srv faults (execute q) s =
    match faults s.world.asked with
    | some code => (.error (.sqlError code), s.tick)
    | none => (answered (q.eval srv s.tick).1, (q.eval srv s.tick).2) := by
  rw [execute, perform_bind, perform_operation]
  simp only [act, call, perform_lift]
  cases faults s.world.asked <;> rfl

/-- A connection that was opened. -/
theorem connect_ok {s s' : State} (h : perform srv faults connect s = (.ok (), s')) :
    s' = s.tick.opened := by
  rw [perform_connect] at h
  cases hfault : faults s.world.asked with
  | some code =>
    rw [hfault] at h
    exact absurd (congrArg Prod.fst h) (by simp)
  | none =>
    rw [hfault] at h
    exact (Prod.mk.inj h).2.symm

/-- A statement that went through. -/
theorem execute_ok {q : Statement} {a : q.Result} {s s' : State}
    (h : perform srv faults (execute q) s = (.ok a, s')) : q.eval srv s.tick = (.ok a, s') := by
  rw [perform_execute] at h
  cases hfault : faults s.world.asked with
  | some code =>
    rw [hfault] at h
    exact absurd (congrArg Prod.fst h) (by simp)
  | none =>
    rw [hfault] at h
    obtain ⟨hresult, hstate⟩ := Prod.mk.inj h
    exact Prod.ext (answered_eq_ok.mp hresult) hstate

/-- A deletion that went through is open on the connection. -/
theorem delete_ok {t : Table} {deviceID : String} {s s' : State}
    (h : perform srv faults (execute (.delete t deviceID)) s = (.ok (), s')) :
    s'.conn = s.conn ++ [.delete t deviceID] := by
  obtain ⟨_, rfl⟩ := Prod.mk.inj (execute_ok h)
  rfl

theorem perform_maxSigned (t : Table) (column : String) (s : State) :
    perform srv faults (maxSigned t column) s =
      match faults s.world.asked with
      | some code => (.error (.sqlError code), s.tick)
      | none =>
        (.ok (((Rows.cells (s.view srv) t column).map srv.castSigned).max?), s.tick) :=
  perform_execute (.maxSigned t column) s

theorem perform_exist (deviceID : String) (s : State) :
    perform srv faults (exist deviceID) s =
      match faults s.world.asked with
      | some code => (.error (.sqlError code), s.tick)
      | none =>
        (.ok ((s.view srv).countP fun e => e.1 = .Device && srv.names deviceID e.2), s.tick) :=
  perform_execute (.exist deviceID) s

theorem perform_columnCount (s : State) : perform srv faults columnCount s =
      match faults s.world.asked with
      | some code => (.error (.sqlError code), s.tick)
      | none => (.ok (s.world.attrs + 4), s.tick) := by
  have hlength : (serviceColumns s.world.attrs).length = s.world.attrs + 4 := by
    simp only [serviceColumns, List.length_append, List.length_cons, List.length_nil,
      List.length_map, List.length_range]
    omega
  rw [← hlength]
  exact perform_execute .columnCount s

theorem perform_commit (s : State) : perform srv faults commit s =
    match faults s.world.asked with
    | some code => (.error (.sqlError code), s.tick)
    | none => (.ok (), s.tick.commit srv) := by
  rw [commit, perform_bind, perform_operation]
  simp only [act, call]
  cases faults s.world.asked <;> rfl

@[simp] theorem perform_emit (event : String) (payload : Value) (s : State) :
    perform srv faults (emit event payload : Prog Act Act.Res ε Unit) s =
      (.ok (), s.shown (.emitted event payload)) := rfl

@[simp] theorem perform_nextManageNum (s : State) :
    perform srv faults nextManageNum s = (.ok (s.world.manageNum + 1), s.manage) := rfl

end Run

end Versatile.Diversity
