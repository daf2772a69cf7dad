import Mathlib.Data.List.Forall2
import Versatile.Diversity.Steps

/-!
# Handlers over a database that fails nothing

Where no call fails, a handler ends as its own code says: a connection is opened, a statement
gives its result, what is open is committed. Rows are inserted exactly if they can be built.
-/

namespace Versatile.Diversity

open Py

/-- The database fails no call. -/
def Faults.never : Faults := fun _ => none

variable {srv : Server}

@[simp] theorem connect_never (s : State) :
    perform srv .never connect s = (.ok (), s.tick.opened) := by
  rw [perform_connect]
  rfl

theorem execute_never (q : Statement) (s : State) : perform srv .never (execute q) s =
    (answered (q.eval srv s.tick).1, (q.eval srv s.tick).2) := by
  rw [perform_execute]
  rfl

@[simp] theorem commit_never (s : State) :
    perform srv .never commit s = (.ok (), s.tick.commit srv) := by
  rw [perform_commit]
  rfl

@[simp] theorem exist_never (deviceID : String) (s : State) :
    perform srv .never (exist deviceID) s =
      (.ok ((s.view srv).countP fun e => e.1 = .Device && srv.names deviceID e.2), s.tick) :=
  execute_never (.exist deviceID) s

@[simp] theorem maxSigned_never (t : Table) (column : String) (s : State) :
    perform srv .never (maxSigned t column) s =
      (.ok (((Rows.cells (s.view srv) t column).map srv.castSigned).max?), s.tick) :=
  execute_never (.maxSigned t column) s

@[simp] theorem maxOfTexts_never (t : Table) (column : String) (s : State) :
    perform srv .never (maxOfTexts t column) s =
      (.ok (maxText (Rows.cells (s.view srv) t column)), s.tick) :=
  execute_never (.maxText t column) s

/-! ## Columns that are asked for -/

/-- The attribute column an operation adds, or tries to. -/
def Act.column : Act → List Nat
  | .execute (.alter n) => [n]
  | _ => []

/-- The attribute columns a run adds, or tries to, in their order. -/
def tried {ε α : Type} (srv : Server) (faults : Faults) (p : Prog Act Act.Res ε α) (s : State) :
    List Nat :=
  Prog.trace (fun o s => some (act srv faults o s)) (fun o _ _ => o.column) p s

section Tried

variable {faults : Faults} {ε ε' α β : Type}

theorem tried_bind_ok {p : Prog Act Act.Res ε α} {f : α → Prog Act Act.Res ε β} {s s' : State}
    {a : α} (h : perform srv faults p s = (.ok a, s')) :
    tried srv faults (p >>= f) s = tried srv faults p s ++ tried srv faults (f a) s' := by
  have hexec : Prog.exec (fun o s => some (act srv faults o s)) p s = some (.ok a, s') := by
    rw [Prog.exec_total]
    exact congrArg some h
  rw [tried, Prog.trace_bind, hexec]
  rfl

theorem tried_try_ok {p : Prog Act Act.Res ε α} {handler : ε → Prog Act Act.Res ε' α}
    {s s' : State} {a : α} (h : perform srv faults p s = (.ok a, s')) :
    tried srv faults (Prog.tryExcept p handler) s = tried srv faults p s := by
  have hexec : Prog.exec (fun o s => some (act srv faults o s)) p s = some (.ok a, s') := by
    rw [Prog.exec_total]
    exact congrArg some h
  rw [tried, Prog.trace_tryExcept, hexec]
  exact List.append_nil _

/-- A program without `ALTER TABLE` adds no column. -/
theorem tried_of_only {p : Prog Act Act.Res ε α} (hp : Prog.Only (fun o => o.column = []) p)
    (s : State) : tried srv faults p s = [] := by
  have hobs : ∀ (o : Act) (_ : o.Res) (_ : State), o.column = [] → o.column = [] :=
    fun _ _ _ h => h
  exact hp.trace_eq_nil hobs s

theorem tried_execute (q : Statement) (s : State) :
    tried srv faults (execute q) s = (Act.execute q).column := by
  have hrest : ∀ r : Except Nat q.Result, ∀ s', tried srv faults
      (liftM (answered r) : Handler q.Result) s' = [] := fun _ _ => Prog.trace_lift _ _
  exact (congrArg _ (hrest _ _)).trans (List.append_nil _)

end Tried

/-! ## Insertions -/

/-- The state behind some insertions. -/
def State.inserted (t : Table) (rows : List Row) (s : State) : State :=
  { s with
    world := { s.world with asked := s.world.asked + rows.length }
    conn := s.conn ++ rows.map (Change.insert t) }

/-- Only `Service` refuses a row whose texts do not break their literals. -/
theorem insert_never {t : Table} (ht : t ≠ .Service) {row r : Row} (hread : readTexts row = some r)
    (s : State) : perform srv .never (execute (.insert t row)) s = (.ok (), s.inserted t [r]) := by
  have hcolumns : s.tick.world.hasColumns t row = true := by
    rw [World.hasColumns, decide_eq_true ht, Bool.true_or]
  rw [execute_never, eval_insert hread hcolumns]
  rfl

theorem inserted_append (t : Table) (rows rows' : List Row) (s : State) :
    (s.inserted t rows).inserted t rows' = s.inserted t (rows ++ rows') := by
  simp only [State.inserted, List.length_append, List.map_append, Nat.add_assoc,
    List.append_assoc]

/-- **Rows that can be built are inserted**, as what their texts are read as. -/
theorem insertAll_never {t : Table} (ht : t ≠ .Service) {rowOf : Value → Except Exc Row}
    {vs : List Value} {rows read : List Row} (h : vs.mapM rowOf = .ok rows)
    (hread : List.Forall₂ (fun row r => readTexts row = some r) rows read) (s : State) :
    perform srv .never (insertAll t rowOf vs) s = (.ok (), s.inserted t read) := by
  induction vs generalizing rows read s with
  | nil =>
    obtain rfl : [] = rows := Except.pure_eq_ok.mp h
    obtain rfl := List.forall₂_nil_left_iff.mp hread
    simp [insertAll, State.inserted]
  | cons v vs ih =>
    obtain ⟨row, rows', hrow, hrows, rfl⟩ := Except.mapM_cons_eq_ok.mp h
    obtain ⟨r, read', hfirst, hrest, rfl⟩ := List.forall₂_cons_left_iff.mp hread
    have hlift : perform srv .never (liftM (rowOf v) : Handler Row) s = (.ok row, s) := by
      rw [perform_lift, hrow]
    rw [insertAll, perform_bind_ok hlift, perform_bind_ok (insert_never ht hfirst s),
      ih hrows hrest, inserted_append]
    rfl

end Versatile.Diversity
