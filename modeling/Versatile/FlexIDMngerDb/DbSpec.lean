import Versatile.FlexIDMngerDb.DbProc

/-!
# What `db_proc` does to the connection

One lemma for each primitive, so that nothing above this module unfolds `execute`: a
selection for one column value answers whether it fetches a row, an insertion that goes through
appends its row, and one that does not leaves the log as it was. Where the literals are whole,
a selection fetches the rows that have the value of its literal, and an insertion appends the
values of its own.
-/

namespace Versatile

open Py

namespace Database

@[simp] theorem tick_log (db : Database) : db.tick.log = db.log := rfl

@[simp] theorem tick_executed (db : Database) : db.tick.executed = db.executed + 1 := rfl

@[simp] theorem store_log (db : Database) (t : Table) (r : Tuple) :
    (db.store t r).log = db.log.insert (t, r) := rfl

@[simp] theorem commit_log (db : Database) : db.commit.log = db.log.commit := rfl

@[simp] theorem commit_rows (db : Database) (t : Table) : db.commit.rows t = db.rows t := by
  simp [rows]

/-- What is seen after a commit is committed. -/
theorem committedRows_commit (db : Database) (t : Table) :
    db.commit.committedRows t = db.rows t := by
  rw [committedRows, commit_log]
  simp [rows]

end Database

theorem rowsOf_append (t : Table) (l l' : List (Table × Tuple)) :
    rowsOf t (l ++ l') = rowsOf t l ++ rowsOf t l' := by simp [rowsOf]

theorem mem_rowsOf {t : Table} {r : Tuple} {l : List (Table × Tuple)} :
    r ∈ rowsOf t l ↔ (t, r) ∈ l := by
  simp only [rowsOf, List.mem_filterMap]
  refine ⟨?_, ?_⟩
  · intro h
    obtain ⟨⟨t', r'⟩, hmem, h⟩ := h
    split at h
    · rename_i ht
      obtain rfl : r' = r := by simpa using h
      rwa [← ht]
    · exact absurd h (by simp)
  · intro h
    exact ⟨(t, r), h, by simp⟩

namespace Server

/-- Does the connection see a row with this value in this column? -/
def finds (srv : Server) (db : Database) (t : Table) (col text : String) : Bool :=
  (db.rows t).any (srv.hasCell t · col text)

/-- Does a selection for one column value fetch a row? -/
def selects (srv : Server) (db : Database) (t : Table) (col text : String) : Bool :=
  !(srv.fetched db t [⟨col, text⟩]).isEmpty

/-- The text of the selection for one column value. -/
def probeText (t : Table) (col text : String) : String :=
  (Statement.select t [⟨col, text⟩]).text

theorem finds_eq_true {srv : Server} {db : Database} {t : Table} {col text : String} :
    srv.finds db t col text = true ↔ ∃ r ∈ db.rows t, srv.hasCell t r col text = true := by
  simp [finds]

/-- **The checks of the schema**: known columns, a new primary key, and a parent row. -/
theorem admits_eq_ok {srv : Server} {db : Database} {t : Table} {r : Tuple} :
    srv.admits db t r = .ok () ↔ (∀ c ∈ r, c.1 ∈ t.columns) ∧
      (∀ e ∈ db.rows t, srv.agree t t.primaryKey e r = false) ∧
      (t.referencesDevice = true →
        ∃ e ∈ db.rows .Device, srv.agree .Device ["deviceId"] e r = true) := by
  rw [← List.any_eq_true]
  unfold admits
  by_cases hcols : r.all (fun c => c.1 ∈ t.columns) = true
  · rw [if_neg (not_not.mpr hcols)]
    have hall : ∀ c ∈ r, c.1 ∈ t.columns := by simpa using hcols
    by_cases hdup : (db.rows t).any (srv.agree t t.primaryKey · r) = true
    · rw [if_pos hdup]
      obtain ⟨e, he, hagree⟩ := List.any_eq_true.mp hdup
      refine ⟨fun h => absurd h (by simp), fun h => ?_⟩
      rw [h.2.1 e he] at hagree
      exact absurd hagree (by simp)
    · rw [if_neg hdup]
      have hnone : ∀ e ∈ db.rows t, srv.agree t t.primaryKey e r = false := by simpa using hdup
      by_cases hparent : t.referencesDevice = true ∧
          ¬ (db.rows .Device).any (srv.agree .Device ["deviceId"] · r) = true
      · rw [if_pos hparent]
        exact ⟨fun h => absurd h (by simp), fun h => absurd (h.2.2 hparent.1) hparent.2⟩
      · rw [if_neg hparent]
        refine ⟨fun _ => ⟨hall, hnone, fun href => ?_⟩, fun _ => rfl⟩
        by_contra hno
        exact hparent ⟨href, hno⟩
  · rw [if_pos hcols]
    refine ⟨fun h => absurd h (by simp), fun h => absurd ?_ hcols⟩
    exact List.all_eq_true.mpr fun c hc => by simpa using h.1 c hc

/-- What a row that passes the checks of the schema has. -/
theorem admits_ok {srv : Server} {db : Database} {t : Table} {r : Tuple}
    (h : srv.admits db t r = .ok ()) :
    (db.rows t).any (srv.agree t t.primaryKey · r) = false ∧
      (t.referencesDevice = true →
        (db.rows .Device).any (srv.agree .Device ["deviceId"] · r) = true) := by
  obtain ⟨_, hkey, hparent⟩ := admits_eq_ok.mp h
  exact ⟨by simpa using hkey, fun href => List.any_eq_true.mpr (hparent href)⟩

/-- **A selection whose literal is whole** fetches a row exactly if one has its value. -/
theorem selects_of_read {srv : Server} {db : Database} {t : Table} {col text value : String}
    (h : readText text = some value) : srv.selects db t col text = srv.finds db t col value := by
  have hread : readCells [⟨col, text⟩] = some [(col, value)] := by
    rw [readCells, h]
    rfl
  have hmeets : srv.meets t [(col, value)] = fun r => srv.hasCell t r col value := by
    funext r; simp [meets]
  rw [selects, fetched, hread, finds]
  simp only [hmeets]
  induction db.rows t with
  | nil => rfl
  | cons r rs ih =>
    rw [List.any_cons, List.filter_cons]
    cases srv.hasCell t r col value with
    | true => rfl
    | false => simpa using ih

/-- A plain text is selected for as it is. -/
theorem selects_plain {srv : Server} {db : Database} {t : Table} {col text : String}
    (h : Plain text) : srv.selects db t col text = srv.finds db t col text :=
  selects_of_read (readText_plain h)

end Server

namespace FlexIDMngerDb

variable {srv : Server} {db db' : Database} {t : Table}

/--
**A selection for one column value** is refused, or answers with a list that is truthy
exactly when it fetches a row.
-/
theorem db_proc_probe (srv : Server) {col x : String} (hcol : col ∈ t.columns)
    (hcat : col ≠ "category") (db : Database) :
    (∃ code, srv.refuses db.executed (Server.probeText t col x) = some code ∧
        db_proc srv .select (.onTable t [[(col, .str x)]]) db =
          (.error (.sqlError code), db.tick)) ∨
      (srv.refuses db.executed (Server.probeText t col x) = none ∧
        ∃ exist : Value, exist.truthy = srv.selects db t col x ∧
          db_proc srv .select (.onTable t [[(col, .str x)]]) db =
            (.ok (.dict [("error", .int 0), ("data", exist)]), db.tick)) := by
  have hget : Dict.get [(col, Value.str x)] "category" = none := by
    rw [Dict.get_cons, if_neg (Ne.symm hcat)]; rfl
  rw [db_proc]
  simp only [hget, Option.getD_none, Value.isStr, Bool.false_eq_true, if_false, Proc.bind_apply,
    Server.execute, List.map_cons, List.map_nil, whereCell, Value.text, Server.probeText,
    List.all_cons, List.all_nil, Bool.and_true, decide_eq_true hcol, not_true_eq_false]
  cases srv.refuses db.executed (Statement.select t [⟨col, x⟩]).text with
  | some code => exact Or.inl ⟨code, rfl, rfl⟩
  | none =>
    refine Or.inr ⟨rfl, _, ?_, rfl⟩
    rw [Value.truthy, List.isEmpty_map]
    rfl

/-! ## Insertions -/

theorem insertCell_column {c : String × Value} {cell : Cell} (h : insertCell c = .ok cell) :
    cell.column = c.1 := by
  unfold insertCell at h
  split at h
  · obtain ⟨ts, _, h⟩ := Except.bind_eq_ok.mp h
    rw [← Except.pure_eq_ok.mp h]
  · rw [← Except.pure_eq_ok.mp h]

theorem insertCell_str (col v : String) : insertCell (col, .str v) = .ok ⟨col, v⟩ := rfl

/-- The row a dictionary of fields is stored as, where its literals are whole. -/
def tupleOf (f : Fields) : Except Exc Tuple := do
  let cells ← f.mapM insertCell
  match readCells cells with
  | some r => return r
  | none => throw (.sqlError 1064)

/-- The rows an insertion stores, where its literals are whole. -/
def tuplesOf (fs : List Fields) : Except Exc (List Tuple) := fs.mapM tupleOf

/-- The statement built for a row has no broken literal. -/
def Whole (f : Fields) : Prop :=
  ∀ cells, f.mapM insertCell = .ok cells → ∃ r, readCells cells = some r

theorem tupleOf_eq_ok {f : Fields} {r : Tuple} :
    tupleOf f = .ok r ↔ ∃ cells, f.mapM insertCell = .ok cells ∧ readCells cells = some r := by
  rw [tupleOf, Except.bind_eq_ok]
  refine exists_congr fun cells => and_congr_right fun _ => ?_
  cases readCells cells with
  | none => exact ⟨fun h => absurd h (by simp), fun h => absurd h (by simp)⟩
  | some r' => rw [Except.pure_eq_ok, Option.some.injEq]

/-- A row that is stored as it stands has no broken literal. -/
theorem whole_of_tupleOf {f : Fields} {r : Tuple} (h : tupleOf f = .ok r) : Whole f := by
  obtain ⟨cells, hcells, hread⟩ := tupleOf_eq_ok.mp h
  intro cells' hcells'
  obtain rfl := Except.ok.inj (hcells.symm.trans hcells')
  exact ⟨r, hread⟩

theorem whole_of_tuplesOf {fs : List Fields} {rows : List Tuple} (h : tuplesOf fs = .ok rows) :
    ∀ f ∈ fs, Whole f := by
  intro f hf
  obtain ⟨r, _, hr⟩ := Except.exists_mem_mapM h hf
  exact whole_of_tupleOf hr

theorem readCells_cons {c : Cell} {cs : List Cell} {r : Tuple} :
    readCells (c :: cs) = some r ↔
      ∃ value rest, readText c.literal = some value ∧ readCells cs = some rest ∧
        r = (c.column, value) :: rest := by
  rw [readCells]
  simp only [Option.bind_eq_bind, Option.bind_eq_some_iff, Option.pure_def, Option.some.injEq]
  refine ⟨?_, ?_⟩
  · intro h
    obtain ⟨value, hvalue, rest, hrest, rfl⟩ := h
    exact ⟨value, rest, hvalue, hrest, rfl⟩
  · intro h
    obtain ⟨value, rest, hvalue, hrest, rfl⟩ := h
    exact ⟨value, hvalue, rest, hrest, rfl⟩

/-- The value of a column is the value of its literal. -/
theorem readCells_get {f : Fields} {cells : List Cell} {r : Tuple}
    (h : f.mapM insertCell = .ok cells) (hr : readCells cells = some r) {col : String} {v : Value}
    (hv : Dict.get f col = some v) :
    ∃ c value, insertCell (col, v) = .ok c ∧ readText c.literal = some value ∧
      Dict.get r col = some value := by
  induction f generalizing cells r with
  | nil => exact absurd hv (by simp)
  | cons e f ih =>
    obtain ⟨c, cs, hc, hcs, rfl⟩ := Except.mapM_cons_eq_ok.mp h
    obtain ⟨value, rest, hvalue, hrest, rfl⟩ := readCells_cons.mp hr
    rw [Dict.get_cons, insertCell_column hc]
    rw [Dict.get_cons] at hv
    by_cases hk : col = e.1
    · rw [if_pos hk] at hv ⊢
      obtain rfl : e.2 = v := Option.some.inj hv
      exact ⟨c, value, by rw [hk]; exact hc, hvalue, rfl⟩
    · rw [if_neg hk] at hv ⊢
      exact ih hcs hrest hv

/-- A plain string stands in its column as it is. -/
theorem readCells_str {f : Fields} {cells : List Cell} {r : Tuple}
    (h : f.mapM insertCell = .ok cells) (hr : readCells cells = some r) {col v : String}
    (hv : Dict.get f col = some (.str v)) (hplain : Plain v) : Dict.get r col = some v := by
  obtain ⟨c, value, hc, hvalue, hget⟩ := readCells_get h hr hv
  rw [insertCell_str] at hc
  obtain rfl := Except.ok.inj hc
  rw [hget, ← hvalue, readText_plain hplain]

/-- Every row of an insertion has the plain strings its fields have. -/
theorem tuplesOf_str {fs : List Fields} {rows : List Tuple} (h : tuplesOf fs = .ok rows)
    {col v : String} (hfs : ∀ f ∈ fs, Dict.get f col = some (.str v)) (hplain : Plain v)
    {r : Tuple} (hr : r ∈ rows) : Dict.get r col = some v := by
  obtain ⟨f, hf, htuple⟩ := Except.mem_mapM h hr
  obtain ⟨cells, hcells, hread⟩ := tupleOf_eq_ok.mp htuple
  exact readCells_str hcells hread (hfs f hf) hplain

/-- **An insertion goes through** when its cells can be built, the server does not refuse the
statement, and the row it makes of it passes the checks of the schema; then the row is
appended. -/
theorem insertRow_eq_ok {f : Fields} :
    insertRow srv t f db = (.ok (), db') ↔ ∃ cells, f.mapM insertCell = .ok cells ∧
      srv.refuses db.executed (Statement.insert t cells).text = none ∧
      srv.admits db t (srv.newRow db t cells) = .ok () ∧
      db' = db.tick.store t (srv.newRow db t cells) := by
  rw [insertRow]
  cases hcells : f.mapM insertCell with
  | error e =>
    rw [Proc.bind_lift_error rfl]
    exact ⟨fun h => absurd (congrArg Prod.fst h) (by simp), fun ⟨_, h, _⟩ => absurd h (by simp)⟩
  | ok cells =>
    rw [Proc.bind_lift_ok rfl, Proc.bind_apply, Server.execute]
    cases hrefused : srv.refuses db.executed (Statement.insert t cells).text with
    | some code =>
      refine ⟨fun h => absurd (congrArg Prod.fst h) (by simp), fun ⟨cells', h, hno, _⟩ => ?_⟩
      obtain rfl := Except.ok.inj h
      rw [hrefused] at hno
      exact absurd hno (by simp)
    | none =>
      cases hadm : srv.admits db t (srv.newRow db t cells) with
      | error e =>
        refine ⟨fun h => absurd (congrArg Prod.fst h) (by simp), fun ⟨cells', h, _, hok, _⟩ => ?_⟩
        obtain rfl := Except.ok.inj h
        rw [hadm] at hok
        exact absurd hok (by simp)
      | ok _ =>
        refine ⟨?_, ?_⟩
        · intro h
          exact ⟨cells, rfl, hrefused, hadm, (congrArg Prod.snd h).symm⟩
        · intro h
          obtain ⟨cells', h, _, _, rfl⟩ := h
          obtain rfl := Except.ok.inj h
          rfl

/-- **An insertion without broken literals** appends the values of its literals. -/
theorem insertRow_whole {f : Fields} (hwhole : Whole f) :
    insertRow srv t f db = (.ok (), db') ↔ ∃ cells r, f.mapM insertCell = .ok cells ∧
      readCells cells = some r ∧
      srv.refuses db.executed (Statement.insert t cells).text = none ∧
      srv.admits db t r = .ok () ∧ db' = db.tick.store t r := by
  have hrow : ∀ {cells r}, readCells cells = some r → srv.newRow db t cells = r := by
    intro cells r h
    rw [Server.newRow, h]
  rw [insertRow_eq_ok]
  refine ⟨?_, ?_⟩
  · intro h
    obtain ⟨cells, hcells, hrefused, hadm, hdb⟩ := h
    obtain ⟨r, hr⟩ := hwhole cells hcells
    rw [hrow hr] at hadm hdb
    exact ⟨cells, r, hcells, hr, hrefused, hadm, hdb⟩
  · intro h
    obtain ⟨cells, r, hcells, hr, hrefused, hadm, hdb⟩ := h
    refine ⟨cells, hcells, hrefused, ?_, ?_⟩
    · rw [hrow hr]; exact hadm
    · rw [hrow hr]; exact hdb

/-- An insertion without broken literals that goes through passed the checks of the schema. -/
theorem insertRow_ok {f : Fields} (hwhole : Whole f) (h : insertRow srv t f db = (.ok (), db')) :
    ∃ r, tupleOf f = .ok r ∧ srv.admits db t r = .ok () ∧ db' = db.tick.store t r := by
  obtain ⟨cells, r, hcells, hr, _, hadm, hdb⟩ := (insertRow_whole hwhole).mp h
  exact ⟨r, tupleOf_eq_ok.mpr ⟨cells, hcells, hr⟩, hadm, hdb⟩

/-- **An insertion that raises** leaves the log as it was. -/
theorem insertRow_error {f : Fields} {e : Exc} (h : insertRow srv t f db = (.error e, db')) :
    db'.log = db.log := by
  rcases Proc.bind_eq_error.mp h with h | ⟨cells, db1, h1, h2⟩
  · obtain ⟨_, rfl⟩ : _ ∧ db = db' := by simpa using h
    rfl
  · obtain ⟨_, rfl⟩ : _ ∧ db = db1 := by simpa using h1
    rcases Proc.bind_eq_error.mp h2 with h3 | ⟨_, _, _, h4⟩
    · unfold Server.execute at h3
      split at h3
      · obtain ⟨_, rfl⟩ : _ ∧ db.tick = db' := by simpa using h3
        rfl
      · simp only at h3
        split at h3
        · exact absurd h3 (by simp)
        · obtain ⟨_, rfl⟩ : _ ∧ db.tick = db' := by simpa using h3
          rfl
    · exact absurd h4 (by simp)

/-- The rows that an insertion of several rows appended, up to the first that failed. -/
structure Appended (t : Table) (rows : List Tuple) (db db' : Database) : Prop where
  committed : db'.log.committed = db.log.committed
  pending : db'.log.pending = db.log.pending ++ rows.map (t, ·)

theorem Appended.refl (t : Table) (db : Database) : Appended t [] db db := ⟨rfl, by simp⟩

theorem Appended.all {rows : List Tuple} (h : Appended t rows db db') :
    db'.log.all = db.log.all ++ rows.map (t, ·) := by
  rw [TxLog.all, TxLog.all, h.committed, h.pending, List.append_assoc]

/-- The rows of the table behind some insertions. -/
theorem Appended.rows_same {rows : List Tuple} (h : Appended t rows db db') :
    db'.rows t = db.rows t ++ rows := by
  rw [Database.rows, Database.rows, h.all, rowsOf_append]
  simp [rowsOf]

/-- The rows of another table. -/
theorem Appended.rows_other {rows : List Tuple} (h : Appended t rows db db') {t' : Table}
    (ht : t ≠ t') : db'.rows t' = db.rows t' := by
  rw [Database.rows, Database.rows, h.all, rowsOf_append]
  simp [rowsOf, ht]

theorem appended_of_log_eq (h : db'.log = db.log) : Appended t [] db db' :=
  ⟨by rw [h], by simp [h]⟩

/-- A row that went in, and the rows after it. -/
theorem Appended.cons {f : Fields} {rows : List Tuple} {db1 : Database}
    (h1 : insertRow srv t f db = (.ok (), db1)) (h : Appended t rows db1 db') :
    ∃ r, Appended t (r :: rows) db db' := by
  obtain ⟨cells, _, _, _, rfl⟩ := insertRow_eq_ok.mp h1
  refine ⟨srv.newRow db t cells, h.committed, ?_⟩
  rw [h.pending]
  simp

/-- The loop over the rows, row by row. -/
theorem insertRows_cons (f : Fields) (fs : List Fields) :
    insertRows srv t (f :: fs) db =
      match insertRow srv t f db with
      | (.ok (), db1) => insertRows srv t fs db1
      | (.error e, db1) => (.error e, db1) := by
  rw [insertRows, Proc.bind_apply]
  rcases insertRow srv t f db with ⟨r, db1⟩
  cases r <;> rfl

/-- Rows go in exactly if the first does, and the others behind it. -/
theorem insertRows_cons_eq_ok {f : Fields} {fs : List Fields} {db' : Database} :
    insertRows srv t (f :: fs) db = (.ok (), db') ↔
      ∃ db1, insertRow srv t f db = (.ok (), db1) ∧ insertRows srv t fs db1 = (.ok (), db') := by
  rw [insertRows, Proc.bind_eq_ok]
  exact ⟨fun h => h.elim fun _ h => h, fun h => ⟨(), h⟩⟩

/-- **The loop appends a part of its rows**, whatever its outcome. -/
theorem insertRows_appended (srv : Server) (t : Table) (fs : List Fields) :
    ∀ db : Database, ∃ rows, Appended t rows db (insertRows srv t fs db).2 := by
  induction fs with
  | nil => exact fun db => ⟨[], Appended.refl t db⟩
  | cons f fs ih =>
    intro db
    rw [insertRows_cons]
    rcases hf : insertRow srv t f db with ⟨r, db1⟩
    cases r with
    | ok _ =>
      obtain ⟨rows, hrows⟩ := ih db1
      obtain ⟨row, h⟩ := Appended.cons hf hrows
      exact ⟨row :: rows, h⟩
    | error e => exact ⟨[], appended_of_log_eq (insertRow_error hf)⟩

/-- When the first row goes in, something is appended. -/
theorem insertRows_appended_cons {f : Fields} {db1 : Database} (fs : List Fields)
    (hf : insertRow srv t f db = (.ok (), db1)) :
    ∃ row rows, Appended t (row :: rows) db (insertRows srv t (f :: fs) db).2 := by
  rw [insertRows_cons, hf]
  obtain ⟨rows, hrows⟩ := insertRows_appended srv t fs db1
  obtain ⟨row, h⟩ := Appended.cons hf hrows
  exact ⟨row, rows, h⟩

/-- When the first row does not, nothing is. -/
theorem insertRows_not_first {f : Fields} (fs : List Fields)
    (hf : (insertRow srv t f db).1 ≠ .ok ()) :
    (∃ e, (insertRows srv t (f :: fs) db).1 = .error e) ∧
      (insertRows srv t (f :: fs) db).2.log = db.log := by
  rw [insertRows_cons]
  rcases h : insertRow srv t f db with ⟨r, db1⟩
  cases r with
  | ok _ => exact absurd (by rw [h]) hf
  | error e => exact ⟨⟨e, rfl⟩, insertRow_error h⟩

/-- The insertion of `db_proc`: the loop, and a commit when it went through. -/
theorem db_proc_insert (fs : List Fields) :
    db_proc srv .insert (.onTable t fs) db =
      match insertRows srv t fs db with
      | (.ok (), db1) => (.ok (.dict [("error", .int 0)]), db1.commit)
      | (.error e, db1) => (.error e, db1) := by
  rw [db_proc, Proc.bind_apply]
  rcases insertRows srv t fs db with ⟨r, db1⟩
  cases r <;> rfl

end FlexIDMngerDb

end Versatile
