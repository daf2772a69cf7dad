import Versatile.FlexIDMngerDb.Rows

/-!
# Insertions in one database and in another

The rows an insertion stores are made of its fields alone; whether the database takes them
depends on what is stored. So an insertion that one database took is taken by another as well,
if that has the same rows and some more whose primary keys are others, and refused if one of
the keys is the same. A server that is `Steady` refuses a statement for what it says, not for
when it comes.
-/

namespace Versatile.FlexIDMngerDb

open Py

variable {srv : Server} {t : Table}

/-- What the server refuses of its own depends on the statement alone. -/
def Steady (srv : Server) : Prop :=
  ∀ n n' text, srv.refuses n text = srv.refuses n' text

/-! ## The rows of an insertion -/

theorem mem_rows_store {db : Database} {t' : Table} {r e : Tuple} :
    e ∈ (db.tick.store t r).rows t' ↔ e ∈ db.rows t' ∨ (t' = t ∧ e = r) := by
  simp only [Database.rows, Database.store_log, Database.tick_log, TxLog.all_insert,
    rowsOf_append, List.mem_append, mem_rowsOf, List.mem_singleton, Prod.mk.injEq]

/-- The rows of a table after an insertion. -/
theorem Appended.mem_rows {rows : List Tuple} {db db' : Database} (h : Appended t rows db db')
    {t' : Table} {e : Tuple} : e ∈ db'.rows t' ↔ e ∈ db.rows t' ∨ (t' = t ∧ e ∈ rows) := by
  rw [Database.rows, Database.rows, h.all, mem_rowsOf, mem_rowsOf, List.mem_append, List.mem_map]
  refine ⟨?_, ?_⟩
  · intro he
    rcases he with he | ⟨r, hr, heq⟩
    · exact Or.inl he
    · obtain ⟨rfl, rfl⟩ := Prod.mk.inj heq
      exact Or.inr ⟨rfl, hr⟩
  · intro he
    rcases he with he | ⟨rfl, he⟩
    · exact Or.inl he
    · exact Or.inr ⟨e, he, rfl⟩

/-- **The rows of an insertion that went through**: none has the primary key of a row that was
stored before. -/
theorem insertRows_ok {fs : List Fields} {db db' : Database} (hwhole : ∀ f ∈ fs, Whole f)
    (h : insertRows srv t fs db = (.ok (), db')) :
    ∃ rows, tuplesOf fs = .ok rows ∧ Appended t rows db db' ∧
      ∀ r ∈ rows, ∀ e ∈ db.rows t, srv.agree t t.primaryKey e r = false := by
  induction fs generalizing db with
  | nil =>
    obtain ⟨_, rfl⟩ := Prod.mk.inj h
    exact ⟨[], rfl, Appended.refl t db, by simp⟩
  | cons f fs ih =>
    obtain ⟨hf, hfs⟩ := List.forall_mem_cons.mp hwhole
    obtain ⟨db1, hrow, hrest⟩ := insertRows_cons_eq_ok.mp h
    obtain ⟨rows, hrows, happ, hnew⟩ := ih hfs hrest
    obtain ⟨r, hr, hadm, rfl⟩ := insertRow_ok hf hrow
    refine ⟨r :: rows, Except.mapM_cons_eq_ok.mpr ⟨r, rows, hr, hrows, rfl⟩,
      ⟨happ.committed, ?_⟩, ?_⟩
    · rw [happ.pending]
      simp
    · intro r' hr' e he
      rcases List.mem_cons.mp hr' with rfl | hr'
      · exact (Server.admits_eq_ok.mp hadm).2.1 e he
      · exact hnew r' hr' e (mem_rows_store.mpr (Or.inl he))

/-! ## When an insertion goes through -/

/-- Rows that the checks of the schema let in, one after the other. -/
structure Fits (srv : Server) (t : Table) (db : Database) (rows : List Tuple) : Prop where
  columns : ∀ r ∈ rows, ∀ c ∈ r, c.1 ∈ t.columns
  fresh : ∀ r ∈ rows, ∀ e ∈ db.rows t, srv.agree t t.primaryKey e r = false
  apart : rows.Pairwise fun r r' => srv.agree t t.primaryKey r r' = false
  linked : t.referencesDevice = true → ∀ r ∈ rows, ∃ e ∈ db.rows .Device,
    srv.agree .Device ["deviceId"] e r = true

/-- The first row is let in, and the others behind it. -/
theorem fits_cons {db : Database} {r : Tuple} {rows : List Tuple} :
    Fits srv t db (r :: rows) ↔
      srv.admits db t r = .ok () ∧ Fits srv t (db.tick.store t r) rows := by
  rw [Server.admits_eq_ok]
  have hdevices : t.referencesDevice = true → ∀ e, e ∈ (db.tick.store t r).rows .Device ↔
      e ∈ db.rows .Device := by
    intro href e
    rw [mem_rows_store]
    refine or_iff_left fun h => ?_
    rw [← h.1] at href
    exact absurd href (by decide)
  refine ⟨?_, ?_⟩
  · intro h
    have hapart := List.pairwise_cons.mp h.apart
    refine ⟨⟨h.columns r List.mem_cons_self, h.fresh r List.mem_cons_self,
      fun href => h.linked href r List.mem_cons_self⟩,
      fun r' hr' => h.columns r' (List.mem_cons_of_mem _ hr'), fun r' hr' e he => ?_, hapart.2,
      fun href r' hr' => ?_⟩
    · rcases mem_rows_store.mp he with he | ⟨_, rfl⟩
      · exact h.fresh r' (List.mem_cons_of_mem _ hr') e he
      · exact hapart.1 r' hr'
    · obtain ⟨e, he, hagree⟩ := h.linked href r' (List.mem_cons_of_mem _ hr')
      exact ⟨e, (hdevices href e).mpr he, hagree⟩
  · intro hsome
    obtain ⟨⟨hcolumns, hfresh, hlinked⟩, h⟩ := hsome
    refine ⟨List.forall_mem_cons.mpr ⟨hcolumns, h.columns⟩, List.forall_mem_cons.mpr
      ⟨hfresh, fun r' hr' e he => h.fresh r' hr' e (mem_rows_store.mpr (Or.inl he))⟩,
      List.pairwise_cons.mpr ⟨fun r' hr' => ?_, h.apart⟩, fun href => List.forall_mem_cons.mpr
      ⟨hlinked href, fun r' hr' => ?_⟩⟩
    · exact h.fresh r' hr' r (mem_rows_store.mpr (Or.inr ⟨rfl, rfl⟩))
    · obtain ⟨e, he, hagree⟩ := h.linked href r' hr'
      exact ⟨e, (hdevices href e).mp he, hagree⟩

/-! ## Which rows fit -/

/-- The cells of a row have its columns. -/
theorem mapM_insertCell_columns {f : Fields} {cells : List Cell}
    (h : f.mapM insertCell = .ok cells) : cells.map Cell.column = f.map Prod.fst := by
  induction f generalizing cells with
  | nil =>
    obtain rfl : [] = cells := Except.pure_eq_ok.mp h
    rfl
  | cons e f ih =>
    obtain ⟨c, cs, hc, hcs, rfl⟩ := Except.mapM_cons_eq_ok.mp h
    rw [List.map_cons, List.map_cons, ih hcs, insertCell_column hc]

theorem readCells_columns {cells : List Cell} {r : Tuple} (h : readCells cells = some r) :
    r.map Prod.fst = cells.map Cell.column := by
  induction cells generalizing r with
  | nil =>
    obtain rfl : [] = r := Option.some.inj h
    rfl
  | cons c cs ih =>
    obtain ⟨value, rest, _, hrest, rfl⟩ := readCells_cons.mp h
    rw [List.map_cons, List.map_cons, ih hrest]

/-- An insertion stores the columns it is given. -/
theorem tupleOf_columns {f : Fields} {row : Tuple} (h : tupleOf f = .ok row) :
    row.map Prod.fst = f.map Prod.fst := by
  obtain ⟨cells, hcells, hread⟩ := tupleOf_eq_ok.mp h
  rw [readCells_columns hread, mapM_insertCell_columns hcells]

/-- The primary key of a table of one column. -/
theorem agree_singleton {col x y : String} {e r : Tuple} (he : Dict.get e col = some x)
    (hr : Dict.get r col = some y) : srv.agree t [col] e r = srv.same x y := by
  simp only [Server.agree, List.all_cons, List.all_nil, Bool.and_true, hr, Server.hasCell,
    Tuple.cell, he]

/-- The key of one column decides by the text the row has there. -/
theorem agree_hasCell {t : Table} {col x : String} {e r : Tuple} (hr : Dict.get r col = some x) :
    srv.agree t [col] e r = srv.hasCell t e col x := by
  simp only [Server.agree, List.all_cons, List.all_nil, Bool.and_true, hr]

/-- A text that no row of a table has in a column. -/
theorem finds_eq_false {db : Database} {t : Table} {col x : String} :
    srv.finds db t col x = false ↔ ∀ e ∈ db.rows t, srv.hasCell t e col x = false := by
  rw [← Bool.not_eq_true, Server.finds_eq_true]
  simp

/-- What stands on the right belongs to something on the left. -/
theorem exists_of_forall₂ {α β : Type} {R : α → β → Prop} {l : List α} {l' : List β}
    (h : List.Forall₂ R l l') {b : β} (hb : b ∈ l') : ∃ a ∈ l, R a b := by
  induction h with
  | nil => exact absurd hb (by simp)
  | @cons a _ _ _ hab _ ih =>
    rcases List.mem_cons.mp hb with rfl | hb
    · exact ⟨a, List.mem_cons_self, hab⟩
    · obtain ⟨a', ha', hR⟩ := ih hb
      exact ⟨a', List.mem_cons_of_mem _ ha', hR⟩

/-- Elements that correspond have the property that corresponds. -/
theorem forall_mem_iff_of_forall₂ {α β : Type} {R : α → β → Prop} {p : α → Prop} {q : β → Prop}
    (hpq : ∀ a b, R a b → (p a ↔ q b)) {as : List α} {bs : List β} (h : List.Forall₂ R as bs) :
    (∀ a ∈ as, p a) ↔ ∀ b ∈ bs, q b := by
  induction h with
  | nil => simp
  | cons hab _ ih => rw [List.forall_mem_cons, List.forall_mem_cons, hpq _ _ hab, ih]

/-- Pairs that correspond are in the relation that corresponds. -/
theorem pairwise_iff_of_forall₂ {α β : Type} {R : α → β → Prop} {p : α → α → Prop}
    {q : β → β → Prop} (hpq : ∀ a b a' b', R a b → R a' b' → (p a a' ↔ q b b')) {as : List α}
    {bs : List β} (h : List.Forall₂ R as bs) : as.Pairwise p ↔ bs.Pairwise q := by
  induction h with
  | nil => simp
  | cons hab htail ih =>
    rw [List.pairwise_cons, List.pairwise_cons, ih,
      forall_mem_iff_of_forall₂ (fun a' b' h' => hpq _ _ a' b' hab h') htail]

/-- The columns of the tuples are those of the rows. -/
theorem tuplesOf_columns {t : Table} {fs : List Fields} {rows : List Tuple}
    (hrows : tuplesOf fs = .ok rows) (hcols : ∀ f ∈ fs, ∀ c ∈ f, c.1 ∈ t.columns) :
    ∀ r ∈ rows, ∀ c ∈ r, c.1 ∈ t.columns := by
  intro r hr c hc
  obtain ⟨f, hf, hr⟩ := Except.mem_mapM hrows hr
  have hmem : c.1 ∈ f.map Prod.fst := by
    rw [← tupleOf_columns hr]
    exact List.mem_map_of_mem hc
  obtain ⟨c', hc', heq⟩ := List.mem_map.mp hmem
  rw [← heq]
  exact hcols f hf c' hc'

/-- **The rows of a device fit** exactly if there is one of them at most: they have one key. -/
theorem fits_device_iff {db : Database} {d : String} {fs : List Fields} {rows : List Tuple}
    (hrows : tuplesOf fs = .ok rows) (hd : Plain d)
    (hnew : deviceStored srv db d = false) (hid : ∀ f ∈ fs, Dict.get f "deviceId" = some (.str d))
    (hcols : ∀ f ∈ fs, ∀ c ∈ f, c.1 ∈ Table.columns .Device) :
    Fits srv .Device db rows ↔ rows.length ≤ 1 := by
  have hkey : ∀ r ∈ rows, Dict.get r "deviceId" = some d := fun r hr => tuplesOf_str hrows hid hd hr
  refine ⟨?_, ?_⟩
  · intro h
    rcases rows with _ | ⟨r, _ | ⟨r', rows⟩⟩
    · exact Nat.zero_le _
    · exact Nat.le_refl _
    · -- the second row has the key of the first
      have hapart := (List.pairwise_cons.mp h.apart).1 r' (by simp)
      have hsame : srv.agree .Device ["deviceId"] r r' = srv.same d d :=
        agree_singleton (hkey r (by simp)) (hkey r' (by simp))
      rw [Table.primaryKey, hsame, srv.same_refl] at hapart
      exact absurd hapart (by simp)
  · intro hlen
    refine ⟨tuplesOf_columns hrows hcols, fun r hr e he => ?_, ?_,
      fun href => absurd href (by decide)⟩
    · rw [Table.primaryKey, agree_hasCell (hkey r hr)]
      exact finds_eq_false.mp hnew e he
    · rcases rows with _ | ⟨r, _ | ⟨r', rows⟩⟩
      · exact .nil
      · exact List.pairwise_singleton _ r
      · simp at hlen

/-- The first interface of a join fits under an identifier that is not stored. -/
theorem fits_first {payload relay : Value} {d : String} {db : Database} {f : Fields}
    {fs : List Fields} {row : Tuple} (hd : Plain d)
    (hst : deviceStored srv db d = false)
    (hinfo : infoList payload relay d = .ok (f :: fs))
    (hrow : tupleOf f = .ok row) : Fits srv .Device db [row] := by
  have hrows : tuplesOf [f] = .ok [row] := Except.mapM_cons_eq_ok.mpr ⟨row, [], hrow, rfl, rfl⟩
  refine (fits_device_iff hrows hd hst ?_ ?_).mpr (Nat.le_refl 1)
  · exact List.forall_mem_singleton.mpr (infoList_deviceId hinfo List.mem_cons_self)
  · exact List.forall_mem_singleton.mpr (infoList_columns hinfo List.mem_cons_self)

/-- Whether rows fit depends on the rows of the tables alone. -/
theorem fits_congr {db db' : Database} {rows : List Tuple} (hlog : db'.log = db.log) :
    Fits srv t db' rows ↔ Fits srv t db rows := by
  have hrows : ∀ t', db'.rows t' = db.rows t' := fun t' => by
    rw [Database.rows, Database.rows, hlog]
  refine ⟨?_, ?_⟩
  · intro h
    exact ⟨h.columns, by rw [← hrows]; exact h.fresh, h.apart, by rw [← hrows]; exact h.linked⟩
  · intro h
    exact ⟨h.columns, by rw [hrows]; exact h.fresh, h.apart, by rw [hrows]; exact h.linked⟩

/-! ## When an insertion is taken -/

/-- The server refuses none of the statements of an insertion whose first statement is its
`n`-th. -/
def Unrefused (srv : Server) (t : Table) : Nat → List Fields → Prop
  | _, [] => True
  | n, f :: fs =>
    (∀ cells, f.mapM insertCell = .ok cells →
      srv.refuses n (Statement.insert t cells).text = none) ∧ Unrefused srv t (n + 1) fs

/-- **When an insertion goes through** that has no broken literal: exactly if its rows can be
built, none of its statements is refused, and the rows fit. -/
theorem insertRows_whole {fs : List Fields} {db : Database} (hwhole : ∀ f ∈ fs, Whole f) :
    (∃ db', insertRows srv t fs db = (.ok (), db')) ↔
      ∃ rows, tuplesOf fs = .ok rows ∧ Unrefused srv t db.executed fs ∧ Fits srv t db rows := by
  induction fs generalizing db with
  | nil =>
    exact ⟨fun _ => ⟨[], rfl, trivial, by simp, by simp, .nil, by simp⟩, fun _ => ⟨db, rfl⟩⟩
  | cons f fs ih =>
    obtain ⟨hf, hfs⟩ := List.forall_mem_cons.mp hwhole
    refine ⟨?_, ?_⟩
    · intro hsome
      obtain ⟨db', h⟩ := hsome
      obtain ⟨db1, hrow, h⟩ := insertRows_cons_eq_ok.mp h
      obtain ⟨cells, r, hcells, hr, hrefused, hadm, rfl⟩ := (insertRow_whole hf).mp hrow
      obtain ⟨rows, hrows, hrest, hfits⟩ := (ih hfs).mp ⟨db', h⟩
      refine ⟨r :: rows, Except.mapM_cons_eq_ok.mpr
        ⟨r, rows, tupleOf_eq_ok.mpr ⟨cells, hcells, hr⟩, hrows, rfl⟩, ⟨?_, hrest⟩,
        fits_cons.mpr ⟨hadm, hfits⟩⟩
      intro cells' hcells'
      rwa [← Except.ok.inj (hcells.symm.trans hcells')]
    · intro hsome
      obtain ⟨_, hrows, ⟨hnone, hrest⟩, hfits⟩ := hsome
      obtain ⟨r, rows, hr, hrows', rfl⟩ := Except.mapM_cons_eq_ok.mp hrows
      obtain ⟨cells, hcells, hread⟩ := tupleOf_eq_ok.mp hr
      obtain ⟨hadm, hfits⟩ := fits_cons.mp hfits
      have hrow : insertRow srv t f db = (.ok (), db.tick.store t r) :=
        (insertRow_whole hf).mpr ⟨cells, r, hcells, hread, hnone cells hcells, hadm, rfl⟩
      obtain ⟨db', h⟩ := (@ih (db.tick.store t r) hfs).mpr ⟨rows, hrows', hrest, hfits⟩
      exact ⟨db', insertRows_cons_eq_ok.mpr ⟨_, hrow, h⟩⟩

/-- An insertion of one row. -/
theorem insertRow_iff_fits {f : Fields} {db : Database} (hwhole : Whole f) :
    (∃ db', insertRow srv t f db = (.ok (), db')) ↔
      ∃ row, tupleOf f = .ok row ∧ Unrefused srv t db.executed [f] ∧ Fits srv t db [row] := by
  have hone : insertRows srv t [f] db = insertRow srv t f db := by
    rw [insertRows_cons]
    rcases insertRow srv t f db with ⟨r, db1⟩
    cases r <;> rfl
  have hrows := @insertRows_whole srv t [f] db (List.forall_mem_singleton.mpr hwhole)
  rw [hone] at hrows
  rw [hrows]
  refine ⟨?_, ?_⟩
  · intro h
    obtain ⟨rows, htuples, hrest⟩ := h
    obtain ⟨row, rows', hrow, hnil, rfl⟩ := Except.mapM_cons_eq_ok.mp htuples
    obtain rfl : [] = rows' := Except.pure_eq_ok.mp hnil
    exact ⟨row, hrow, hrest⟩
  · intro h
    obtain ⟨row, hrow, hrest⟩ := h
    exact ⟨[row], Except.mapM_cons_eq_ok.mpr ⟨row, [], hrow, rfl, rfl⟩, hrest⟩

/-- A server that refuses no statement of an insertion, whenever it comes. -/
theorem unrefused_of_taken {fs : List Fields} (htaken : ∀ f ∈ fs, ∀ n cells,
    f.mapM insertCell = .ok cells → srv.refuses n (Statement.insert t cells).text = none)
    (n : Nat) : Unrefused srv t n fs := by
  induction fs generalizing n with
  | nil => trivial
  | cons f fs ih =>
    obtain ⟨hf, hfs⟩ := List.forall_mem_cons.mp htaken
    exact ⟨hf n, ih hfs (n + 1)⟩

/-- **When an insertion goes through** that the server does not refuse of its own: exactly if
its rows fit. -/
theorem insertRows_ok_iff {fs : List Fields} {db : Database} (hwhole : ∀ f ∈ fs, Whole f)
    (htaken : ∀ f ∈ fs, ∀ n cells, f.mapM insertCell = .ok cells →
      srv.refuses n (Statement.insert t cells).text = none) :
    (∃ db', insertRows srv t fs db = (.ok (), db')) ↔
      ∃ rows, tuplesOf fs = .ok rows ∧ Fits srv t db rows := by
  rw [insertRows_whole hwhole]
  have hnone := unrefused_of_taken htaken db.executed
  exact exists_congr fun rows => and_congr_right fun _ => and_iff_right hnone

/-! ## From one database to another -/

/-- A second database sees the rows of the first and some more in a table, and has all its
devices. -/
structure Beyond (t : Table) (extra : List Tuple) (db dbx : Database) : Prop where
  rows : ∀ e ∈ dbx.rows t, e ∈ db.rows t ∨ e ∈ extra
  devices : ∀ e ∈ db.rows .Device, e ∈ dbx.rows .Device

theorem Beyond.store {extra : List Tuple} {db dbx : Database} (h : Beyond t extra db dbx)
    (r : Tuple) : Beyond t extra (db.tick.store t r) (dbx.tick.store t r) where
  rows := by
    intro e he
    rw [mem_rows_store] at he ⊢
    rcases he with he | he
    · exact (h.rows e he).imp_left Or.inl
    · exact Or.inl (Or.inr he)
  devices := by
    intro e he
    rw [mem_rows_store] at he ⊢
    exact he.imp_left (h.devices e)

/-- **What one database took, another takes**, if the rows it has beyond the first have other
primary keys. -/
theorem insertRows_beyond (hsteady : Steady srv) {extra rows : List Tuple}
    {fs : List Fields} {db db' dbx : Database} (hwhole : ∀ f ∈ fs, Whole f)
    (h : insertRows srv t fs db = (.ok (), db'))
    (hbeyond : Beyond t extra db dbx) (hrows : tuplesOf fs = .ok rows)
    (hnew : ∀ r ∈ rows, ∀ e ∈ extra, srv.agree t t.primaryKey e r = false) :
    ∃ dbx', insertRows srv t fs dbx = (.ok (), dbx') ∧ Appended t rows dbx dbx' := by
  -- row by row, the row that goes in widening both databases
  induction fs generalizing db dbx rows with
  | nil =>
    obtain rfl : [] = rows := Except.ok.inj hrows
    exact ⟨dbx, rfl, Appended.refl t dbx⟩
  | cons f fs ih =>
    obtain ⟨hwf, hwfs⟩ := List.forall_mem_cons.mp hwhole
    rw [insertRows_cons] at h ⊢
    rcases hf : insertRow srv t f db with ⟨res, db1⟩
    rw [hf] at h
    cases res with
    | error e => exact absurd (congrArg Prod.fst h) (by simp)
    | ok _ =>
      obtain ⟨r, rows', hr, hrows', rfl⟩ := Except.mapM_cons_eq_ok.mp hrows
      obtain ⟨cells, r', hcells, hread, hrefused, hadm, rfl⟩ := (insertRow_whole hwf).mp hf
      obtain rfl : r' = r := Except.ok.inj
        ((tupleOf_eq_ok.mpr ⟨cells, hcells, hread⟩).symm.trans hr)
      obtain ⟨hcols, hkey, hparent⟩ := Server.admits_eq_ok.mp hadm
      have hadmx : srv.admits dbx t r' = .ok () := by
        refine Server.admits_eq_ok.mpr ⟨hcols, fun e he => ?_, fun href => ?_⟩
        · rcases hbeyond.rows e he with he | he
          · exact hkey e he
          · exact hnew _ (by simp) e he
        · obtain ⟨e, he, hagree⟩ := hparent href
          exact ⟨e, hbeyond.devices e he, hagree⟩
      have hfx : insertRow srv t f dbx = (.ok (), dbx.tick.store t r') :=
        (insertRow_whole hwf).mpr
          ⟨cells, r', hcells, hread, (hsteady _ _ _).trans hrefused, hadmx, rfl⟩
      obtain ⟨dbx', hfs, happ⟩ := ih hwfs h (hbeyond.store _) hrows'
        fun r hr => hnew r (List.mem_cons_of_mem _ hr)
      refine ⟨dbx', by rw [hfx]; exact hfs, happ.committed, ?_⟩
      rw [happ.pending]
      simp

/-- **A row with the primary key of a stored one** is not taken, nor is the insertion. -/
theorem insertRows_taken {fs : List Fields} {rows : List Tuple} {r e : Tuple} {db : Database}
    (hwhole : ∀ f ∈ fs, Whole f) (hrows : tuplesOf fs = .ok rows) (hr : r ∈ rows)
    (he : e ∈ db.rows t) (hagree : srv.agree t t.primaryKey e r = true) :
    (insertRows srv t fs db).1 ≠ .ok () := by
  intro hok
  rcases h : insertRows srv t fs db with ⟨res, db'⟩
  obtain rfl : res = .ok () := by rw [← hok, h]
  obtain ⟨rows', hrows', _, hnew⟩ := insertRows_ok hwhole h
  obtain rfl := Except.ok.inj (hrows.symm.trans hrows')
  rw [hnew r hr e he] at hagree
  exact absurd hagree (by simp)

/-! ## The keys of the rows of a join -/

/-- The value a join stores for the name of a neighbor. -/
def neighborName (neighbor : Value) : Except Exc (Option String) := do
  let neighborFlexID ← neighbor.get "neighborFlexID"
  let cell ← insertCell ("neighborId", neighborFlexID)
  return readText cell.literal

/-- A payload names a neighbor by a value. -/
def NamesNeighbor (kvs : List (String × Value)) (x : String) : Prop :=
  ∃ ns n, (orNULL (field kvs "neighbors")).iter = .ok ns ∧ n ∈ ns ∧ neighborName n = .ok (some x)

/-- The row of a neighbor is stored under its name. -/
theorem neighborFields_name {d : String} {n : Value} {f : Fields} {r : Tuple}
    (hf : neighborFields d n = .ok f) (hr : tupleOf f = .ok r) :
    ∃ x, neighborName n = .ok (some x) ∧ Dict.get r "neighborId" = some x := by
  obtain ⟨_, _, _, flexID, _, _, _, hflexID, rfl⟩ := neighborFields_eq_ok hf
  obtain ⟨cells, hcells, hread⟩ := tupleOf_eq_ok.mp hr
  have hget := readCells_get hcells hread (show Dict.get _ "neighborId" = some flexID from rfl)
  obtain ⟨c, value, hc, hvalue, hstored⟩ := hget
  refine ⟨value, ?_, hstored⟩
  rw [neighborName, hflexID, Except.bind_eq_ok]
  exact ⟨flexID, rfl, by rw [hc, ← hvalue]; rfl⟩

/-- The rows of some neighbors are stored under their names. -/
theorem neighborRows_names {d x : String} {items : List Value} {ns : List Fields}
    {rows : List Tuple} (hns : items.mapM (neighborFields d) = .ok ns)
    (hrows : tuplesOf ns = .ok rows) :
    (∃ n ∈ items, neighborName n = .ok (some x)) ↔
      ∃ r ∈ rows, Dict.get r "neighborId" = some x := by
  induction items generalizing ns rows with
  | nil =>
    obtain rfl : [] = ns := Except.pure_eq_ok.mp hns
    obtain rfl : [] = rows := Except.pure_eq_ok.mp hrows
    simp
  | cons n items ih =>
    obtain ⟨f, fs, hf, hfs, rfl⟩ := Except.mapM_cons_eq_ok.mp hns
    obtain ⟨r, rs, hr, hrs, rfl⟩ := Except.mapM_cons_eq_ok.mp hrows
    obtain ⟨y, hname, hstored⟩ := neighborFields_name hf hr
    simp only [List.exists_mem_cons_iff, ih hfs hrs, hname, hstored, Except.ok.injEq,
      Option.some.injEq]

/-- Every neighbor row of a join has a name. -/
theorem neighborRows_named {payload : Value} {d : String} {ns : List Fields} {rows : List Tuple}
    (hns : neighborList payload d = .ok ns) (hrows : tuplesOf ns = .ok rows) {r : Tuple}
    (hr : r ∈ rows) : ∃ x, Dict.get r "neighborId" = some x := by
  obtain ⟨f, hf, htuple⟩ := Except.mem_mapM hrows hr
  obtain ⟨_, _, n, _, _, _, hfields⟩ := mem_neighborList hns hf
  obtain ⟨x, _, hx⟩ := neighborFields_name hfields htuple
  exact ⟨x, hx⟩

/-- **The neighbor rows of a join are stored under the names in its payload**, whatever the
identifier of the device. -/
theorem namesNeighbor_iff {kvs : List (String × Value)} {d : String} {ns : List Fields}
    {rows : List Tuple} (hns : neighborList (.dict kvs) d = .ok ns)
    (hrows : tuplesOf ns = .ok rows) (x : String) :
    NamesNeighbor kvs x ↔ ∃ r ∈ rows, Dict.get r "neighborId" = some x := by
  obtain ⟨neighbors, hget, hns⟩ := Except.bind_eq_ok.mp hns
  obtain rfl : field kvs "neighbors" = neighbors := Except.ok.inj hget
  obtain ⟨items, hitems, hns⟩ := Except.bind_eq_ok.mp hns
  rw [← neighborRows_names hns hrows]
  refine ⟨?_, ?_⟩
  · intro h
    obtain ⟨items', n, hiter, hn, hname⟩ := h
    obtain rfl := Except.ok.inj (hitems.symm.trans hiter)
    exact ⟨n, hn, hname⟩
  · intro h
    obtain ⟨n, hn, hname⟩ := h
    exact ⟨items, n, hitems, hn, hname⟩

end Versatile.FlexIDMngerDb
