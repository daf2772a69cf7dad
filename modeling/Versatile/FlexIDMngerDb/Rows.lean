import Versatile.FlexIDMngerDb.Runs

/-!
# The rows of a join, and the keys of the schema

Every row a join builds carries the identifier it generated. Where the literals of the rows are
whole, the primary key of `Device` lets one such row in, and the foreign key of `Neighbor` none
without it.
-/

namespace Versatile.FlexIDMngerDb

open Py

variable {srv : Server}

/-! ## The rows a join builds -/

/-- An interface row is built of an entry of `uniqueCodes`. -/
theorem mem_infoList {payload relay : Value} {d : String} {fs : List Fields}
    (h : infoList payload relay d = .ok fs) {f : Fields} (hf : f ∈ fs) :
    ∃ pubKey codes items data, payload.get "pubKey" = .ok pubKey ∧
      payload.get "uniqueCodes" = .ok codes ∧ codes.iter = .ok items ∧ data ∈ items ∧
      deviceFields d relay pubKey data = .ok f := by
  obtain ⟨pubKey, hkey, h⟩ := Except.bind_eq_ok.mp h
  obtain ⟨codes, hcodes, h⟩ := Except.bind_eq_ok.mp h
  obtain ⟨items, hitems, h⟩ := Except.bind_eq_ok.mp h
  obtain ⟨data, hdata, hfields⟩ := Except.mem_mapM h hf
  exact ⟨pubKey, codes, items, data, hkey, hcodes, hitems, hdata, hfields⟩

/-- A neighbor row is built of an entry of `neighbors`. -/
theorem mem_neighborList {payload : Value} {d : String} {ns : List Fields}
    (h : neighborList payload d = .ok ns) {n : Fields} (hn : n ∈ ns) :
    ∃ neighbors items data, payload.get "neighbors" = .ok neighbors ∧
      (orNULL neighbors).iter = .ok items ∧ data ∈ items ∧ neighborFields d data = .ok n := by
  obtain ⟨neighbors, hneighbors, h⟩ := Except.bind_eq_ok.mp h
  obtain ⟨items, hitems, h⟩ := Except.bind_eq_ok.mp h
  obtain ⟨data, hdata, hfields⟩ := Except.mem_mapM h hn
  exact ⟨neighbors, items, data, hneighbors, hitems, hdata, hfields⟩

/-- Every interface row carries the new identifier. -/
theorem infoList_deviceId {payload relay : Value} {d : String} {fs : List Fields}
    (h : infoList payload relay d = .ok fs) {f : Fields} (hf : f ∈ fs) :
    Dict.get f "deviceId" = some (.str d) := by
  obtain ⟨_, _, _, _, _, _, _, _, hfields⟩ := mem_infoList h hf
  obtain ⟨_, _, _, _, _, _, _, _, rfl⟩ := deviceFields_eq_ok hfields
  rfl

/-- Every neighbor row carries the new identifier. -/
theorem neighborList_deviceId {payload : Value} {d : String} {ns : List Fields}
    (h : neighborList payload d = .ok ns) {n : Fields} (hn : n ∈ ns) :
    Dict.get n "deviceId" = some (.str d) := by
  obtain ⟨_, _, _, _, _, _, hfields⟩ := mem_neighborList h hn
  obtain ⟨_, _, _, _, _, _, _, _, rfl⟩ := neighborFields_eq_ok hfields
  rfl

/-- The columns of an interface row are those of `Device`. -/
theorem infoList_columns {payload relay : Value} {d : String} {fs : List Fields}
    (h : infoList payload relay d = .ok fs) {f : Fields} (hf : f ∈ fs) :
    ∀ c ∈ f, c.1 ∈ Table.columns .Device := by
  obtain ⟨_, _, _, _, _, _, _, _, hfields⟩ := mem_infoList h hf
  obtain ⟨_, _, _, _, _, _, _, _, rfl⟩ := deviceFields_eq_ok hfields
  simp [Table.columns]

/-- The columns of a neighbor row are those of `Neighbor`. -/
theorem neighborList_columns {payload : Value} {d : String} {ns : List Fields}
    (h : neighborList payload d = .ok ns) {n : Fields} (hn : n ∈ ns) :
    ∀ c ∈ n, c.1 ∈ Table.columns .Neighbor := by
  obtain ⟨_, _, _, _, _, _, hfields⟩ := mem_neighborList h hn
  obtain ⟨_, _, _, _, _, _, _, _, rfl⟩ := neighborFields_eq_ok hfields
  simp [Table.columns]

/-! ## What the keys of the schema refuse -/

/-- A row whose identifier is taken is refused. -/
theorem insertRow_device_taken {f : Fields} {d : String} {db : Database} (hwhole : Whole f)
    (hd : Plain d) (hf : Dict.get f "deviceId" = some (.str d))
    (hst : deviceStored srv db d = true) : (insertRow srv .Device f db).1 ≠ .ok () := by
  intro hr
  obtain ⟨db', h⟩ := Proc.returns_iff.mp hr
  obtain ⟨row, htuple, hadm, _⟩ := insertRow_ok hwhole h
  obtain ⟨cells, hcells, hread⟩ := tupleOf_eq_ok.mp htuple
  have hid := readCells_str hcells hread hf hd
  obtain ⟨e, he, hcell⟩ := Server.finds_eq_true.mp hst
  have hdup : (db.rows .Device).any
      (srv.agree .Device (Table.primaryKey .Device) · row) = true :=
    List.any_eq_true.mpr ⟨e, he, by simp [Server.agree, Table.primaryKey, hid, hcell]⟩
  rw [(Server.admits_ok hadm).1] at hdup
  exact absurd hdup (by simp)

/-- A neighbor of a device that is not stored is refused. -/
theorem insertRow_neighbor_orphan {n : Fields} {d : String} {db : Database} (hwhole : Whole n)
    (hd : Plain d) (hn : Dict.get n "deviceId" = some (.str d))
    (hst : deviceStored srv db d = false) : (insertRow srv .Neighbor n db).1 ≠ .ok () := by
  intro hr
  obtain ⟨db', h⟩ := Proc.returns_iff.mp hr
  obtain ⟨row, htuple, hadm, _⟩ := insertRow_ok hwhole h
  obtain ⟨cells, hcells, hread⟩ := tupleOf_eq_ok.mp htuple
  have hid := readCells_str hcells hread hn hd
  obtain ⟨e, he, hagree⟩ := List.any_eq_true.mp ((Server.admits_ok hadm).2 rfl)
  have hcell : srv.hasCell .Device e "deviceId" d = true := by
    simpa [Server.agree, hid] using hagree
  rw [deviceStored, Server.finds_eq_true.mpr ⟨e, he, hcell⟩] at hst
  exact absurd hst (by simp)

/-- A row that went in is stored under its identifier. -/
theorem insertRow_device_stored {f : Fields} {d : String} {db db' : Database} (hwhole : Whole f)
    (hd : Plain d) (hf : Dict.get f "deviceId" = some (.str d))
    (h : insertRow srv .Device f db = (.ok (), db')) : deviceStored srv db' d = true := by
  obtain ⟨row, htuple, _, rfl⟩ := insertRow_ok hwhole h
  obtain ⟨cells, hcells, hread⟩ := tupleOf_eq_ok.mp htuple
  refine Server.finds_eq_true.mpr ⟨row, ?_, ?_⟩
  · simp [Database.rows, rowsOf_append, mem_rowsOf]
  · rw [Server.hasCell, Tuple.cell, readCells_str hcells hread hf hd]
    exact srv.same_refl d

/-- **Two interfaces are one too many**: the second row has the identifier of the first. -/
theorem insertRows_device_two (srv : Server) {f f' : Fields} (fs : List Fields) (db : Database)
    {d : String} (hd : Plain d) (hwhole : Whole f) (hwhole' : Whole f')
    (hf : Dict.get f "deviceId" = some (.str d)) (hf' : Dict.get f' "deviceId" = some (.str d)) :
    ∃ e, (insertRows srv .Device (f :: f' :: fs) db).1 = .error e := by
  rw [insertRows_cons]
  rcases h : insertRow srv .Device f db with ⟨r, db1⟩
  cases r with
  | error e => exact ⟨e, rfl⟩
  | ok _ =>
    have htaken := insertRow_device_taken hwhole' hd hf' (insertRow_device_stored hwhole hd hf h)
    exact (insertRows_not_first fs htaken).1

end Versatile.FlexIDMngerDb
