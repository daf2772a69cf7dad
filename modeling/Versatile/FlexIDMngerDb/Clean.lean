import Versatile.FlexIDMngerDb.Atomic
import Versatile.FlexIDMngerDb.FirstFree
import Versatile.FlexIDMngerDb.Registered

/-!
# Are requests of `flexIDMnger_db.py` all-or-nothing?

A request that is answered with an error should leave no row behind, now or later. Whether one does
is read off the request, the tables and the server: which identifiers are free, which keys are
taken, which columns there are, and which statements are refused (`allOrNothing_iff`).
-/

namespace Versatile.FlexIDMngerDb

open Py

variable {srv : Server} {limit : Nat}

/-! ## The conditions -/

/-- The primary keys of some rows are new to a table, and told apart. -/
structure NewKeys (srv : Server) (t : Table) (db : Database) (rows : List Tuple) : Prop where
  fresh : ∀ r ∈ rows, ∀ e ∈ db.rows t, srv.agree t t.primaryKey e r = false
  apart : rows.Pairwise fun r r' => srv.agree t t.primaryKey r r' = false

/-- What keeps the rows of a join clean, the first of them being inserted by the `n`-th statement:
unless the server refuses the first interface, there is no second one, every neighbor has a row
that is not refused, and their keys are new and told apart. -/
def RowsClean (srv : Server) (kvs : List (String × Value)) (d : String) (n : Nat) (db : Database) :
    Prop :=
  ∀ f fs row, infoList (.dict kvs) (field kvs "relay") d = .ok (f :: fs) → tupleOf f = .ok row →
    Unrefused srv .Device n [f] →
    fs = [] ∧ ∃ ns rows, neighborList (.dict kvs) d = .ok ns ∧ tuplesOf ns = .ok rows ∧
      Unrefused srv .Neighbor (n + 1) ns ∧ NewKeys srv .Neighbor db rows

/-- What keeps a join clean: its rows are, under the first free candidate of its device. -/
def JoinClean (srv : Server) (limit : Nat) (tempID : String) (kvs : List (String × Value))
    (s : Store) : Prop :=
  ∀ base k, deviceOf tempID (field kvs "relay") = .ok (.str base) →
    Reaches srv base 0 limit s k →
    RowsClean srv kvs (candidate base 0 k) (askedAt base 0 s k + 1) s.db

/-- What keeps a registration clean: where the row of its first item fits and is not refused, the
rows of all items do, and are not. -/
def RegisterClean (srv : Server) (limit : Nat) (tempID : String) (kvs : List (String × Value))
    (s : Store) : Prop :=
  ∀ d items e entries n row, LetIn srv tempID (field kvs "relay") s d →
    (field kvs "registerList").iter = .ok items →
    Rounds srv limit s.db d (s.db.executed + if s.deviceID_cache.has d then 0 else 1) items
      (e :: entries) n →
    tupleOf e.2 = .ok row → Unrefused srv .RegisterList n [e.2] →
    Fits srv .RegisterList s.db [row] →
    ∃ rows, tuplesOf ((e :: entries).map Prod.snd) = .ok rows ∧
      Unrefused srv .RegisterList n ((e :: entries).map Prod.snd) ∧
      Fits srv .RegisterList s.db rows

/-- What keeps a request clean. The other three operations insert nothing. -/
def Clean (srv : Server) (limit : Nat) (m : Manager) (r : Request) : Prop :=
  ∀ kvs, r.payload = .dict kvs → match r.op with
    | .join => JoinClean srv limit r.tempID kvs m.store
    | .register => RegisterClean srv limit r.tempID kvs m.store
    | _ => True

/-! ## Rows that fit -/

theorem newKeys_congr {t : Table} {db db' : Database} {rows : List Tuple}
    (hrows : db'.rows t = db.rows t) : NewKeys srv t db' rows ↔ NewKeys srv t db rows := by
  refine ⟨?_, ?_⟩
  · intro h
    exact ⟨by rw [← hrows]; exact h.fresh, h.apart⟩
  · intro h
    exact ⟨by rw [hrows]; exact h.fresh, h.apart⟩

/-- **The rows of the neighbors of a stored device fit** exactly if their keys are new. -/
theorem fits_neighbors {db : Database} {payload : Value} {d : String} {ns : List Fields}
    {rows : List Tuple} (hns : neighborList payload d = .ok ns) (hrows : tuplesOf ns = .ok rows)
    (hd : Plain d) (hdev : deviceStored srv db d = true) :
    Fits srv .Neighbor db rows ↔ NewKeys srv .Neighbor db rows := by
  refine ⟨fun h => ⟨h.fresh, h.apart⟩, ?_⟩
  intro h
  refine ⟨tuplesOf_columns hrows fun f hf => neighborList_columns hns hf, h.fresh, h.apart,
    fun _ r hr => ?_⟩
  obtain ⟨e, he, hcell⟩ := Server.finds_eq_true.mp hdev
  have hget := tuplesOf_str hrows (fun f hf => neighborList_deviceId hns hf) hd hr
  exact ⟨e, he, (agree_hasCell hget).trans hcell⟩

/-! ## Joins -/

section Rows

variable {kvs : List (String × Value)} {d : String} {s : Store}

/-- Once the interface of a device is stored, its neighbors are taken exactly if none is refused
and their keys are new. -/
theorem neighbors_taken_iff {f : Fields} {db db1 : Database} {fs ns : List Fields} (hd : Plain d)
    (hwhole : WholeJoin kvs d)
    (hinfo : infoList (.dict kvs) (field kvs "relay") d = .ok (f :: fs))
    (hf : insertRow srv .Device f db = (.ok (), db1)) (hns : neighborList (.dict kvs) d = .ok ns) :
    (insertRows srv .Neighbor ns db1.commit).1 = .ok () ↔
      ∃ rows, tuplesOf ns = .ok rows ∧ Unrefused srv .Neighbor (db.executed + 1) ns ∧
        NewKeys srv .Neighbor db rows := by
  have hwf := hwhole.devices _ hinfo f List.mem_cons_self
  have hid := infoList_deviceId hinfo List.mem_cons_self
  have hdev : deviceStored srv db1.commit d = true := by
    have hst := insertRow_device_stored hwf hd hid hf
    rwa [deviceStored, Server.finds, Database.commit_rows]
  obtain ⟨row, _, _, rfl⟩ := insertRow_ok hwf hf
  have hsame : ((db.tick.store .Device row).commit).rows .Neighbor = db.rows .Neighbor := by
    rw [Database.commit_rows]
    simp [Database.rows, rowsOf]
  have htaken := @insertRows_whole srv .Neighbor ns (db.tick.store .Device row).commit
    (hwhole.neighbors ns hns)
  rw [Proc.returns_iff, htaken]
  refine exists_congr fun rows => and_congr_right fun hrows => and_congr_right fun _ => ?_
  rw [fits_neighbors hns hrows hd hdev, newKeys_congr hsame]

/-- **The rows of a join are all taken, or none**, exactly if they are clean. -/
theorem rowsTaken_iff (hd : Plain d) (hwhole : WholeJoin kvs d)
    (hst : deviceStored srv s.db d = false) :
    RowsTaken srv kvs d s ↔ RowsClean srv kvs d s.db.executed s.db := by
  refine ⟨?_, ?_⟩
  · intro htaken f fs row hinfo hrow hnone
    have hwf := hwhole.devices _ hinfo f List.mem_cons_self
    obtain ⟨db1, hf⟩ := (insertRow_iff_fits hwf).mpr
      ⟨row, hrow, hnone, fits_first hd hst hinfo hrow⟩
    obtain ⟨hnil, ns, hns, hok⟩ := htaken f fs db1 hinfo hf
    obtain ⟨rows, hrows⟩ := (neighbors_taken_iff hd hwhole hinfo hf hns).mp hok
    exact ⟨hnil, ns, rows, hns, hrows⟩
  · intro hclean f fs db1 hinfo hf
    have hwf := hwhole.devices _ hinfo f List.mem_cons_self
    obtain ⟨row, hrow, hnone, _⟩ := (insertRow_iff_fits hwf).mp ⟨db1, hf⟩
    obtain ⟨hnil, ns, rows, hns, hrows⟩ := hclean f fs row hinfo hrow hnone
    exact ⟨hnil, ns, hns, (neighbors_taken_iff hd hwhole hinfo hf hns).mpr ⟨rows, hrows⟩⟩

end Rows

/-- The conditions on the rows of a join look at the rows alone. -/
theorem rowsClean_congr {kvs : List (String × Value)} {d : String} {n : Nat} {db db' : Database}
    (hlog : db'.log = db.log) : RowsClean srv kvs d n db' ↔ RowsClean srv kvs d n db := by
  have hrows : db'.rows .Neighbor = db.rows .Neighbor := by
    rw [Database.rows, Database.rows, hlog]
  unfold RowsClean
  simp only [newKeys_congr hrows]

/-- **A join has its rows all taken, or none**, exactly if it is clean. -/
theorem joinTaken_iff {tempID : String} {kvs : List (String × Value)} {s : Store}
    (hquoted : WellQuoted ⟨.join, tempID, .dict kvs⟩) :
    JoinTaken srv limit tempID kvs s ↔ JoinClean srv limit tempID kvs s := by
  -- the rows under the identifier that is generated, in the state it is generated in
  have hrows : ∀ {base k s1}, deviceOf tempID (field kvs "relay") = .ok (.str base) →
      Reaches srv base 0 limit s k →
      join_genID srv limit base 0 s = (.ok (candidate base 0 k), s1) →
      (RowsTaken srv kvs (candidate base 0 k) s1 ↔
        RowsClean srv kvs (candidate base 0 k) (askedAt base 0 s k + 1) s.db) := by
    intro base k s1 hbase hreaches hgen
    obtain ⟨hplain, hwhole⟩ := hquoted kvs base rfl hbase
    have hmarks := generated_marks hplain hreaches hgen
    obtain ⟨hd, hst, _, hlog, _⟩ := join_genID_plain hplain hgen
    rw [rowsTaken_iff hd (hwhole _) ((deviceStored_congr hlog _).trans hst),
      rowsClean_congr hlog, hmarks.executed]
  refine ⟨?_, ?_⟩
  · intro htaken base k hbase hreaches
    have hgen := (generates_iff (hquoted kvs base rfl hbase).1).mpr ⟨k, hreaches, rfl⟩
    rcases hres : join_genID srv limit base 0 s with ⟨r, s1⟩
    rw [hres] at hgen
    obtain rfl : r = .ok (candidate base 0 k) := hgen
    exact (hrows hbase hreaches hres).mp (htaken base _ s1 hbase hres)
  · intro hclean base d s1 hbase hgen
    obtain ⟨k, hreaches, rfl⟩ :=
      (generates_iff (hquoted kvs base rfl hbase).1).mp (congrArg Prod.fst hgen)
    exact (hrows hbase hreaches hgen).mpr (hclean base k hbase hreaches)

/-! ## Registrations -/

/-- The entries of a registration have no broken literal. -/
theorem builds_whole {kvs : List (String × Value)} {d : String} {items : List Value}
    {entries : List (Value × Fields)} (hwhole : WholeRegister kvs d)
    (hiter : (field kvs "registerList").iter = .ok items)
    (h : List.Forall₂ (Builds d) items entries) : ∀ f ∈ entries.map Prod.snd, Whole f := by
  have hitems := hwhole items hiter
  clear hiter hwhole
  induction h with
  | nil => simp
  | cons hb _ ih =>
    obtain ⟨hraw, hraws⟩ := List.forall_mem_cons.mp hitems
    refine List.forall_mem_cons.mpr ⟨?_, ih hraws⟩
    cases hb with
    | item k hreads => exact hraw _ _ _ hreads.read hreads.hash

/-- The device that speaks is one the request is let in for. -/
theorem speaker_letIn_iff {tempID d : String} {relay : Value} {s : Store} :
    (∃ s', speaker srv tempID relay s = (.ok d, s')) ↔ LetIn srv tempID relay s d := by
  obtain ⟨s', _, ⟨d', hin, _, h⟩ | ⟨hout, e, h⟩⟩ := speaker_cases srv tempID relay s
  · refine ⟨?_, ?_⟩
    · intro hsome
      obtain ⟨s'', h'⟩ := hsome
      obtain rfl : d' = d := by simpa using congrArg Prod.fst (h.symm.trans h')
      exact hin
    · intro hin'
      obtain rfl : d' = d := by simpa using hin.1.symm.trans hin'.1
      exact ⟨s', h⟩
  · refine ⟨?_, fun hin => absurd hin (hout d)⟩
    intro hsome
    obtain ⟨s'', h'⟩ := hsome
    exact absurd (congrArg Prod.fst (h.symm.trans h')) (by simp)

/-- **A registration has its rows all taken, or none**, exactly if it is clean. -/
theorem registerTaken_iff {tempID : String} {kvs : List (String × Value)} {s : Store}
    (hquoted : WellQuoted ⟨.register, tempID, .dict kvs⟩) :
    RegisterTaken srv limit tempID kvs s ↔ RegisterClean srv limit tempID kvs s := by
  refine ⟨?_, ?_⟩
  · intro htaken d items e entries n row hin hiter hrounds hrow hnone hfits
    obtain ⟨s1, hspk⟩ := speaker_letIn_iff.mpr hin
    have hlog := speaker_log hspk
    rw [← speaker_executed hspk] at hrounds
    have hentries := registerEntries_iff.mpr ⟨d, s1, items, n, hspk, hiter, hrounds, rfl⟩
    have hfitsAt : ∀ rows, Fits srv .RegisterList { s1.db with executed := n } rows ↔
        Fits srv .RegisterList s.db rows := fun rows => fits_congr hlog
    have hwhole := builds_whole (hquoted kvs d rfl hin.1) hiter hrounds.builds
    obtain ⟨hwe, _⟩ := List.forall_mem_cons.mp hwhole
    have hfirst : ∃ db', insertRow srv .RegisterList e.2 { s1.db with executed := n } =
        (.ok (), db') := (insertRow_iff_fits hwe).mpr ⟨row, hrow, hnone, (hfitsAt _).mpr hfits⟩
    have hok := htaken _ _ e.2 (entries.map Prod.snd) hentries rfl (Proc.returns_iff.mpr hfirst)
    obtain ⟨rows, hrows, hnone', hfits'⟩ :=
      (insertRows_whole hwhole).mp (Proc.returns_iff.mp hok)
    exact ⟨rows, hrows, hnone', (hfitsAt rows).mp hfits'⟩
  · intro hclean entries s' f fs hentries hfs hok
    obtain ⟨d, s1, items, n, hspk, hiter, hrounds, rfl⟩ := registerEntries_iff.mp hentries
    have hlog := speaker_log hspk
    have hin := speaker_letIn_iff.mp ⟨s1, hspk⟩
    have hfitsAt : ∀ rows, Fits srv .RegisterList { s1.db with executed := n } rows ↔
        Fits srv .RegisterList s.db rows := fun rows => fits_congr hlog
    cases entries with
    | nil => exact absurd hfs (by simp)
    | cons e entries =>
      obtain ⟨rfl, rfl⟩ := List.cons.inj hfs
      have hwhole := builds_whole (hquoted kvs d rfl hin.1) hiter hrounds.builds
      obtain ⟨hwe, _⟩ := List.forall_mem_cons.mp hwhole
      obtain ⟨row, hrow, hnone, hfits⟩ := (insertRow_iff_fits hwe).mp (Proc.returns_iff.mp hok)
      rw [speaker_executed hspk] at hrounds
      obtain ⟨rows, hrows, hnone', hfits'⟩ := hclean d items e entries n row hin hiter hrounds hrow
        hnone ((hfitsAt _).mp hfits)
      exact Proc.returns_iff.mpr ((insertRows_whole hwhole).mpr
        ⟨rows, hrows, hnone', (hfitsAt rows).mpr hfits'⟩)

/-! ## All requests -/

theorem clean_dict (m : Manager) (op : Op) (tempID : String) (kvs : List (String × Value)) :
    Clean srv limit m ⟨op, tempID, .dict kvs⟩ ↔ match op with
      | .join => JoinClean srv limit tempID kvs m.store
      | .register => RegisterClean srv limit tempID kvs m.store
      | _ => True := by
  refine ⟨?_, ?_⟩
  · intro h; exact h kvs rfl
  · intro h kvs' heq
    obtain rfl : kvs = kvs' := by simpa using heq
    exact h

/--
**Requests are all-or-nothing exactly when they are clean.**

From any state, a request that is answered with an error never gets a row committed, now or by any
later requests, if and only if its first row does not fit or is refused, or all its rows fit and
none is.
-/
theorem allOrNothing_iff (m : Manager) (r : Request) (hquoted : WellQuoted r) :
    AllOrNothing srv limit m r ↔ Clean srv limit m r := by
  obtain ⟨op, tempID, payload⟩ := r
  by_cases hdict : payload.IsDict
  · obtain ⟨kvs, rfl⟩ := hdict
    rw [clean_dict]
    cases op with
    | join => exact (join_allOrNothing tempID kvs m hquoted).trans (joinTaken_iff hquoted)
    | register => exact (register_allOrNothing tempID kvs m).trans (registerTaken_iff hquoted)
    | leave =>
      exact iff_of_true (allOrNothing_of_writes_nothing fun t => by cases t <;> rfl) trivial
    | update =>
      exact iff_of_true (allOrNothing_of_writes_nothing fun t => by cases t <;> rfl) trivial
    | query =>
      exact iff_of_true (allOrNothing_of_writes_nothing fun t => by cases t <;> rfl) trivial
  · refine iff_of_true (allOrNothing_of_not_dict hdict) ?_
    intro kvs heq
    exact absurd ⟨kvs, heq⟩ hdict

/-- The fields of a join of no interface, with one neighbor. -/
def withoutInterfaces : List (String × Value) :=
  [("relay", .str "none"), ("uniqueCodes", .list []),
    ("neighbors", .list [.dict [("neighborFlexID", .str "n")]])]

/-- A join without interfaces fails, as its neighbor refers to no device, and leaves nothing. -/
theorem allOrNothing_withoutInterfaces :
    Fails Server.exact 10 (start [] 0) ⟨.join, "t", .dict withoutInterfaces⟩ ∧
      AllOrNothing Server.exact 10 (start [] 0) ⟨.join, "t", .dict withoutInterfaces⟩ := by
  have hplain : PlainJoin withoutInterfaces := by decide
  refine ⟨⟨_, List.mem_singleton.mpr rfl, Or.inr rfl⟩,
    (allOrNothing_iff _ _ (hplain.wellQuoted (by decide))).mpr ?_⟩
  intro kvs hkvs base k _ _ f fs row hinfo
  obtain rfl := Value.dict.inj hkvs
  exact absurd (Except.ok.inj hinfo) (by simp)

/-- A join of one interface, and of a neighbor that does not say who it is. -/
def joinNamelessNeighbor : Request :=
  ⟨.join, "t", .dict [("relay", .str "none"), ("pubKey", .str "k"),
    ("uniqueCodes", .list [.dict [("ifaceType", .str "wifi"), ("hwAddress", .str "h")]]),
    ("neighbors", .list [.dict []])]⟩

/-- **A failed join leaves its device behind**: the two insertions of `join` each commit, and
the second part fails after the first was committed. -/
theorem not_allOrNothing_join :
    ¬ AllOrNothing Server.exact 10 (run Server.exact 10 (start [] 0) []) joinNamelessNeighbor := by
  intro h
  have hack : acks Server.exact 10 (start [] 0) joinNamelessNeighbor =
      [failureOf .join "t" [("relay", .str "none")]] := rfl
  refine h ⟨_, by rw [run_nil, hack]; exact List.mem_singleton_self _, Or.inr rfl⟩ [] 0
    (by decide) (by decide) ?_
  show 0 < _
  decide

end Versatile.FlexIDMngerDb
