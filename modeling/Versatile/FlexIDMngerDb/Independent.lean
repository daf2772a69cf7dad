import Versatile.FlexIDMngerDb.Joined
import Versatile.FlexIDMngerDb.Plain

/-!
# Are the joins of different devices independent in `flexIDMnger_db.py`?

Two joins meet in three places: the cache, where the first leaves its identifier and the stored
candidates it passed, the devices, and the neighbors, whose table has the neighbor alone for its
primary key. Two joins that the same state would take one by one are taken one after the other,
in either order and with the same identifiers, exactly when the identifiers are apart and no
neighbor is named by both.
-/

namespace Versatile.FlexIDMngerDb

open Py

variable {srv : Server} {limit : Nat}

/-! ## What a join leaves -/

/-- The globals after a join that stored these rows. -/
structure JoinLeft (srv : Server) (kvs : List (String × Value)) (s : Store) (d : String)
    (devices neighbors : List Tuple) (s' : Store) : Prop where
  all : s'.db.log.all =
    s.db.log.all ++ (devices.map (Table.Device, ·) ++ neighbors.map (Table.Neighbor, ·))
  cached : s'.deviceID_cache.has d = true
  grows : ∀ x, s.deviceID_cache.has x = true → s'.deviceID_cache.has x = true
  only : ∀ x, s'.deviceID_cache.has x = true →
    x = d ∨ s.deviceID_cache.has x = true ∨ deviceStored srv s.db x = true
  ids : ∀ r ∈ devices, Dict.get r "deviceId" = some d
  names : ∀ x, NamesNeighbor kvs x ↔ ∃ r ∈ neighbors, Dict.get r "neighborId" = some x
  named : ∀ r ∈ neighbors, ∃ x, Dict.get r "neighborId" = some x

theorem JoinRun.left {tempID d base : String} {kvs : List (String × Value)} {s s1 : Store}
    {fs ns : List Fields} {db1 db2 : Database} (hbase : Plain base) (hwhole : WholeJoin kvs d)
    (h : JoinRun srv limit tempID kvs s d base s1 fs ns db1 db2) :
    ∃ devices neighbors, tuplesOf fs = .ok devices ∧ tuplesOf ns = .ok neighbors ∧
      JoinLeft srv kvs s d devices neighbors ⟨s1.deviceID_cache, db2.commit⟩ := by
  obtain ⟨devices, hdevices, happ1, _⟩ := insertRows_ok (hwhole.devices fs h.devices) h.stored
  obtain ⟨neighbors, hneighbors, happ2, _⟩ :=
    insertRows_ok (hwhole.neighbors ns h.neighbors) h.linked
  obtain ⟨hd, _, hcached, hlog, honly⟩ := join_genID_plain hbase h.generated
  refine ⟨devices, neighbors, hdevices, hneighbors, ?_, hcached, ?_, honly, ?_, ?_, ?_⟩
  · rw [Database.commit_log, TxLog.all_commit, happ2.all, Database.commit_log, TxLog.all_commit,
      happ1.all, hlog, List.append_assoc]
  · intro x hx
    obtain ⟨s0, hmark, hends⟩ := join_genID_ends srv base limit 0 s
    rw [h.generated] at hends
    obtain ⟨_, _, _, rfl⟩ := hends
    rw [Dict.has_set, hmark.grows x hx, Bool.or_true]
  · exact fun r hr => tuplesOf_str hdevices (fun f hf => infoList_deviceId h.devices hf) hd hr
  · exact namesNeighbor_iff h.neighbors hneighbors
  · exact fun r hr => neighborRows_named h.neighbors hneighbors hr

/-- The rows of a table after a join. -/
theorem JoinLeft.mem_rows {kvs : List (String × Value)} {s s' : Store} {d : String}
    {devices neighbors : List Tuple} (h : JoinLeft srv kvs s d devices neighbors s') {t : Table}
    {e : Tuple} : e ∈ s'.db.rows t ↔ e ∈ s.db.rows t ∨ (t = .Device ∧ e ∈ devices) ∨
      (t = .Neighbor ∧ e ∈ neighbors) := by
  rw [Database.rows, Database.rows, h.all, mem_rowsOf, mem_rowsOf, List.mem_append,
    List.mem_append, List.mem_map, List.mem_map]
  refine ⟨?_, ?_⟩
  · intro hcase
    rcases hcase with he | ⟨r, hr, heq⟩ | ⟨r, hr, heq⟩
    · exact Or.inl he
    · obtain ⟨rfl, rfl⟩ := Prod.mk.inj heq
      exact Or.inr (Or.inl ⟨rfl, hr⟩)
    · obtain ⟨rfl, rfl⟩ := Prod.mk.inj heq
      exact Or.inr (Or.inr ⟨rfl, hr⟩)
  · intro hcase
    rcases hcase with he | ⟨rfl, he⟩ | ⟨rfl, he⟩
    · exact Or.inl he
    · exact Or.inr (Or.inl ⟨e, he, rfl⟩)
    · exact Or.inr (Or.inr ⟨e, he, rfl⟩)

/-- A device that was not stored is stored after a join only if it is taken for the joined one. -/
theorem JoinLeft.deviceStored_iff {kvs : List (String × Value)} {s s' : Store} {d : String}
    {devices neighbors : List Tuple} (h : JoinLeft srv kvs s d devices neighbors s') (x : String) :
    deviceStored srv s'.db x = true ↔
      deviceStored srv s.db x = true ∨ (devices ≠ [] ∧ srv.same d x = true) := by
  have hcell : ∀ r ∈ devices, srv.hasCell .Device r "deviceId" x = srv.same d x := by
    intro r hr
    rw [Server.hasCell, Tuple.cell, h.ids r hr]
  rw [deviceStored, deviceStored, Server.finds_eq_true, Server.finds_eq_true]
  refine ⟨?_, ?_⟩
  · intro hst
    obtain ⟨r, hr, hhas⟩ := hst
    rcases h.mem_rows.mp hr with hr | ⟨_, hr⟩ | ⟨ht, _⟩
    · exact Or.inl ⟨r, hr, hhas⟩
    · rw [hcell r hr] at hhas
      exact Or.inr ⟨List.ne_nil_of_mem hr, hhas⟩
    · exact absurd ht (by decide)
  · intro hcase
    rcases hcase with ⟨r, hr, hhas⟩ | ⟨hne, hsame⟩
    · exact ⟨r, h.mem_rows.mpr (Or.inl hr), hhas⟩
    · obtain ⟨r, hr⟩ := List.exists_mem_of_ne_nil devices hne
      exact ⟨r, h.mem_rows.mpr (Or.inr (Or.inl ⟨rfl, hr⟩)), by rw [hcell r hr, hsame]⟩

/-! ## The identifier -/

/-- The first candidate of a base that is neither cached nor stored. -/
def FirstFree (srv : Server) (s : Store) (base d : String) : Prop :=
  ∃ k, d = candidate base 0 k ∧
    Search.Free (cachedCandidate base 0 s) (storedCandidate srv base 0 s) k ∧
    ∀ j, j < k → ¬ Search.Free (cachedCandidate base 0 s) (storedCandidate srv base 0 s) j

theorem FirstFree.unique {s : Store} {base d d' : String} (h : FirstFree srv s base d)
    (h' : FirstFree srv s base d') : d = d' := by
  obtain ⟨k, rfl, hfree, hfirst⟩ := h
  obtain ⟨k', rfl, hfree', hfirst'⟩ := h'
  have hge : ¬ k < k' := fun hlt => hfirst' k hlt hfree
  have hle : ¬ k' < k := fun hlt => hfirst k' hlt hfree'
  obtain rfl : k = k' := by omega
  rfl

/-- **A join gets the first free candidate**, and what its search has learnt. -/
theorem join_genID_firstFree {base d : String} {s s1 : Store} (hbase : Plain base)
    (h : join_genID srv limit base 0 s = (.ok d, s1)) :
    ∃ k, d = candidate base 0 k ∧ Search.Settled (cachedCandidate base 0 s)
      (storedCandidate srv base 0 s) (joinFails srv base 0 limit s) 0 (.found k) := by
  obtain ⟨o, hrun, hret⟩ := @join_genID_search srv base 0 limit s
  have hsettled := hrun.settled (by simp [Search.probes])
  rw [h] at hret
  rw [foundCandidate_plain hbase] at hsettled
  cases o with
  | found k => exact ⟨k, Except.ok.inj hret, hsettled⟩
  | failed k =>
    obtain ⟨e, he⟩ := hret
    exact absurd he (by simp)

theorem firstFree_of_generated {base d : String} {s s1 : Store} (hbase : Plain base)
    (h : join_genID srv limit base 0 s = (.ok d, s1)) : FirstFree srv s base d := by
  obtain ⟨k, hd, hscan, hfree, _⟩ := join_genID_firstFree hbase h
  exact ⟨k, hd, hfree, fun j hj => hscan.free j (Nat.zero_le j) hj⟩

/-- **A second join gets the identifier it would have got alone**, if the first did not take
it: what the first left of cached and stored candidates was cached or stored before. -/
theorem join_genID_after (hsteady : Steady srv) {kvs : List (String × Value)}
    {s s' s1 : Store} {base d d' : String} {devices neighbors : List Tuple} (hbase : Plain base)
    (hleft : JoinLeft srv kvs s d' devices neighbors s')
    (h : join_genID srv limit base 0 s = (.ok d, s1)) (hne : d' ≠ d)
    (hapart : devices ≠ [] → srv.same d' d = false) :
    ∃ s1', join_genID srv limit base 0 s' = (.ok d, s1') := by
  obtain ⟨k, rfl, hsettled⟩ := join_genID_firstFree hbase h
  obtain ⟨o, hrun, hret⟩ := @join_genID_search srv base 0 limit s'
  have hsettled' := hrun.settled (by simp [Search.probes])
  rw [foundCandidate_plain hbase] at hsettled'
  have hstored : ∀ i, storedCandidate srv base 0 s i = true →
      storedCandidate srv base 0 s' i = true :=
    fun i hi => (hleft.deviceStored_iff _).mpr (Or.inl hi)
  have hfree : Search.Free (cachedCandidate base 0 s') (storedCandidate srv base 0 s') k := by
    obtain ⟨hcached, hnot⟩ := hsettled.2.1
    refine ⟨?_, ?_⟩
    · by_contra hc
      rcases hleft.only _ (Bool.eq_true_of_not_eq_false hc) with heq | hold | hst
      · exact hne heq.symm
      · rw [cachedCandidate, hold] at hcached; exact absurd hcached (by simp)
      · rw [storedCandidate, hst] at hnot; exact absurd hnot (by simp)
    · by_contra hc
      have hstored := Bool.eq_true_of_not_eq_false hc
      rcases (hleft.deviceStored_iff _).mp hstored with hst | ⟨hdev, hsame⟩
      · rw [storedCandidate, hst] at hnot; exact absurd hnot (by simp)
      · rw [hapart hdev] at hsame; exact absurd hsame (by simp)
  have hfound : o = .found k := by
    refine hsettled.found_again hsettled' (fun i => hleft.grows _) hstored hfree ?_
    intro u u' i hle hcase
    rcases hcase with hdeep | ⟨code, hcode⟩
    · exact Or.inl (by omega)
    · exact Or.inr ⟨code, (hsteady _ _ _).trans hcode⟩
  subst hfound
  rcases hgen : join_genID srv limit base 0 s' with ⟨r, s1'⟩
  rw [hgen] at hret
  exact ⟨s1', by rw [show r = _ from hret]⟩

/-! ## Two joins -/

/-- The payload lists an interface. -/
def HasInterface (kvs : List (String × Value)) : Prop :=
  (field kvs "uniqueCodes").truthy = true

/-- A join builds a device row exactly if its payload lists an interface. -/
theorem hasInterface_fields {kvs : List (String × Value)} {relay : Value} {d : String}
    {fs : List Fields} (hfs : infoList (.dict kvs) relay d = .ok fs) :
    HasInterface kvs ↔ fs ≠ [] := by
  obtain ⟨pubKey, _, hfs⟩ := Except.bind_eq_ok.mp hfs
  obtain ⟨codes, hcodes, hfs⟩ := Except.bind_eq_ok.mp hfs
  obtain rfl : field kvs "uniqueCodes" = codes := Except.ok.inj hcodes
  obtain ⟨items, hitems, hfs⟩ := Except.bind_eq_ok.mp hfs
  have htruthy : (field kvs "uniqueCodes").truthy = true ↔ items ≠ [] := by
    cases hv : field kvs "uniqueCodes" with
    | list xs =>
      rw [hv] at hitems
      obtain rfl := Except.ok.inj hitems
      simp [Value.truthy]
    | str t =>
      rw [hv] at hitems
      obtain rfl := Except.ok.inj hitems
      simp [Value.truthy]
    | dict entries =>
      rw [hv] at hitems
      obtain rfl := Except.ok.inj hitems
      simp [Value.truthy]
    | _ => rw [hv] at hitems; exact absurd hitems (by simp [Value.iter])
  rw [HasInterface, htruthy, ← List.length_pos_iff, ← List.length_pos_iff, Except.length_mapM hfs]

/-- A join stores a device row exactly if its payload lists an interface. -/
theorem hasInterface_iff {kvs : List (String × Value)} {relay : Value} {d : String}
    {fs : List Fields} {devices : List Tuple} (hfs : infoList (.dict kvs) relay d = .ok fs)
    (hrows : tuplesOf fs = .ok devices) : HasInterface kvs ↔ devices ≠ [] := by
  rw [hasInterface_fields hfs, ← List.length_pos_iff, ← List.length_pos_iff,
    Except.length_mapM hrows]

/-- In front of its interfaces, the second join finds the devices of the first besides. -/
theorem JoinLeft.beyond_devices {kvs : List (String × Value)} {s s' : Store} {d : String}
    {devices neighbors : List Tuple} (h : JoinLeft srv kvs s d devices neighbors s')
    {db db' : Database} (hrows : ∀ t, db.rows t = s.db.rows t)
    (hrows' : ∀ t, db'.rows t = s'.db.rows t) : Beyond .Device devices db db' := by
  refine ⟨fun e he => ?_, fun e he => ?_⟩
  · rw [hrows'] at he
    rw [hrows]
    rcases h.mem_rows.mp he with he | ⟨_, he⟩ | ⟨ht, _⟩
    · exact Or.inl he
    · exact Or.inr he
    · exact absurd ht (by decide)
  · rw [hrows] at he
    rw [hrows']
    exact h.mem_rows.mpr (Or.inl he)

/-- Behind them it finds the neighbors of the first besides. -/
theorem JoinLeft.beyond_neighbors {kvs : List (String × Value)} {s s' : Store} {d : String}
    {devices neighbors rows : List Tuple} (h : JoinLeft srv kvs s d devices neighbors s')
    {db db' db1 db1' : Database} (hrows : ∀ t, db.rows t = s.db.rows t)
    (hrows' : ∀ t, db'.rows t = s'.db.rows t) (happ : Appended .Device rows db db1)
    (happ' : Appended .Device rows db' db1') :
    Beyond .Neighbor neighbors db1.commit db1'.commit := by
  refine ⟨fun e he => ?_, fun e he => ?_⟩
  · rw [Database.commit_rows, happ'.mem_rows, hrows'] at he
    rw [Database.commit_rows, happ.mem_rows, hrows]
    rcases he with he | ⟨ht, _⟩
    · rcases h.mem_rows.mp he with he | ⟨ht, _⟩ | ⟨_, he⟩
      · exact Or.inl (Or.inl he)
      · exact absurd ht (by decide)
      · exact Or.inr he
    · exact absurd ht (by decide)
  · rw [Database.commit_rows, happ.mem_rows, hrows] at he
    rw [Database.commit_rows, happ'.mem_rows, hrows']
    exact he.imp_left fun he => h.mem_rows.mpr (Or.inl he)

/-- **A second join runs as it would have run alone**, behind a join whose identifier and
neighbors are others. -/
theorem JoinRun.after (hsteady : Steady srv) {kvs1 kvs2 : List (String × Value)}
    {s s' s1 : Store} {tempID d1 d2 base : String} {devices1 neighbors1 : List Tuple}
    {fs ns : List Fields} {db1 db2 : Database} (hbase : Plain base) (hwhole : WholeJoin kvs2 d2)
    (hleft : JoinLeft srv kvs1 s d1 devices1 neighbors1 s')
    (h : JoinRun srv limit tempID kvs2 s d2 base s1 fs ns db1 db2) (hne : d1 ≠ d2)
    (hids : devices1 ≠ [] → srv.same d1 d2 = false)
    (hnames : ∀ x y, NamesNeighbor kvs1 x → NamesNeighbor kvs2 y → srv.same x y = false) :
    ∃ s1' db1' db2', JoinRun srv limit tempID kvs2 s' d2 base s1' fs ns db1' db2' := by
  obtain ⟨s1', hgen⟩ := join_genID_after hsteady hbase hleft h.generated hne hids
  obtain ⟨devices, neighbors, hdevices, hneighbors, hleft2⟩ := h.left hbase hwhole
  have hlog := (join_genID_ok h.generated).2.2.2.1
  have hlog' := (join_genID_ok hgen).2.2.2.1
  have hwd := hwhole.devices fs h.devices
  have hrows : ∀ t, s1.db.rows t = s.db.rows t := fun t => by
    rw [Database.rows, Database.rows, hlog]
  have hrows' : ∀ t, s1'.db.rows t = s'.db.rows t := fun t => by
    rw [Database.rows, Database.rows, hlog']
  -- the devices: the one of the first join has another identifier
  have hbeyond1 := hleft.beyond_devices hrows hrows'
  obtain ⟨db1', hstored, happ'⟩ := insertRows_beyond hsteady hwd h.stored hbeyond1 hdevices
    fun r hr e he => (agree_singleton (hleft.ids e he) (hleft2.ids r hr)).trans
      (hids (List.ne_nil_of_mem he))
  obtain ⟨rows, hdevices', happ, _⟩ := insertRows_ok hwd h.stored
  obtain rfl := Except.ok.inj (hdevices.symm.trans hdevices')
  -- the neighbors: those of the first join have other names
  have hbeyond2 := hleft.beyond_neighbors hrows hrows' happ happ'
  have hnew : ∀ r ∈ neighbors, ∀ e ∈ neighbors1,
      srv.agree .Neighbor (Table.primaryKey .Neighbor) e r = false := by
    intro r hr e he
    obtain ⟨x, hx⟩ := hleft.named e he
    obtain ⟨y, hy⟩ := hleft2.named r hr
    exact (agree_singleton hx hy).trans
      (hnames x y ((hleft.names x).mpr ⟨e, he, hx⟩) ((hleft2.names y).mpr ⟨r, hr, hy⟩))
  obtain ⟨db2', hlinked, _⟩ := insertRows_beyond hsteady
    (hwhole.neighbors ns h.neighbors) h.linked hbeyond2 hneighbors hnew
  exact ⟨s1', db1', db2', h.named, hgen, h.devices, hstored, h.neighbors, hlinked⟩

/-- **A second join that keeps its identifier** had another one than the first, and other
neighbors. -/
theorem JoinRun.apart {kvs1 kvs2 : List (String × Value)} {s s' s1 : Store}
    {tempID d1 d2 base : String} {devices1 neighbors1 : List Tuple} {fs ns : List Fields}
    {db1 db2 : Database} (hbase : Plain base) (hwhole : WholeJoin kvs2 d2)
    (hleft : JoinLeft srv kvs1 s d1 devices1 neighbors1 s')
    (h : JoinRun srv limit tempID kvs2 s' d2 base s1 fs ns db1 db2) :
    d1 ≠ d2 ∧ (devices1 ≠ [] → srv.same d1 d2 = false) ∧
      ∀ x y, NamesNeighbor kvs1 x → NamesNeighbor kvs2 y → srv.same x y = false := by
  obtain ⟨k, rfl, hfree, _⟩ := firstFree_of_generated hbase h.generated
  obtain ⟨_, hnot, _, hlog, _⟩ := join_genID_plain hbase h.generated
  obtain ⟨devices, neighbors, hdevices, hneighbors, hleft2⟩ := h.left hbase hwhole
  refine ⟨?_, fun hne => ?_, fun x y hx hy => ?_⟩
  · intro heq
    obtain rfl := heq
    have hcached : cachedCandidate base 0 s' k = true := hleft.cached
    rw [hfree.1] at hcached
    exact absurd hcached (by simp)
  · by_contra hsame
    have hst := (hleft.deviceStored_iff (candidate base 0 k)).mpr
      (Or.inr ⟨hne, Bool.eq_true_of_not_eq_false hsame⟩)
    rw [hnot] at hst
    exact absurd hst (by simp)
  · by_contra hsame
    obtain ⟨e, he, hex⟩ := (hleft.names x).mp hx
    obtain ⟨r, hr, hry⟩ := (hleft2.names y).mp hy
    -- the neighbor of the first join is still there when that of the second comes
    have hstill : e ∈ db1.commit.rows .Neighbor := by
      obtain ⟨rows, _, happ, _⟩ := insertRows_ok (hwhole.devices fs h.devices) h.stored
      rw [Database.commit_rows, happ.mem_rows, Database.rows, hlog]
      exact Or.inl (hleft.mem_rows.mpr (Or.inr (Or.inr ⟨rfl, he⟩)))
    have hlinked : (insertRows srv .Neighbor ns db1.commit).1 = .ok () := by rw [h.linked]
    refine insertRows_taken (hwhole.neighbors ns h.neighbors) hneighbors hr hstill ?_ hlinked
    exact (agree_singleton hex hry).trans (Bool.eq_true_of_not_eq_false hsame)

theorem same_false_symm {x y : String} (h : srv.same x y = false) : srv.same y x = false := by
  by_contra hsame
  rw [srv.same_symm y x (Bool.eq_true_of_not_eq_false hsame)] at h
  exact absurd h (by simp)

/-- The rows of two joins, in either order. -/
theorem rowsOf_two_joins {s a b ab ba : Store} {kvs1 kvs2 : List (String × Value)}
    {d1 d2 : String} {devices1 neighbors1 devices2 neighbors2 : List Tuple}
    (ha : JoinLeft srv kvs1 s d1 devices1 neighbors1 a)
    (hab : JoinLeft srv kvs2 a d2 devices2 neighbors2 ab)
    (hb : JoinLeft srv kvs2 s d2 devices2 neighbors2 b)
    (hba : JoinLeft srv kvs1 b d1 devices1 neighbors1 ba) (t : Table) :
    List.Perm (ab.db.rows t) (ba.db.rows t) := by
  have hswap : ∀ l x y : List (Table × Tuple), List.Perm (l ++ x ++ y) (l ++ y ++ x) := by
    intro l x y
    rw [List.append_assoc, List.append_assoc]
    exact List.perm_append_comm.append_left l
  rw [Database.rows, Database.rows, hab.all, hba.all, ha.all, hb.all]
  exact (hswap _ _ _).filterMap _

/-- **Two joins are independent**: behind the other, each is acknowledged with the identifier
it gets alone, and the tables are the same in either order. -/
structure Independent (srv : Server) (limit : Nat) (m : Manager) (r1 r2 : Request)
    (d1 d2 : String) : Prop where
  second : JoinedAs srv limit (step srv limit m r1) r2 d2
  first : JoinedAs srv limit (step srv limit m r2) r1 d1
  tables : ∀ t, List.Perm ((run srv limit m [r1, r2]).store.db.rows t)
    ((run srv limit m [r2, r1]).store.db.rows t)

/-- A join that is quoted well has a plain base, and its rows have no broken literal. -/
theorem JoinRun.quoted {tempID d base : String} {kvs : List (String × Value)} {s s1 : Store}
    {fs ns : List Fields} {db1 db2 : Database}
    (h : JoinRun srv limit tempID kvs s d base s1 fs ns db1 db2)
    (hquoted : WellQuoted ⟨.join, tempID, .dict kvs⟩) : Plain base ∧ WholeJoin kvs d := by
  obtain ⟨hbase, hwhole⟩ := hquoted kvs base rfl h.named
  obtain ⟨⟨flag, rfl⟩, _⟩ := join_genID_ok h.generated
  exact ⟨hbase, hwhole flag⟩

/-- What keeps two joins apart: their first free identifiers are different, and for the server
too if one of them is to be stored, and no neighbor of the one is for the server one of the
other. -/
structure Apart (srv : Server) (s : Store) (tempID1 : String) (kvs1 : List (String × Value))
    (tempID2 : String) (kvs2 : List (String × Value)) : Prop where
  ids : ∀ base1 base2 d1 d2, deviceOf tempID1 (field kvs1 "relay") = .ok (.str base1) →
    deviceOf tempID2 (field kvs2 "relay") = .ok (.str base2) →
      FirstFree srv s base1 d1 → FirstFree srv s base2 d2 →
        d1 ≠ d2 ∧ (HasInterface kvs1 ∨ HasInterface kvs2 → srv.same d1 d2 = false)
  names : ∀ x y, NamesNeighbor kvs1 x → NamesNeighbor kvs2 y → srv.same x y = false

/--
**When two joins are independent.**

For a server that refuses nothing for its time, and two joins, quoted well, that the same state
would take one by one: exactly if they are apart.
-/
theorem independent_iff (hsteady : Steady srv) {m : Manager} {tempID1 tempID2 : String}
    {kvs1 kvs2 : List (String × Value)} {d1 d2 : String}
    (hquoted1 : WellQuoted ⟨.join, tempID1, .dict kvs1⟩)
    (hquoted2 : WellQuoted ⟨.join, tempID2, .dict kvs2⟩)
    (h1 : JoinedAs srv limit m ⟨.join, tempID1, .dict kvs1⟩ d1)
    (h2 : JoinedAs srv limit m ⟨.join, tempID2, .dict kvs2⟩ d2) :
    Independent srv limit m ⟨.join, tempID1, .dict kvs1⟩ ⟨.join, tempID2, .dict kvs2⟩ d1 d2 ↔
      Apart srv m.store tempID1 kvs1 tempID2 kvs2 := by
  obtain ⟨base1, s1, fs1, ns1, dba1, dbb1, hrun1⟩ := joinedAs_run h1
  obtain ⟨base2, s2, fs2, ns2, dba2, dbb2, hrun2⟩ := joinedAs_run h2
  obtain ⟨hbase1, hwhole1⟩ := hrun1.quoted hquoted1
  obtain ⟨hbase2, hwhole2⟩ := hrun2.quoted hquoted2
  obtain ⟨devices1, neighbors1, hdevices1, hneighbors1, hleft1⟩ := hrun1.left hbase1 hwhole1
  obtain ⟨devices2, neighbors2, hdevices2, hneighbors2, hleft2⟩ := hrun2.left hbase2 hwhole2
  rw [← hrun1.step.2] at hleft1
  rw [← hrun2.step.2] at hleft2
  have hiface1 := hasInterface_iff hrun1.devices hdevices1
  have hiface2 := hasInterface_iff hrun2.devices hdevices2
  refine ⟨?_, ?_⟩
  · intro h
    obtain ⟨_, _, _, _, _, _, hrun12⟩ := joinedAs_run h.second
    obtain ⟨_, _, _, _, _, _, hrun21⟩ := joinedAs_run h.first
    obtain ⟨hplain2, _⟩ := hrun12.quoted hquoted2
    obtain ⟨hplain1, _⟩ := hrun21.quoted hquoted1
    obtain ⟨hne, hsame12, hnames⟩ := hrun12.apart hplain2 hwhole2 hleft1
    obtain ⟨_, hsame21, _⟩ := hrun21.apart hplain1 hwhole1 hleft2
    refine ⟨fun b1 b2 e1 e2 hb1 hb2 hfree1 hfree2 => ?_, hnames⟩
    -- the bases are those of the two runs, and so are the identifiers
    obtain rfl : base1 = b1 := by simpa using hrun1.named.symm.trans hb1
    obtain rfl : base2 = b2 := by simpa using hrun2.named.symm.trans hb2
    obtain rfl := hfree1.unique (firstFree_of_generated hbase1 hrun1.generated)
    obtain rfl := hfree2.unique (firstFree_of_generated hbase2 hrun2.generated)
    refine ⟨hne, fun hi => ?_⟩
    rcases hi with hi | hi
    · exact hsame12 (hiface1.mp hi)
    · exact same_false_symm (hsame21 (hiface2.mp hi))
  · intro h
    obtain ⟨hne, hsame⟩ := h.ids base1 base2 d1 d2 hrun1.named hrun2.named
      (firstFree_of_generated hbase1 hrun1.generated)
      (firstFree_of_generated hbase2 hrun2.generated)
    obtain ⟨s2', dba2', dbb2', hrun12⟩ := hrun2.after hsteady hbase2 hwhole2 hleft1 hne
      (fun hdev => hsame (Or.inl (hiface1.mpr hdev))) h.names
    obtain ⟨s1', dba1', dbb1', hrun21⟩ := hrun1.after hsteady hbase1 hwhole1 hleft2 hne.symm
      (fun hdev => same_false_symm (hsame (Or.inr (hiface2.mpr hdev))))
      (fun x y hx hy => same_false_symm (h.names y x hy hx))
    -- the rows are the same as alone
    obtain ⟨_, _, hdevices2', hneighbors2', hleft12⟩ := hrun12.left hbase2 hwhole2
    obtain ⟨_, _, hdevices1', hneighbors1', hleft21⟩ := hrun21.left hbase1 hwhole1
    obtain rfl := Except.ok.inj (hdevices2.symm.trans hdevices2')
    obtain rfl := Except.ok.inj (hneighbors2.symm.trans hneighbors2')
    obtain rfl := Except.ok.inj (hdevices1.symm.trans hdevices1')
    obtain rfl := Except.ok.inj (hneighbors1.symm.trans hneighbors1')
    rw [← hrun12.step.2] at hleft12
    rw [← hrun21.step.2] at hleft21
    exact ⟨hrun12.step.1, hrun21.step.1, rowsOf_two_joins hleft1 hleft12 hleft2 hleft21⟩

/-- A join of one interface, by a neighbor of `n`. -/
def joinBeside (n : String) : List (String × Value) :=
  [("relay", .str "none"), ("pubKey", .str "k"),
    ("uniqueCodes", .list [.dict [("ifaceType", .str "wifi"), ("hwAddress", .str "h")]]),
    ("neighbors", .list [.dict [("neighborFlexID", .str n)]])]

theorem exact_steady : Steady Server.exact := fun _ _ _ => rfl

/-- Two devices, each beside another neighbor, are independent. -/
theorem independent_beside :
    Independent Server.exact 10 (start [] 0) ⟨.join, "t", .dict (joinBeside "n")⟩
      ⟨.join, "u", .dict (joinBeside "p")⟩ "0t" "0u" := by
  have hfree : ∀ x ∈ ["t", "u"], FirstFree Server.exact (start [] 0).store x ("0" ++ x) := by
    intro x hx
    refine ⟨0, rfl, ⟨rfl, rfl⟩, fun j hj => absurd hj (Nat.not_lt_zero j)⟩
  have hplain1 : PlainJoin (joinBeside "n") := by decide
  have hplain2 : PlainJoin (joinBeside "p") := by decide
  refine (independent_iff exact_steady (hplain1.wellQuoted (by decide))
    (hplain2.wellQuoted (by decide)) ⟨rfl, _, List.mem_singleton_self _, rfl, rfl⟩
    ⟨rfl, _, List.mem_singleton_self _, rfl, rfl⟩).mpr ⟨?_, ?_⟩
  · intro base1 base2 d1 d2 hbase1 hbase2 hfree1 hfree2
    obtain rfl := Value.str.inj (Except.ok.inj hbase1)
    obtain rfl := Value.str.inj (Except.ok.inj hbase2)
    obtain rfl := hfree1.unique (hfree "t" (by simp))
    obtain rfl := hfree2.unique (hfree "u" (by simp))
    exact ⟨by decide, fun _ => by decide⟩
  · intro x y hx hy
    obtain ⟨ns, n, hns, hn, hname⟩ := hx
    obtain rfl := Except.ok.inj hns
    obtain rfl := List.mem_singleton.mp hn
    obtain ⟨ns', n', hns', hn', hname'⟩ := hy
    obtain rfl := Except.ok.inj hns'
    obtain rfl := List.mem_singleton.mp hn'
    have hread : ∀ z ∈ ["n", "p"], readText z = some z := by decide
    obtain rfl := Option.some.inj ((hread "n" (by simp)).symm.trans (Except.ok.inj hname))
    obtain rfl := Option.some.inj ((hread "p" (by simp)).symm.trans (Except.ok.inj hname'))
    decide

/-- **Two devices with a neighbor in common**: the second is not acknowledged, for the primary
key of `Neighbor` is the neighbor alone. -/
theorem not_independent :
    ¬ ∀ (before : List Request) (tempID1 tempID2 : String) (kvs1 kvs2 : List (String × Value))
      (d1 d2 : String), tempID1 ≠ tempID2 →
      (run Server.exact 10 (start [] 0) before).log.pending = [] →
      JoinedAs Server.exact 10 (run Server.exact 10 (start [] 0) before)
        ⟨.join, tempID1, .dict kvs1⟩ d1 →
      JoinedAs Server.exact 10 (run Server.exact 10 (start [] 0) before)
        ⟨.join, tempID2, .dict kvs2⟩ d2 →
        Independent Server.exact 10 (run Server.exact 10 (start [] 0) before)
          ⟨.join, tempID1, .dict kvs1⟩ ⟨.join, tempID2, .dict kvs2⟩ d1 d2 := by
  intro h
  have hboth := h [] "t" "u" (joinBeside "n") (joinBeside "n") "0t" "0u" (by decide) rfl
    ⟨rfl, _, List.mem_singleton_self _, rfl, rfl⟩ ⟨rfl, _, List.mem_singleton_self _, rfl, rfl⟩
  obtain ⟨_, ack, hack, herr, _⟩ := hboth.second
  have hacks : acks Server.exact 10
      (step Server.exact 10 (start [] 0) ⟨.join, "t", .dict (joinBeside "n")⟩)
      ⟨.join, "u", .dict (joinBeside "n")⟩ = [failureOf .join "u" [("relay", .str "none")]] := rfl
  have hack' : ack = failureOf .join "u" [("relay", .str "none")] := by
    rw [run_nil, hacks, List.mem_singleton] at hack
    exact hack
  rw [hack'] at herr
  have hone : (failureOf .join "u" [("relay", .str "none")]).payload.get "error:" =
    .ok (.int 1) := rfl
  rw [hone] at herr
  exact absurd herr (by simp)

end Versatile.FlexIDMngerDb
