import Versatile.FlexIDMngerDb.Plain

/-!
# What a request that failed leaves behind

There is no rollback in the code of `flexIDMnger_db.py`, so a row that was inserted before the one
that failed stays pending, and the next request that commits anything commits it: one such request
is always at hand, a registration of nothing. So a failed request leaves nothing behind exactly
when nothing of it was inserted, and a request that inserts anything is safe exactly when all its
rows are taken.
-/

namespace Versatile.FlexIDMngerDb

open Py

variable {srv : Server} {limit : Nat}

/-! ## A request that commits whatever is pending -/

/-- A registration of nothing. -/
def registerNothing (d : String) : Request :=
  ⟨.register, d, .dict [("relay", .str "none"), ("registerList", .list [])]⟩

/-- **A registration of nothing by a cached device commits everything pending.** -/
theorem registerNothing_commits {m : Manager} {d : String}
    (h : m.store.deviceID_cache.has d = true) :
    (step srv limit m (registerNothing d)).log.committed = m.log.all := by
  have hcheck : checkDevice srv d m.store = (.ok (), m.store) := by
    rcases checkDevice_cases srv d m.store with ⟨_, hc⟩ | ⟨hno, _⟩ | ⟨hno, _⟩
    · exact hc
    · rw [h] at hno; exact absurd hno (by simp)
    · rw [h] at hno; exact absurd hno (by simp)
  have hentries : registerEntries srv limit d
      (.dict [("relay", .str "none"), ("registerList", .list [])]) (.str "none") m.store =
        (.ok [], m.store) := by
    have hspeaker : speaker srv d (.str "none") m.store = (.ok d, m.store) := by
      rw [speaker]
      have hdev : deviceOf d (.str "none") = .ok (.str d) := rfl
      simp only [Proc.bind_apply, Proc.liftM_apply, hdev, Value.asStr_str, hcheck,
        Proc.pure_apply]
    rw [registerEntries, Proc.bind_ok hspeaker]
    rfl
  have hbody : bodyOf srv limit .register d
      [("relay", .str "none"), ("registerList", .list [])] = registerBody srv limit d
        (.dict [("relay", .str "none"), ("registerList", .list [])]) (.str "none") .none := rfl
  rw [registerNothing, step_dict srv limit, hbody, registerBody, Proc.bind_ok hentries]
  rfl

/-! ## The property and its condition -/

/-- An acknowledgement that reports an error. -/
def Message.isError (ack : Message) : Prop :=
  ack.payload.get "error" = .ok (.int 1) ∨ ack.payload.get "error:" = .ok (.int 1)

/-- A message of success reports no error. -/
theorem not_isError {topic : String} {entries : List (String × Value)}
    (h : Dict.get entries "error" = none) :
    ¬ Message.isError ⟨topic, .dict (("error:", .int 0) :: entries)⟩ := by
  intro hcase
  rcases hcase with herr | herr
  · rw [Value.get_dict, Dict.get_cons, if_neg (by decide), h] at herr
    exact absurd herr (by simp)
  · rw [Value.get_dict, Dict.get_cons, if_pos rfl] at herr
    exact absurd herr (by simp)

/-- The handler answers the request with an error. -/
def Fails (srv : Server) (limit : Nat) (m : Manager) (r : Request) : Prop :=
  ∃ ack ∈ acks srv limit m r, Message.isError ack

/-- **All or nothing**: of a request that is answered with an error no row is ever committed,
neither at once nor by any requests that follow. -/
def AllOrNothing (srv : Server) (limit : Nat) (m : Manager) (r : Request) : Prop :=
  Fails srv limit m r → ∀ (later : List Request) (i : Nat), m.log.all.length ≤ i →
    i < (step srv limit m r).log.all.length →
    ¬ (run srv limit (step srv limit m r) later).log.Committed i

/-- All rows of a join are taken, or none: if the first interface row is taken by the database,
there is no second one, and every neighbor can be read and is taken too. -/
def RowsTaken (srv : Server) (kvs : List (String × Value)) (d : String) (s : Store) : Prop :=
  ∀ f fs db1, infoList (.dict kvs) (field kvs "relay") d = .ok (f :: fs) →
    insertRow srv .Device f s.db = (.ok (), db1) →
    fs = [] ∧ ∃ ns, neighborList (.dict kvs) d = .ok ns ∧
      (insertRows srv .Neighbor ns db1.commit).1 = .ok ()

/-- The rows of a join are all taken, or none, once it has an identifier for them. -/
def JoinTaken (srv : Server) (limit : Nat) (tempID : String) (kvs : List (String × Value))
    (s : Store) : Prop :=
  ∀ base d s1, deviceOf tempID (field kvs "relay") = .ok (.str base) →
    join_genID srv limit base 0 s = (.ok d, s1) →
    RowsTaken srv kvs d s1

/-- The rows of a registration are all taken, or none. -/
def RegisterTaken (srv : Server) (limit : Nat) (tempID : String) (kvs : List (String × Value))
    (s : Store) : Prop :=
  ∀ entries s1 f fs, registerEntries srv limit tempID (.dict kvs) (field kvs "relay") s =
      (.ok entries, s1) →
    entries.map Prod.snd = f :: fs → (insertRow srv .RegisterList f s1.db).1 = .ok () →
    (insertRows srv .RegisterList (f :: fs) s1.db).1 = .ok ()

/-! ## The two directions -/

/-- A request that appends nothing leaves nothing behind. -/
theorem allOrNothing_of_length {m : Manager} {r : Request}
    (h : (step srv limit m r).log.all.length = m.log.all.length) :
    AllOrNothing srv limit m r := by
  intro _ later i h1 h2
  omega

/-- A request that succeeds leaves nothing behind of a failure. -/
theorem allOrNothing_of_ok {op : Op} {tempID : String} {kvs : List (String × Value)} {m : Manager}
    {msg : Message} (h : (bodyOf srv limit op tempID kvs m.store).1 = .ok msg)
    (hmsg : ¬ Message.isError msg) : AllOrNothing srv limit m ⟨op, tempID, .dict kvs⟩ := by
  intro hsome
  obtain ⟨ack, hack, herr⟩ := hsome
  rw [acks_dict, reply, h, List.mem_singleton] at hack
  obtain rfl : ack = msg := hack
  exact absurd herr hmsg

/-- A failed request that appended a row and left its device in the cache does leave one:
the device can register nothing. -/
theorem not_allOrNothing {m : Manager} {r : Request} {d : String} (hfail : Fails srv limit m r)
    (hrow : m.log.all.length < (step srv limit m r).log.all.length)
    (hcache : (step srv limit m r).store.deviceID_cache.has d = true) :
    ¬ AllOrNothing srv limit m r := by
  intro h
  refine h hfail [registerNothing d] m.log.all.length (Nat.le_refl _) hrow ?_
  rw [run_cons, run_nil, TxLog.Committed, registerNothing_commits hcache]
  exact hrow

/-- A handler whose `try` block raises answers with an error, whatever the operation. -/
theorem fails_of_error {op : Op} {tempID : String} {kvs : List (String × Value)} {m : Manager}
    {e : Exc} {s' : Store} (h : bodyOf srv limit op tempID kvs m.store = (.error e, s')) :
    Fails srv limit m ⟨op, tempID, .dict kvs⟩ := by
  refine ⟨_, by rw [acks_dict]; exact List.mem_singleton_self _, ?_⟩
  rw [reply, h]
  cases op
  · exact Or.inr rfl
  · exact Or.inr rfl
  · exact Or.inl rfl
  · exact Or.inl rfl
  · exact Or.inl rfl

/-- The log is longer once a first row went in, whatever happened after it. -/
theorem insertRows_grows {op : Op} {t : Table} {f : Fields} {fs : List Fields}
    {db db1 db' : Database} {l : TxLog (Table × Tuple)} {r : Except Exc Unit}
    (hf : insertRow srv t f db = (.ok (), db1)) (hfs : insertRows srv t (f :: fs) db = (r, db'))
    (hl : Writes op db'.log l) : db.log.all.length < l.all.length := by
  obtain ⟨row, rows, happ⟩ := insertRows_appended_cons fs hf
  rw [hfs] at happ
  have hlen := hl.length_le
  rw [happ.all, List.length_append, List.length_map, List.length_cons] at hlen
  omega

/-- The first row of an insertion that went through, or nothing was inserted. -/
theorem insertRows_first {t : Table} {fs : List Fields} {db db' : Database}
    (h : insertRows srv t fs db = (.ok (), db')) :
    (fs = [] ∧ db' = db) ∨ ∃ f fs' db1, fs = f :: fs' ∧ insertRow srv t f db = (.ok (), db1) := by
  cases fs with
  | nil =>
    obtain rfl : db = db' := congrArg Prod.snd h
    exact Or.inl ⟨rfl, rfl⟩
  | cons f fs' =>
    obtain ⟨db1, hf, _⟩ := insertRows_cons_eq_ok.mp h
    exact Or.inr ⟨f, fs', db1, rfl, hf⟩

/-- An insertion that was refused: at its first row, with nothing inserted, or behind it. -/
theorem insertRows_refused {t : Table} {fs : List Fields} {e : Exc} {db db' : Database}
    (h : insertRows srv t fs db = (.error e, db')) :
    ∃ f fs', fs = f :: fs' ∧ (((insertRow srv t f db).1 ≠ .ok () ∧ db'.log = db.log) ∨
      ∃ db1, insertRow srv t f db = (.ok (), db1)) := by
  cases fs with
  | nil => exact absurd (congrArg Prod.fst h) (by simp [insertRows])
  | cons f fs' =>
    refine ⟨f, fs', rfl, ?_⟩
    rcases hf : insertRow srv t f db with ⟨r, db1⟩
    cases r with
    | ok _ => exact Or.inr ⟨db1, rfl⟩
    | error e' =>
      have hno : (insertRow srv t f db).1 ≠ .ok () := by rw [hf]; simp
      have hlog := (insertRows_not_first fs' hno).2
      rw [h] at hlog
      exact Or.inl ⟨by simp, hlog⟩

/-! ## Joins -/

section Rows

variable {kvs : List (String × Value)} {d : String} {s : Store}

/-- Without a first interface row in the database none of the rows is taken. -/
theorem rowsTaken_of_none (h : ∀ f fs db1,
    infoList (.dict kvs) (field kvs "relay") d = .ok (f :: fs) →
      insertRow srv .Device f s.db ≠ (.ok (), db1)) : RowsTaken srv kvs d s :=
  fun f fs db1 hinfo hf => absurd hf (h f fs db1 hinfo)

/-- Once the first interface row is taken, all rows are. -/
theorem RowsTaken.inserted (h : RowsTaken srv kvs d s) {f : Fields} {fs : List Fields}
    {db1 : Database} (hinfo : infoList (.dict kvs) (field kvs "relay") d = .ok (f :: fs))
    (hf : insertRow srv .Device f s.db = (.ok (), db1)) :
    insertRows srv .Device (f :: fs) s.db = (.ok (), db1) ∧
      ∃ ns, neighborList (.dict kvs) d = .ok ns ∧
        (insertRows srv .Neighbor ns db1.commit).1 = .ok () := by
  obtain ⟨rfl, ns, hns, hok⟩ := h f fs db1 hinfo hf
  exact ⟨insertRows_cons_eq_ok.mpr ⟨db1, hf, rfl⟩, ns, hns, hok⟩

/-- A join that stored its interfaces had one at most, so all its rows are taken if its neighbors
are. -/
theorem rowsTaken_of_inserted (hd : Plain d) (hwhole : WholeJoin kvs d) {fs ns : List Fields}
    {db1 db2 : Database}
    (hinfo : infoList (.dict kvs) (field kvs "relay") d = .ok fs)
    (hdev : insertRows srv .Device fs s.db = (.ok (), db1))
    (hnbr : neighborList (.dict kvs) d = .ok ns)
    (hins : insertRows srv .Neighbor ns db1.commit = (.ok (), db2)) :
    RowsTaken srv kvs d s := by
  intro f fs' db0 hinfo' hf
  obtain rfl : fs = f :: fs' := by simpa using hinfo.symm.trans hinfo'
  cases fs' with
  | nil =>
    obtain ⟨db, hf', hdev⟩ := insertRows_cons_eq_ok.mp hdev
    obtain rfl : db0 = db := congrArg Prod.snd (hf.symm.trans hf')
    obtain rfl : db0 = db1 := congrArg Prod.snd hdev
    exact ⟨rfl, ns, hnbr, by rw [hins]⟩
  | cons f' fs' =>
    -- all rows of a join have one identifier, which is the primary key
    have hmem : f' ∈ f :: f' :: fs' := List.mem_cons_of_mem _ List.mem_cons_self
    have hid := infoList_deviceId hinfo List.mem_cons_self
    have hid' := infoList_deviceId hinfo hmem
    obtain ⟨e, he⟩ := insertRows_device_two srv fs' s.db hd
      (hwhole.devices _ hinfo f List.mem_cons_self) (hwhole.devices _ hinfo f' hmem) hid hid'
    rw [hdev] at he
    exact absurd he (by simp)

/-- A join without interfaces stores no neighbor either: there is no device to refer to. -/
theorem neighbors_refused (hd : Plain d) (hwhole : WholeJoin kvs d) {ns : List Fields} {e : Exc}
    {db2 : Database}
    (hst : deviceStored srv s.db d = false) (hnbr : neighborList (.dict kvs) d = .ok ns)
    (hins : insertRows srv .Neighbor ns s.db.commit = (.error e, db2)) :
    db2.log.all = s.db.log.all := by
  obtain ⟨n, ns, rfl, ⟨_, hlog⟩ | ⟨db3, hn⟩⟩ := insertRows_refused hins
  · rw [hlog, Database.commit_log, TxLog.all_commit]
  · have hst' : deviceStored srv s.db.commit d = false := by
      rw [← hst]; simp [deviceStored, Server.finds]
    have hid := neighborList_deviceId hnbr List.mem_cons_self
    have hwn := hwhole.neighbors _ hnbr n List.mem_cons_self
    exact absurd (by rw [hn]) (insertRow_neighbor_orphan hwn hd hid hst')

variable (srv kvs d s) in
/-- **How the rows of a join end**: with nothing inserted, with a success, or with rows left
behind. -/
inductive RowsOutcome : Except Exc Message × Store → Prop where
  | nothing {res} (htaken : RowsTaken srv kvs d s)
      (hsame : res.2.db.log.all = s.db.log.all) : RowsOutcome res
  | success {msg s'} (htaken : RowsTaken srv kvs d s) (hmsg : ¬ Message.isError msg) :
      RowsOutcome (.ok msg, s')
  | leftover {e s'} (hnot : ¬ RowsTaken srv kvs d s)
      (hgrows : s.db.log.all.length < s'.db.log.all.length)
      (hcache : s'.deviceID_cache = s.deviceID_cache) : RowsOutcome (.error e, s')

/-- The rows of a join, for an identifier that is not stored. -/
theorem joinRows_outcome (tempID : String) (hd : Plain d) (hwhole : WholeJoin kvs d)
    (hst : deviceStored srv s.db d = false) :
    RowsOutcome srv kvs d s (joinRows srv tempID (.dict kvs) (field kvs "relay") d s) := by
  have hends := joinRows_ends srv tempID (.dict kvs) (field kvs "relay") d s
  generalize joinRows srv tempID (.dict kvs) (field kvs "relay") d s = res at hends
  have hcommit : ∀ l : TxLog (Table × Tuple), Writes .join l l.commit := TxLog.extends_commit _
  cases hends with
  | badInfo hinfo =>
    refine .nothing (rowsTaken_of_none fun f fs db1 hinfo' => ?_) rfl
    exact absurd (hinfo.symm.trans hinfo') (by simp)
  | deviceRefused hinfo hdev =>
    obtain ⟨f, fs, rfl, ⟨hno, hlog⟩ | ⟨db0, hf⟩⟩ := insertRows_refused hdev
    · refine .nothing (rowsTaken_of_none fun f' fs' db1' hinfo' hf' => ?_) (congrArg TxLog.all hlog)
      obtain ⟨rfl, _⟩ : f = f' ∧ fs = fs' := by simpa using hinfo.symm.trans hinfo'
      exact hno (by rw [hf'])
    · refine .leftover (fun htaken => ?_)
        (insertRows_grows hf hdev (TxLog.Extends.refl _ _ : Writes .join _ _)) rfl
      exact absurd (congrArg Prod.fst (hdev.symm.trans (htaken.inserted hinfo hf).1)) (by simp)
  | badNeighbor hinfo hdev hnbr =>
    rcases insertRows_first hdev with ⟨rfl, rfl⟩ | ⟨f, fs', db0, rfl, hf⟩
    · refine .nothing (rowsTaken_of_none fun f' fs' db1' hinfo' => ?_) (by simp)
      exact absurd (hinfo.symm.trans hinfo') (by simp)
    · refine .leftover (fun htaken => ?_) (insertRows_grows hf hdev (hcommit _)) rfl
      obtain ⟨_, ns, hns, _⟩ := htaken.inserted hinfo hf
      exact absurd (hnbr.symm.trans hns) (by simp)
  | neighborRefused hinfo hdev hnbr hins =>
    rcases insertRows_first hdev with ⟨rfl, rfl⟩ | ⟨f, fs', db0, rfl, hf⟩
    · refine .nothing (rowsTaken_of_none fun f' fs' db1' hinfo' => ?_)
        (neighbors_refused hd hwhole hst hnbr hins)
      exact absurd (hinfo.symm.trans hinfo') (by simp)
    · refine .leftover (fun htaken => ?_)
        (insertRows_grows hf hdev ((hcommit _).trans (insertRows_writes _ rfl hins))) rfl
      obtain ⟨hdev', ns', hns, hok⟩ := htaken.inserted hinfo hf
      obtain rfl : _ = ns' := by simpa using hnbr.symm.trans hns
      obtain rfl : _ = db0 := congrArg Prod.snd (hdev.symm.trans hdev')
      rw [hins] at hok
      exact absurd hok (by simp)
  | joined hinfo hdev hnbr hins =>
    exact .success (rowsTaken_of_inserted hd hwhole hinfo hdev hnbr hins) (not_isError rfl)

end Rows

/-- **A join is all-or-nothing** exactly if all its rows are taken, or none. -/
theorem join_allOrNothing (tempID : String) (kvs : List (String × Value)) (m : Manager)
    (hquoted : WellQuoted ⟨.join, tempID, .dict kvs⟩) :
    AllOrNothing srv limit m ⟨.join, tempID, .dict kvs⟩ ↔
      JoinTaken srv limit tempID kvs m.store := by
  have hbody : bodyOf srv limit .join tempID kvs =
      joinBody srv limit tempID (.dict kvs) (field kvs "relay") := rfl
  have hstep := step_dict srv limit .join tempID kvs m
  rw [hbody] at hstep
  rcases joinBody_cases srv limit tempID (.dict kvs) (field kvs "relay")
    m.store with ⟨hno, e, h⟩ | ⟨base, hbase, ⟨e, s', hgen, h⟩ | ⟨d, s', hgen, h⟩⟩
  · refine iff_of_true (allOrNothing_of_length (by rw [hstep, h])) ?_
    intro base d s1 hbase
    exact absurd hbase (hno base)
  · have hlog := join_genID_log srv limit base 0 m.store
    rw [hgen] at hlog
    refine iff_of_true (allOrNothing_of_length (by rw [hstep, h, Manager.log, hlog])) ?_
    intro base' d s1 hbase' hgen'
    obtain rfl : base = base' := by simpa using hbase.symm.trans hbase'
    exact absurd (congrArg Prod.fst (hgen.symm.trans hgen')) (by simp)
  · obtain ⟨hplain, hwhole⟩ := hquoted kvs base rfl hbase
    obtain ⟨hd, hst, hcached, hlog, _⟩ := join_genID_plain hplain hgen
    obtain ⟨flag, hflag⟩ := (join_genID_ok hgen).1
    have hrows := hwhole flag
    rw [← hflag] at hrows
    have hjoin : JoinTaken srv limit tempID kvs m.store ↔
        RowsTaken srv kvs d s' := by
      refine ⟨?_, ?_⟩
      · intro htaken; exact htaken base d s' hbase hgen
      · intro htaken base' d' s1 hbase' hgen'
        obtain rfl : base = base' := by simpa using hbase.symm.trans hbase'
        obtain ⟨rfl, rfl⟩ : d = d' ∧ s' = s1 := by simpa using hgen.symm.trans hgen'
        exact htaken
    rw [hjoin]
    have houtcome : RowsOutcome srv kvs d s' _ :=
      joinRows_outcome tempID hd hrows ((deviceStored_congr hlog _).trans hst)
    rw [← h] at houtcome
    generalize hres : joinBody srv limit tempID (.dict kvs) (field kvs "relay") m.store = res
      at houtcome hstep
    cases houtcome with
    | nothing htaken hsame =>
      refine iff_of_true (allOrNothing_of_length ?_) htaken
      rw [hstep, Manager.log, hsame, hlog]
    | success htaken hmsg =>
      exact iff_of_true (allOrNothing_of_ok (by rw [hbody, hres]) hmsg) htaken
    | @leftover e s1 hnot hgrows hcache =>
      -- the device is cached, so it can register nothing and commit what is left
      refine iff_of_false (not_allOrNothing (d := d) ?_ ?_ ?_) hnot
      · exact fails_of_error (e := e) (by rw [hbody, hres])
      · rw [hstep]; rwa [hlog] at hgrows
      · rw [hstep, hcache]; exact hcached

/-! ## Registrations -/

/-- **A registration is all-or-nothing** exactly if all its rows are taken, or none. -/
theorem register_allOrNothing (tempID : String) (kvs : List (String × Value)) (m : Manager) :
    AllOrNothing srv limit m ⟨.register, tempID, .dict kvs⟩ ↔
      RegisterTaken srv limit tempID kvs m.store := by
  have hbody : bodyOf srv limit .register tempID kvs =
      registerBody srv limit tempID (.dict kvs) (field kvs "relay") (field kvs "registerID") := rfl
  have hstep := step_dict srv limit .register tempID kvs m
  rw [hbody] at hstep
  have hmark := registerEntries_marked srv limit tempID (.dict kvs)
    (field kvs "relay") m.store
  have hends := registerBody_ends srv limit tempID (.dict kvs)
    (field kvs "relay") (field kvs "registerID") m.store
  generalize hres : registerBody srv limit tempID (.dict kvs) (field kvs "relay")
    (field kvs "registerID") m.store = res at hends
  cases hends with
  | stopped hentries =>
    rw [hentries] at hmark
    refine iff_of_true (allOrNothing_of_length ?_) ?_
    · rw [hstep, hres, Manager.log, hmark.log]
    · intro entries s1 f fs hentries'
      exact absurd (congrArg Prod.fst (hentries.symm.trans hentries')) (by simp)
  | @refused entries e s1 db1 hentries hins =>
    rw [hentries] at hmark
    have hlog : s1.db.log = m.log := hmark.log
    obtain ⟨f, fs, hfs, ⟨hno, hsame⟩ | ⟨db0, hf⟩⟩ := insertRows_refused hins
    · refine iff_of_true (allOrNothing_of_length ?_) ?_
      · rw [hstep, hres, Manager.log, hsame, hlog]
      · intro entries' s1' f' fs' hentries' hfs' hok
        obtain ⟨rfl, rfl⟩ : entries = entries' ∧ s1 = s1' := by
          simpa using hentries.symm.trans hentries'
        obtain ⟨rfl, _⟩ : f = f' ∧ fs = fs' := by simpa using hfs.symm.trans hfs'
        exact absurd hok hno
    · -- the device is cached, so it can register nothing and commit what is left
      obtain ⟨d, _, hcached⟩ := registerEntries_ok hentries
      rw [hfs] at hins
      refine iff_of_false (not_allOrNothing (d := d) ?_ ?_ ?_) ?_
      · exact fails_of_error (e := e) (by rw [hbody, hres])
      · rw [hstep, hres, ← hlog]
        exact insertRows_grows hf hins (TxLog.Extends.refl _ _ : Writes .register _ _)
      · rw [hstep, hres]; exact hcached
      · intro htaken
        have hok := htaken entries s1 f fs hentries hfs (by rw [hf])
        rw [hins] at hok
        exact absurd hok (by simp)
  | @registered entries s1 db1 hentries hins =>
    refine iff_of_true (allOrNothing_of_ok (by rw [hbody, hres]) (not_isError rfl)) ?_
    · intro entries' s1' f fs hentries' hfs _
      obtain ⟨rfl, rfl⟩ : entries = entries' ∧ s1 = s1' := by
        simpa using hentries.symm.trans hentries'
      rw [← hfs, hins]

/-! ## All requests -/

/-- The other operations insert nothing. -/
theorem allOrNothing_of_writes_nothing {m : Manager} {r : Request}
    (h : ∀ t, r.op.writes t = false) : AllOrNothing srv limit m r := by
  obtain ⟨new, heq, hnew⟩ := (step_writes srv limit m r).all
  refine allOrNothing_of_length ?_
  cases new with
  | nil => rw [heq, List.append_nil]
  | cons e new =>
    have he := hnew e (by simp)
    rw [h] at he
    exact absurd he (by simp)

/-- A request whose payload is no object is not even answered. -/
theorem allOrNothing_of_not_dict {m : Manager} {r : Request} (h : ¬ r.payload.IsDict) :
    AllOrNothing srv limit m r := allOrNothing_of_length (by rw [step_not_dict h])

end Versatile.FlexIDMngerDb
