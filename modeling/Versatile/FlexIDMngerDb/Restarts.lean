import Versatile.FlexIDMngerDb.CacheSound
import Versatile.FlexIDMngerDb.Independent
import Versatile.FlexIDMngerDb.Registered
import Versatile.FlexIDMngerDb.Update

/-!
# What survives a restart of `flexIDMnger_db.py`

The manager dies and is started again: the cache is gone, and so are the rows its connection
had not committed. What it had acknowledged is committed by then, so nothing that happens
afterwards takes it back (`acknowledged_durable`), and no identifier that stands for stored rows
is given out a second time, although nobody remembers it but the tables
(`identities_durable`).

The death may come anywhere in a handler. What the tables keep of it is decided by the
statements that were executed before, because a commit follows the last statement of an
insertion at once.
-/

namespace Versatile

open Py

/-- What the server keeps of a connection that is gone. -/
def Database.rollback (db : Database) : Database := { db with log := db.log.rollback }

/-- The server, for a process that does not live to see its `n`-th statement executed. -/
def Server.upTo (srv : Server) (n : Nat) : Server where
  same := srv.same
  same_refl := srv.same_refl
  same_symm := srv.same_symm
  same_trans := srv.same_trans
  refuses := fun k text => if n ≤ k then some 2013 else srv.refuses k text
  brokenRow := srv.brokenRow
  brokenRows := srv.brokenRows

namespace FlexIDMngerDb

variable {srv : Server} {limit : Nat}

/-! ## Lives -/

/-- What happens to the manager. -/
inductive Event where
  /-- A request is handled. -/
  | handled (r : Request)
  /-- The process dies while it handles a request, at its `n`-th statement. -/
  | died (r : Request) (n : Nat)
  /-- The process dies between two requests. -/
  | killed

/-- The process is started again. -/
def Manager.restart (m : Manager) : Manager :=
  ⟨⟨[], m.store.db.rollback⟩, m.published⟩

/-- One event. A process that dies in a handler publishes nothing for it: of what the handler did
up to its `n`-th statement only the committed rows are left. -/
def live (srv : Server) (limit : Nat) (m : Manager) : Event → Manager
  | .handled r => step srv limit m r
  | .died r n => { (step (srv.upTo n) limit m r).restart with published := m.published }
  | .killed => m.restart

/-- The state after some events. -/
def lives (srv : Server) (limit : Nat) (m : Manager) (es : List Event) : Manager :=
  es.foldl (live srv limit) m

/-- **Nothing committed is lost**, whatever happens. -/
theorem live_committed (srv : Server) (limit : Nat) (m : Manager) (e : Event) :
    m.log.committed <+: (live srv limit m e).log.committed := by
  cases e with
  | handled r => exact (step_writes srv limit m r).committed
  | died r n => exact (step_writes (srv.upTo n) limit m r).committed
  | killed => exact List.prefix_rfl

theorem lives_committed (m : Manager) (es : List Event) :
    m.log.committed <+: (lives srv limit m es).log.committed :=
  Machine.foldl_rel (R := fun m m' : Manager => m.log.committed <+: m'.log.committed)
    (fun _ => List.prefix_rfl) (fun h1 h2 => h1.trans h2) (live_committed srv limit) es m

/-- A committed row stays committed. -/
theorem lives_keep {m : Manager} {t : Table} {row : Tuple}
    (h : row ∈ m.store.db.committedRows t) (es : List Event) :
    row ∈ (lives srv limit m es).store.db.committedRows t := by
  unfold Database.committedRows at h ⊢
  rw [mem_rowsOf] at h ⊢
  exact (lives_committed m es).subset h

/-! ## What was acknowledged -/

/-- A row that was built is committed: every value as the text it is to be stored as. -/
def Kept (t : Table) (f : Fields) (db : Database) : Prop :=
  ∃ row ∈ db.committedRows t, ∀ col v, Dict.get f col = some v → Stores row col v

/-- The rows a join stands for, with the identifier it was told, are committed. -/
def JoinKept (kvs : List (String × Value)) (d : String) (db : Database) : Prop :=
  ∃ fs ns, infoList (.dict kvs) (field kvs "relay") d = .ok fs ∧
    neighborList (.dict kvs) d = .ok ns ∧
    (∀ f ∈ fs, Kept .Device f db) ∧ ∀ f ∈ ns, Kept .Neighbor f db

/-- An item, and what was acknowledged for it: the row with this identifier and the item's own
data is committed. -/
inductive ItemKept (db : Database) (d : String) : Value → Value → Prop where
  | item {raw : Value} {item : Item} {index id : String} : readItem raw = .ok item →
      item.index = .str index →
      Kept .RegisterList (registerFields d id item item.attributes) db →
      ItemKept db d raw (.dict [(index, .str id)])

/-- The rows a registration stands for, item by item what was acknowledged, are committed. -/
def RegisterKept (tempID : String) (kvs : List (String × Value)) (ack : Message) (db : Database) :
    Prop :=
  ∃ d items idList, deviceOf tempID (field kvs "relay") = .ok (.str d) ∧
    (field kvs "registerList").iter = .ok items ∧
    ack.payload.get "idList" = .ok (.list idList) ∧ List.Forall₂ (ItemKept db d) items idList

/-- What is committed stays, whatever happens. -/
theorem Kept.lives {m : Manager} {t : Table} {f : Fields} (h : Kept t f m.store.db)
    (es : List Event) : Kept t f (lives srv limit m es).store.db := by
  obtain ⟨row, hrow, hstores⟩ := h
  exact ⟨row, lives_keep hrow es, hstores⟩

/-- A plain row is stored as it was built. -/
theorem PlainRow.kept {t : Table} {f : Fields} {row : Tuple} {db : Database} (h : PlainRow f)
    (hrow : tupleOf f = .ok row) (hmem : row ∈ db.committedRows t) : Kept t f db :=
  ⟨row, hmem, fun _ _ hv => h.stores hrow hv⟩

/-- **A join with plain texts that ran through** has committed its rows. -/
theorem JoinRun.kept {tempID d base : String} {kvs : List (String × Value)} {s s1 : Store}
    {fs ns : List Fields} {db1 db2 : Database} (hplain : PlainRequest ⟨.join, tempID, .dict kvs⟩)
    (h : JoinRun srv limit tempID kvs s d base s1 fs ns db1 db2) :
    JoinKept kvs d db2.commit := by
  have hvalues : PlainJoin kvs := hplain.values kvs rfl
  have hbase : Plain base := hplain.named kvs base rfl h.named
  have hd : Plain d := (join_genID_plain hbase h.generated).1
  have hfs := hvalues.devices hd h.devices
  have hns := hvalues.neighborRows hd h.neighbors
  obtain ⟨devices, neighbors, hdevices, hneighbors, hleft⟩ :=
    h.left hbase ⟨fun fs' hfs' f hf => (hvalues.devices hd hfs' f hf).whole,
      fun ns' hns' f hf => (hvalues.neighborRows hd hns' f hf).whole⟩
  refine ⟨fs, ns, h.devices, h.neighbors, fun f hf => ?_, fun f hf => ?_⟩
  · obtain ⟨row, hrow, htuple⟩ := Except.exists_mem_mapM hdevices hf
    refine (hfs f hf).kept htuple ?_
    rw [Database.committedRows_commit, ← Database.commit_rows]
    exact hleft.mem_rows.mpr (Or.inr (Or.inl ⟨rfl, hrow⟩))
  · obtain ⟨row, hrow, htuple⟩ := Except.exists_mem_mapM hneighbors hf
    refine (hns f hf).kept htuple ?_
    rw [Database.committedRows_commit, ← Database.commit_rows]
    exact hleft.mem_rows.mpr (Or.inr (Or.inr ⟨rfl, hrow⟩))

/-- The row that the server makes of plain values is the one that was built. -/
theorem GivenRow.plain {t : Table} {f : Fields} {row : Tuple} (h : GivenRow srv t f row)
    (hplain : PlainRow f) : tupleOf f = .ok row := by
  obtain ⟨cells, db, hcells, rfl⟩ := h
  obtain ⟨r, hr⟩ := hplain.whole cells hcells
  refine tupleOf_eq_ok.mpr ⟨cells, hcells, ?_⟩
  rw [Server.newRow, hr]

/-- Every entry of a registration with plain texts is kept, if its row is committed; by induction
on the items. -/
theorem items_kept {db : Database} {d : String} {items : List Value}
    {entries : List (Value × Fields)} {rows : List Tuple}
    (hplain : ∀ raw ∈ items, ∀ item hash_val, readItem raw = .ok item →
      item.hash = .str hash_val → ∀ flag,
        PlainRow (registerFields d (newID flag hash_val) item item.attributes))
    (hbuilds : List.Forall₂ (Builds d) items entries)
    (hgiven : List.Forall₂ (GivenRow srv .RegisterList) (entries.map Prod.snd) rows)
    (hcommitted : ∀ row ∈ rows, row ∈ db.committedRows .RegisterList) :
    List.Forall₂ (ItemKept db d) items (entries.map Prod.fst) := by
  induction hbuilds generalizing rows with
  | nil => exact .nil
  | cons hbuild _ ih =>
    cases hgiven with
    | cons hrow hrows =>
      obtain ⟨hhead, htail⟩ := List.forall_mem_cons.mp hplain
      obtain ⟨hmem, hmems⟩ := List.forall_mem_cons.mp hcommitted
      refine .cons ?_ (ih htail hrows hmems)
      cases hbuild with
      | @item item flag index hash_val k hreads =>
        have hrowplain := hhead item hash_val hreads.read hreads.hash (flag + collision_inc * k)
        exact .item hreads.read hreads.index (hrowplain.kept (hrow.plain hrowplain) hmem)

/-- **A registration with plain texts that was acknowledged** has committed its rows. -/
theorem registerAcked_kept {m : Manager} {tempID : String} {kvs : List (String × Value)}
    {ack : Message} (hplain : PlainRequest ⟨.register, tempID, .dict kvs⟩)
    (h : RegisterAcked srv limit m ⟨.register, tempID, .dict kvs⟩ ack) :
    RegisterKept tempID kvs ack (step srv limit m ⟨.register, tempID, .dict kvs⟩).store.db := by
  have hvalues : PlainRegister kvs := hplain.values kvs rfl
  obtain ⟨d, items, entries, rows, n, hdev, hiter, hrounds, hids, hgiven, hcommitted⟩ :=
    registerAcked_rounds h
  have hd : Plain d := hplain.named kvs d rfl hdev
  refine ⟨d, items, _, hdev, hiter, hids, items_kept ?_ hrounds.builds hgiven hcommitted⟩
  exact fun raw hraw item hash_val hread hhash flag =>
    hvalues.row hd hiter hraw hread hhash flag

/-- **What was acknowledged survives.**

Whatever state a join or a registration with plain texts is acknowledged in, and whatever comes
afterwards, more requests and deaths of the process at any statement, every row it stands for is
committed, with the values of the request. -/
theorem acknowledged_durable (m : Manager) (op : Op) (tempID : String)
    (kvs : List (String × Value)) (hplain : PlainRequest ⟨op, tempID, .dict kvs⟩)
    (after : List Event) :
    (∀ d, JoinedAs srv limit m ⟨op, tempID, .dict kvs⟩ d → JoinKept kvs d
        (lives srv limit (step srv limit m ⟨op, tempID, .dict kvs⟩) after).store.db) ∧
      ∀ ack, RegisterAcked srv limit m ⟨op, tempID, .dict kvs⟩ ack →
        RegisterKept tempID kvs ack
          (lives srv limit (step srv limit m ⟨op, tempID, .dict kvs⟩) after).store.db := by
  refine ⟨?_, ?_⟩
  · intro d hjoin
    obtain rfl : op = .join := hjoin.1
    obtain ⟨base, s1, fs, ns, db1, db2, hrun⟩ := joinedAs_run hjoin
    have hkept := hrun.kept hplain
    rw [show db2.commit = (step srv limit m ⟨.join, tempID, .dict kvs⟩).store.db by
      rw [hrun.step.2]] at hkept
    obtain ⟨fs, ns, hfs, hns, hdevices, hneighbors⟩ := hkept
    exact ⟨fs, ns, hfs, hns, fun f hf => (hdevices f hf).lives after,
      fun f hf => (hneighbors f hf).lives after⟩
  · intro ack hack
    obtain rfl : op = .register := hack.1
    obtain ⟨d, items, idList, hdev, hitems, hids, hkept⟩ := registerAcked_kept hplain hack
    refine ⟨d, items, idList, hdev, hitems, hids, hkept.imp fun raw entry h => ?_⟩
    cases h with
    | item hread hindex hrow => exact .item hread hindex (hrow.lives after)

/-- The device joins, and the process dies at the insertion of its next join. It registers
something, and the process is killed. -/
theorem acknowledged_durable_join :
    JoinKept oneInterface "0t" (lives Server.exact 10
        (step Server.exact 10 (start [] 0) ⟨.join, "t", .dict oneInterface⟩)
        [.died ⟨.join, "t", .dict oneInterface⟩ 4]).store.db ∧
      ∃ ack, RegisterKept "t" (registersHash "0t" "h" true) ack (lives Server.exact 10
        (step Server.exact 10 (start deviceOnce 0)
          ⟨.register, "t", .dict (registersHash "0t" "h" true)⟩) [.killed]).store.db := by
  have hjoins : PlainRequest ⟨.join, "t", .dict oneInterface⟩ :=
    PlainJoin.request (by decide) (by decide)
  have hregisters : PlainRequest ⟨.register, "t", .dict (registersHash "0t" "h" true)⟩ :=
    PlainRegister.request (by decide) (by decide)
  have hjoin : JoinedAs Server.exact 10 (start [] 0) ⟨.join, "t", .dict oneInterface⟩ "0t" :=
    ⟨rfl, _, List.mem_singleton_self _, rfl, rfl⟩
  have hacked : ∃ ack, RegisterAcked Server.exact 10 (start deviceOnce 0)
      ⟨.register, "t", .dict (registersHash "0t" "h" true)⟩ ack :=
    ⟨_, rfl, List.mem_singleton_self _, rfl⟩
  obtain ⟨ack, hacked⟩ := hacked
  refine ⟨?_, ack, ?_⟩
  · exact (acknowledged_durable (start [] 0) .join "t" oneInterface hjoins
      [.died ⟨.join, "t", .dict oneInterface⟩ 4]).1 "0t" hjoin
  · exact (acknowledged_durable (start deviceOnce 0) .register "t" _ hregisters [.killed]).2 ack
      hacked

/-! ## The cache of one life -/

/-- A key stays in the cache. -/
def Remembers (s s' : Store) : Prop :=
  ∀ x, s.deviceID_cache.has x = true → s'.deviceID_cache.has x = true

theorem join_genID_remembers (limit : Nat) (base : String) (s : Store) :
    Remembers s (join_genID srv limit base 0 s).2 := by
  obtain ⟨s1, hmark, hends⟩ := join_genID_ends srv base limit 0 s
  rcases hres : join_genID srv limit base 0 s with ⟨r, s'⟩
  rw [hres] at hends
  intro x hx
  have hx1 := hmark.grows x hx
  cases r with
  | ok id =>
    obtain ⟨_, _, _, rfl⟩ := hends
    rw [Dict.has_set, hx1, Bool.or_true]
  | error e =>
    obtain ⟨id, db, _, rfl⟩ := hends
    rw [Dict.has_set, hx1, Bool.or_true]

/-- The insertions of a join leave the cache alone. -/
theorem joinRows_cache (tempID : String) (payload relay : Value) (d : String) (s : Store) :
    (joinRows srv tempID payload relay d s).2.deviceID_cache = s.deviceID_cache := by
  have hends := joinRows_ends srv tempID payload relay d s
  generalize joinRows srv tempID payload relay d s = res at hends
  cases hends <;> rfl

/-- **No handler forgets a key**: the one that would, `leave`, never gets there. -/
theorem bodyOf_remembers (op : Op) (tempID : String) (kvs : List (String × Value)) (s : Store) :
    Remembers s (bodyOf srv limit op tempID kvs s).2 := by
  cases op with
  | join =>
    rcases joinBody_cases srv limit tempID (.dict kvs) (field kvs "relay") s with
      ⟨_, e, h⟩ | ⟨base, _, ⟨e, s', hgen, h⟩ | ⟨d, s', hgen, h⟩⟩
    · rw [bodyOf, h]; exact fun _ hx => hx
    · have hkeep := @join_genID_remembers srv limit base s
      rw [hgen] at hkeep
      rw [bodyOf, h]; exact hkeep
    · have hkeep := @join_genID_remembers srv limit base s
      rw [hgen] at hkeep
      intro x hx
      rw [bodyOf, h, joinRows_cache]
      exact hkeep x hx
  | leave =>
    obtain ⟨e, h⟩ := leaveBody_error srv tempID (field kvs "relay") s
    rw [bodyOf, h]; exact fun _ hx => hx
  | register =>
    have hmark := registerEntries_marked srv limit tempID (.dict kvs) (field kvs "relay") s
    have hends := registerBody_ends srv limit tempID (.dict kvs)
      (field kvs "relay") (field kvs "registerID") s
    rw [bodyOf]
    generalize registerBody srv limit tempID (.dict kvs) (field kvs "relay")
      (field kvs "registerID") s = res at hends
    cases hends with
    | stopped hentries => rw [hentries] at hmark; exact hmark.grows
    | refused hentries _ => rw [hentries] at hmark; exact hmark.grows
    | registered hentries _ => rw [hentries] at hmark; exact hmark.grows
  | update =>
    obtain ⟨e, s', h, hmark⟩ := updateBody_error srv tempID (.dict kvs)
      (field kvs "relay") (field kvs "updateID") s
    rw [bodyOf, h]; exact hmark.grows
  | query =>
    obtain ⟨s', hmark, ⟨_, h⟩ | ⟨_, e, h⟩⟩ := queryBody_cases srv limit tempID kvs s
    · rw [h]; exact hmark.grows
    · rw [h]; exact hmark.grows

theorem step_remembers (m : Manager) (r : Request) :
    Remembers m.store (step srv limit m r).store := by
  obtain ⟨op, tempID, payload⟩ := r
  by_cases h : payload.IsDict
  · obtain ⟨kvs, rfl⟩ := h
    rw [step_dict srv limit]
    exact bodyOf_remembers op tempID kvs m.store
  · rw [step_not_dict h]
    exact fun _ hx => hx

/-- Within one life of the process the cache only grows. -/
theorem lives_remember {m : Manager} {es : List Event} (h : ∀ e ∈ es, ∃ r, e = .handled r) :
    Remembers m.store (lives srv limit m es).store := by
  induction es generalizing m with
  | nil => exact fun _ hx => hx
  | cons e es ih =>
    obtain ⟨r, rfl⟩ := h e List.mem_cons_self
    intro x hx
    exact ih (fun e he => h e (List.mem_cons_of_mem _ he)) x (step_remembers m r x hx)

/-! ## Identifiers of devices -/

/-- A row that is committed is seen. -/
theorem mem_rows_of_committed {db : Database} {t : Table} {row : Tuple}
    (h : row ∈ db.committedRows t) : row ∈ db.rows t := by
  unfold Database.committedRows at h
  unfold Database.rows
  rw [mem_rowsOf] at h ⊢
  exact List.mem_append_left _ h

/-- The identifier of a join was not cached. -/
theorem joinedAs_uncached {m : Manager} {tempID d : String} {kvs : List (String × Value)}
    (h : JoinedAs srv limit m ⟨.join, tempID, .dict kvs⟩ d) :
    m.store.deviceID_cache.has d = false := by
  obtain ⟨base, s1, fs, ns, db1, db2, hrun⟩ := joinedAs_run h
  obtain ⟨k, hgenerated⟩ := generated_of_ok hrun.generated
  obtain rfl : d = candidate base 0 k := Except.ok.inj hgenerated.marks.result
  exact hgenerated.least.1.1

/-- The identifier of a join by a device with a plain name was not stored. -/
theorem joinedAs_unstored {m : Manager} {tempID d : String} {kvs : List (String × Value)}
    (hname : PlainName ⟨.join, tempID, .dict kvs⟩)
    (h : JoinedAs srv limit m ⟨.join, tempID, .dict kvs⟩ d) :
    deviceStored srv m.store.db d = false := by
  obtain ⟨base, s1, fs, ns, db1, db2, hrun⟩ := joinedAs_run h
  exact (join_genID_plain (hname kvs base rfl hrun.named) hrun.generated).2.1

/-- **A device with an interface has its identifier for good**: whatever comes after its join, no
identifier that the server takes for the same is free. -/
theorem joinedAs_taken {m : Manager} {tempID d x : String} {kvs : List (String × Value)}
    (hplain : PlainRequest ⟨.join, tempID, .dict kvs⟩)
    (h : JoinedAs srv limit m ⟨.join, tempID, .dict kvs⟩ d) (hiface : HasInterface kvs)
    (hsame : srv.same d x = true) (after : List Event) :
    deviceStored srv
      (lives srv limit (step srv limit m ⟨.join, tempID, .dict kvs⟩) after).store.db x = true := by
  obtain ⟨base, s1, fs, ns, db1, db2, hrun⟩ := joinedAs_run h
  have hkept := hrun.kept hplain
  rw [show db2.commit = (step srv limit m ⟨.join, tempID, .dict kvs⟩).store.db by
    rw [hrun.step.2]] at hkept
  obtain ⟨fs, _, hfs, _, hdevices, _⟩ := hkept
  obtain ⟨f, hf⟩ := List.exists_mem_of_ne_nil fs ((hasInterface_fields hfs).mp hiface)
  obtain ⟨row, hrow, hstores⟩ := (hdevices f hf).lives after
  obtain ⟨text, hmeant, hid⟩ := hstores "deviceId" _ (infoList_deviceId hfs hf)
  obtain rfl : d = text := Except.ok.inj hmeant
  refine Server.finds_eq_true.mpr ⟨row, mem_rows_of_committed hrow, ?_⟩
  rw [Server.hasCell, Tuple.cell, hid]
  exact hsame

/-! ## Identifiers of registrations -/

/-- A registration is acknowledged, and gives the device `d` the identifier `p`. -/
def Grants (srv : Server) (limit : Nat) (m : Manager) (tempID : String)
    (kvs : List (String × Value)) (d p : String) : Prop :=
  deviceOf tempID (field kvs "relay") = .ok (.str d) ∧
    ∃ ack idList index, RegisterAcked srv limit m ⟨.register, tempID, .dict kvs⟩ ack ∧
      ack.payload.get "idList" = .ok (.list idList) ∧
      Value.dict [(index, .str p)] ∈ idList

/-- A row of `RegisterList` with this primary key. -/
def Keyed (row : Tuple) (p d : String) : Prop :=
  Dict.get row "providingId" = some p ∧ Dict.get row "deviceId" = some d

/-- A row that stores them as they are meant has them for its primary key. -/
theorem keyed_of_stores {row : Tuple} {f : Fields} {p d : String}
    (h : ∀ col v, Dict.get f col = some v → Stores row col v)
    (hp : Dict.get f "providingId" = some (.str p)) (hd : Dict.get f "deviceId" = some (.str d)) :
    Keyed row p d := by
  obtain ⟨_, hmeant, hproviding⟩ := h "providingId" _ hp
  obtain rfl := Except.ok.inj hmeant
  obtain ⟨_, hmeant, hdevice⟩ := h "deviceId" _ hd
  obtain rfl := Except.ok.inj hmeant
  exact ⟨hproviding, hdevice⟩

/-- **A granted identifier is the primary key of a row** that stays. -/
theorem grants_row {m : Manager} {tempID d p : String} {kvs : List (String × Value)}
    (hplain : PlainRequest ⟨.register, tempID, .dict kvs⟩)
    (h : Grants srv limit m tempID kvs d p) (after : List Event) :
    ∃ row ∈ (lives srv limit (step srv limit m ⟨.register, tempID, .dict kvs⟩)
      after).store.db.committedRows .RegisterList, Keyed row p d := by
  obtain ⟨hdev, ack, idList, index, hack, hids, hp⟩ := h
  obtain ⟨d', items, idList', hdev', _, hids', hkept⟩ := registerAcked_kept hplain hack
  obtain rfl : d = d' := by simpa using hdev.symm.trans hdev'
  obtain rfl : idList = idList' := by simpa using hids.symm.trans hids'
  obtain ⟨raw, _, hitem⟩ := exists_of_forall₂ hkept hp
  cases hitem with
  | item _ _ hrow =>
    obtain ⟨row, hmem, hstores⟩ := hrow.lives after
    exact ⟨row, hmem, keyed_of_stores hstores rfl rfl⟩

/-- **A granted identifier was no primary key before**: none of the rows the manager saw has the
same identifier for the same device. -/
theorem grants_new {m : Manager} {tempID d p p0 d0 : String} {kvs : List (String × Value)}
    (hplain : PlainRequest ⟨.register, tempID, .dict kvs⟩)
    (h : Grants srv limit m tempID kvs d p) {row0 : Tuple}
    (hrow0 : row0 ∈ m.store.db.rows .RegisterList) (hkeyed0 : Keyed row0 p0 d0) :
    ¬ (srv.same p0 p = true ∧ srv.same d0 d = true) := by
  have hvalues : PlainRegister kvs := hplain.values kvs rfl
  obtain ⟨hdev, ack, idList, index, hack, hids, hp⟩ := h
  obtain ⟨entries, s1, db1, hentries, hins, hlist, _⟩ := registerAcked_run hack
  obtain rfl : idList = entries.map Prod.fst := by simpa using hids.symm.trans hlist
  obtain ⟨d', items, hdev', hiter, hbuilds⟩ := registerEntries_builds hentries
  obtain rfl : d = d' := by simpa using hdev.symm.trans hdev'
  have hd : Plain d := hplain.named kvs d rfl hdev
  have hrows : ∀ e ∈ entries, PlainRow e.2 := by
    intro e he
    obtain ⟨raw, hraw, hbuild⟩ := exists_of_forall₂ hbuilds he
    cases hbuild with
    | item k hreads => exact hvalues.row hd hiter hraw hreads.read hreads.hash _
  obtain ⟨rows, htuples, _, hnew⟩ := insertRows_ok (fun f hf => by
    obtain ⟨e, he, rfl⟩ := List.mem_map.mp hf
    exact (hrows e he).whole) hins
  -- the row of the granted identifier
  obtain ⟨e, he, heq⟩ := List.mem_map.mp hp
  obtain ⟨row, hrow, htuple⟩ := Except.exists_mem_mapM htuples (List.mem_map_of_mem he)
  have hkeyed : Keyed row p d := by
    obtain ⟨raw, _, hbuild⟩ := exists_of_forall₂ hbuilds he
    cases hbuild with
    | item k hreads =>
      obtain ⟨rfl, rfl⟩ : _ = index ∧ candidate _ _ k = p := by simpa [entryOf] using heq
      exact keyed_of_stores (fun _ _ hv => (hrows _ he).stores htuple hv) rfl rfl
  -- before its insertion a registration leaves the log as it was
  have hmark := registerEntries_marked srv limit tempID (.dict kvs) (field kvs "relay") m.store
  rw [hentries] at hmark
  have hseen : row0 ∈ s1.db.rows .RegisterList := by
    unfold Database.rows at hrow0 ⊢
    rwa [hmark.log]
  have hfree := hnew row hrow row0 hseen
  intro hsame
  have hagree : srv.agree .RegisterList (Table.primaryKey .RegisterList) row0 row = true := by
    simp only [Server.agree, Table.primaryKey, List.all_cons, List.all_nil, hkeyed.1, hkeyed.2,
      Server.hasCell, Tuple.cell, hkeyed0.1, hkeyed0.2, hsame.1, hsame.2, Bool.and_true]
  rw [hfree] at hagree
  exact absurd hagree (by simp)

/-- **No identifier is given out twice**, though the process may die in between, at any
statement, and forget all it had given out.

Of two joins the process tells the second another identifier as long as it lives; and if the
requests are of plain texts and the first has an interface, it is one that the server tells apart,
whatever happens in between. Of two registrations of plain texts by one device none is granted an
identifier of the other. -/
theorem identities_durable (m : Manager) (tempID1 tempID2 : String)
    (kvs1 kvs2 : List (String × Value)) (between : List Event) :
    (∀ d1 d2, JoinedAs srv limit m ⟨.join, tempID1, .dict kvs1⟩ d1 →
        JoinedAs srv limit
          (lives srv limit (step srv limit m ⟨.join, tempID1, .dict kvs1⟩) between)
          ⟨.join, tempID2, .dict kvs2⟩ d2 →
        (PlainRequest ⟨.join, tempID1, .dict kvs1⟩ → PlainName ⟨.join, tempID2, .dict kvs2⟩ →
            HasInterface kvs1 → srv.same d1 d2 = false) ∧
          ((∀ e ∈ between, ∃ r, e = .handled r) → d1 ≠ d2)) ∧
      ∀ d1 d2 p1 p2, PlainRequest ⟨.register, tempID1, .dict kvs1⟩ →
        PlainRequest ⟨.register, tempID2, .dict kvs2⟩ →
        Grants srv limit m tempID1 kvs1 d1 p1 →
        Grants srv limit
          (lives srv limit (step srv limit m ⟨.register, tempID1, .dict kvs1⟩) between)
          tempID2 kvs2 d2 p2 →
        ¬ (srv.same p1 p2 = true ∧ srv.same d1 d2 = true) := by
  refine ⟨?_, ?_⟩
  · intro d1 d2 h1 h2
    refine ⟨?_, ?_⟩
    · intro hplain hname hiface
      have hstored := joinedAs_unstored hname h2
      by_contra hsame
      have htaken := joinedAs_taken hplain h1 hiface (Bool.eq_true_of_not_eq_false hsame) between
      rw [hstored] at htaken
      exact absurd htaken (by simp)
    · intro halive heq
      obtain rfl := heq
      have hstill : (lives srv limit (step srv limit m ⟨.join, tempID1, .dict kvs1⟩)
          between).store.deviceID_cache.has d1 = true :=
        lives_remember halive d1 (joinedAs_cached h1)
      rw [joinedAs_uncached h2] at hstill
      exact absurd hstill (by simp)
  · intro d1 d2 p1 p2 hplain1 hplain2 h1 h2
    obtain ⟨row, hrow, hkeyed⟩ := grants_row hplain1 h1 between
    exact grants_new hplain2 h2 (mem_rows_of_committed hrow) hkeyed

/-- The device joins, the process dies while it registers something, and the device joins again;
or it registers a hash, the process is killed, and it registers the hash again, without being told
the identifier it has. -/
theorem identities_durable_again :
    (∃ d1 d2, JoinedAs Server.exact 10 (start [] 0) ⟨.join, "t", .dict oneInterface⟩ d1 ∧
        JoinedAs Server.exact 10
          (lives Server.exact 10
            (step Server.exact 10 (start [] 0) ⟨.join, "t", .dict oneInterface⟩)
            [.died registerHash 3]) ⟨.join, "t", .dict oneInterface⟩ d2 ∧
        Server.exact.same d1 d2 = false) ∧
      ∃ p1 p2,
        Grants Server.exact 10 (start deviceOnce 0) "t" (registersHash "0t" "h" true) "0t" p1 ∧
        Grants Server.exact 10
          (lives Server.exact 10 (step Server.exact 10 (start deviceOnce 0)
            ⟨.register, "t", .dict (registersHash "0t" "h" true)⟩) [.killed])
          "t" (registersHash "0t" "h" true) "0t" p2 ∧
        ¬ (Server.exact.same p1 p2 = true ∧ Server.exact.same "0t" "0t" = true) := by
  have hjoins : PlainRequest ⟨.join, "t", .dict oneInterface⟩ :=
    PlainJoin.request (by decide) (by decide)
  have hregisters : PlainRequest ⟨.register, "t", .dict (registersHash "0t" "h" true)⟩ :=
    PlainRegister.request (by decide) (by decide)
  refine ⟨⟨"0t", "4t", ?_⟩, "0h", "4h", ?_⟩
  · have hfirst : JoinedAs Server.exact 10 (start [] 0) ⟨.join, "t", .dict oneInterface⟩ "0t" :=
      ⟨rfl, _, List.mem_singleton_self _, rfl, rfl⟩
    have hsecond : JoinedAs Server.exact 10
        (lives Server.exact 10 (step Server.exact 10 (start [] 0) ⟨.join, "t", .dict oneInterface⟩)
          [.died registerHash 3]) ⟨.join, "t", .dict oneInterface⟩ "4t" :=
      ⟨rfl, _, List.mem_singleton_self _, rfl, rfl⟩
    exact ⟨hfirst, hsecond, ((identities_durable (start [] 0) "t" "t" oneInterface oneInterface
      [.died registerHash 3]).1 "0t" "4t" hfirst hsecond).1 hjoins hjoins.named rfl⟩
  · have hfirst : Grants Server.exact 10 (start deviceOnce 0) "t" (registersHash "0t" "h" true)
        "0t" "0h" :=
      ⟨rfl, _, _, "1", ⟨rfl, List.mem_singleton_self _, rfl⟩, rfl, List.mem_singleton_self _⟩
    have hsecond : Grants Server.exact 10
        (lives Server.exact 10 (step Server.exact 10 (start deviceOnce 0)
          ⟨.register, "t", .dict (registersHash "0t" "h" true)⟩) [.killed])
        "t" (registersHash "0t" "h" true) "0t" "4h" :=
      ⟨rfl, _, _, "1", ⟨rfl, List.mem_singleton_self _, rfl⟩, rfl, List.mem_singleton_self _⟩
    exact ⟨hfirst, hsecond, (identities_durable (start deviceOnce 0) "t" "t" _ _ [.killed]).2
      "0t" "0t" "0h" "4h" hregisters hregisters hfirst hsecond⟩

/-- Without an interface nothing of a join is stored, and the next process tells its identifier
again. -/
example :
    let r : Request := ⟨.join, "t", .dict
      [("relay", .str "none"), ("uniqueCodes", .list []), ("neighbors", .list [])]⟩
    JoinedAs Server.exact 10 (start [] 0) r "0t" ∧
      JoinedAs Server.exact 10 (lives Server.exact 10 (start [] 0) [.handled r, .killed]) r "0t" :=
  ⟨⟨rfl, _, List.mem_singleton_self _, rfl, rfl⟩, rfl, _, List.mem_singleton_self _, rfl, rfl⟩

end FlexIDMngerDb

end Versatile
