import Versatile.FlexIDMngerDb.FirstFree
import Versatile.FlexIDMngerDb.Restarts

/-!
# A restart of `flexIDMnger_db.py` is not noticed

`deviceID_cache` holds what the process remembers of `Device`. Where every key of it stands for
a committed device, it tells the handlers nothing a selection would not tell them: two processes
on the same tables answer alike, whatever either has cached (`bodyOf_agrees`). So a process that
is started again between two requests goes on as the old one would have
(`restarts_invisible`).

Each selection spared is one the restarted process makes, so the server has to answer them
all; and `join_genID` calls itself for each stored candidate the cache does not know, so the
devices must be fewer than the calls the interpreter allows.
-/

namespace Versatile.FlexIDMngerDb

open Py

variable {srv : Server} {limit : Nat}

/-- The server refuses nothing of its own. -/
def Answers (srv : Server) : Prop := ∀ n text, srv.refuses n text = none

/-! ## The same tables -/

/-- Two connections see the same rows, the same of them committed. -/
def SameLog (db db' : Database) : Prop := db'.log = db.log

theorem SameLog.rows {db db' : Database} (h : SameLog db db') (t : Table) :
    db'.rows t = db.rows t := by
  unfold Database.rows
  rw [h]

/-- What an insertion without broken literals does depends on the rows alone. -/
theorem insertRow_agrees (hanswers : Answers srv) (t : Table) {f : Fields} (hwhole : Whole f) :
    Proc.Agrees SameLog SameLog (insertRow srv t f) := by
  refine Proc.Agrees.lift_bind (fun cells hcells => ?_) fun _ _ h => h
  obtain ⟨r, hr⟩ := hwhole cells hcells
  refine Proc.Agrees.bind (fun db db' h => ?_) fun _ => Proc.agrees_pure _ _
  have hlog : db'.log = db.log := h
  have hanswers : ∀ n text, srv.refuses n text = none := hanswers
  have hadm : srv.admits db' t r = srv.admits db t r := by
    unfold Server.admits
    rw [h.rows, h.rows]
  simp only [Server.execute, hanswers, Server.newRow, hr, hadm]
  cases srv.admits db t r with
  | ok _ => exact ⟨rfl, by rw [SameLog, Database.store_log, Database.store_log,
      Database.tick_log, Database.tick_log, hlog]⟩
  | error e => exact ⟨rfl, h⟩

theorem insertRows_agrees (hanswers : Answers srv) (t : Table) :
    ∀ fs : List Fields, (∀ f ∈ fs, Whole f) → Proc.Agrees SameLog SameLog (insertRows srv t fs)
  | [], _ => Proc.agrees_pure _ _
  | _ :: fs, hwhole =>
      (insertRow_agrees hanswers t (hwhole _ List.mem_cons_self)).bind fun _ =>
        insertRows_agrees hanswers t fs fun f hf => hwhole f (List.mem_cons_of_mem _ hf)

/-- An insertion of rows without broken literals. -/
theorem insert_agrees (hanswers : Answers srv) (t : Table) {fs : List Fields}
    (hwhole : ∀ f ∈ fs, Whole f) :
    Proc.Agrees SameLog SameLog (db_proc srv .insert (.onTable t fs)) := by
  unfold db_proc
  refine (insertRows_agrees hanswers t fs hwhole).bind fun _ => (Proc.agrees_modify _ ?_).bind
    fun _ => Proc.agrees_pure _ _
  intro db db' h
  have hlog : db'.log = db.log := h
  rw [SameLog, Database.commit_log, Database.commit_log, hlog]

/-- A selection without broken literals fetches the same rows. -/
theorem select_agrees (hanswers : Answers srv) (t : Table) {f : Fields}
    (hwhole : ((Dict.get f "category").getD .none).isStr "Sensor" = true ∨
      ∃ conds, readCells (f.map whereCell) = some conds) :
    Proc.Agrees SameLog SameLog (db_proc srv .select (.onTable t [f])) := by
  have hbody : db_proc srv .select (.onTable t [f]) =
      if ((Dict.get f "category").getD .none).isStr "Sensor" then
        return .dict [("error", .int 0), ("data", .list sensorIDs)]
      else do
        let rows ← srv.execute (.select t (f.map whereCell))
        return .dict [("error", .int 0), ("data", .list (rows.map (Tuple.toDict t)))] := rfl
  rw [hbody]
  cases hsensor : ((Dict.get f "category").getD .none).isStr "Sensor" with
  | true => exact Proc.agrees_pure _ _
  | false =>
    obtain ⟨conds, hconds⟩ := hwhole.resolve_left (by rw [hsensor]; simp)
    refine Proc.Agrees.bind (fun db db' h => ?_) fun _ => Proc.agrees_pure _ _
    have hanswers : ∀ n text, srv.refuses n text = none := hanswers
    simp only [Server.execute, hanswers, Server.fetched, hconds, h.rows]
    by_cases hcols : ¬ ((f.map whereCell).all fun c => decide (c.column ∈ t.columns)) = true
    · rw [if_pos hcols, if_pos hcols]
      exact ⟨rfl, h⟩
    · rw [if_neg hcols, if_neg hcols]
      exact ⟨rfl, h⟩

/-- Two processes on the same tables. -/
def SameTables (s s' : Store) : Prop := SameLog s.db s'.db

theorem database_agrees {topic : DbTopic} {query : DbQuery}
    (h : Proc.Agrees SameLog SameLog (db_proc srv topic query)) :
    Proc.Agrees SameTables SameTables (database (db_proc srv topic query)) :=
  h.zoom (fun _ _ h => h) fun _ _ _ _ h => h

theorem register_genID_agrees (hanswers : Answers srv) {hash_val : String}
    (hplain : Plain hash_val) :
    ∀ limit flag : Nat,
      Proc.Agrees SameTables SameTables (register_genID srv limit hash_val flag)
  | 0, _ => Proc.agrees_raise _ _
  | limit + 1, flag => by
      have hread : ∃ conds, readCells ([("providingId", Value.str (newID flag hash_val))].map
          whereCell) = some conds := by
        refine ⟨[("providingId", newID flag hash_val)], ?_⟩
        rw [List.map_singleton, readCells, whereCell, Value.text,
          readText_plain (plain_newID hplain flag)]
        rfl
      refine (database_agrees (select_agrees hanswers .RegisterList (Or.inr hread))).bind
        fun payload => (Proc.agrees_lift _ _).bind fun v => ?_
      split
      · exact Proc.agrees_pure _ _
      · exact register_genID_agrees hanswers hplain limit (flag + collision_inc)

theorem registerItem_agrees (hanswers : Answers srv) (d : String) {raw : Value}
    (hplain : ∀ item, readItem raw = .ok item → PlainValue item.hash) :
    Proc.Agrees SameTables SameTables (registerItem srv limit d raw) := by
  refine Proc.Agrees.lift_bind (fun item hitem => ?_) fun _ _ h => h
  refine (Proc.agrees_lift _ _).bind fun flag => ?_
  refine Proc.Agrees.lift_bind (fun hash_val hhash => ?_) fun _ _ h => h
  have hhash_plain := hplain item hitem
  rw [Value.asStr_eq_ok.mp hhash] at hhash_plain
  refine Proc.Agrees.bind ?_ fun id => (Proc.agrees_lift _ _).bind fun index =>
    Proc.agrees_pure _ _
  unfold itemID
  split
  · exact register_genID_agrees hanswers hhash_plain limit flag
  · exact Proc.agrees_pure _ _

theorem registerItems_agrees (hanswers : Answers srv) (d : String) :
    ∀ items : List Value,
      (∀ raw ∈ items, ∀ item, readItem raw = .ok item → PlainValue item.hash) →
      Proc.Agrees SameTables SameTables (registerItems srv limit d items)
  | [], _ => Proc.agrees_pure _ _
  | _ :: items, hplain =>
      (registerItem_agrees hanswers d (hplain _ List.mem_cons_self)).bind fun _ =>
        (registerItems_agrees hanswers d items
          fun raw hraw => hplain raw (List.mem_cons_of_mem _ hraw)).bind fun _ =>
            Proc.agrees_pure _ _

/-- The rows of a join have no broken literal under the identifier it got. -/
theorem joinRows_agrees (hanswers : Answers srv) (tempID : String) {kvs : List (String × Value)}
    {d : String} (hwhole : WholeJoin kvs d) :
    Proc.Agrees SameTables SameTables (joinRows srv tempID (.dict kvs) (field kvs "relay") d) := by
  refine Proc.Agrees.lift_bind (fun fs hfs => ?_) fun _ _ h => h
  refine (database_agrees (insert_agrees hanswers .Device (hwhole.devices fs hfs))).bind
    fun _ => (Proc.agrees_lift _ _).bind fun _ => ?_
  refine Proc.Agrees.lift_bind (fun ns hns => ?_) fun _ _ h => h
  exact (database_agrees (insert_agrees hanswers .Neighbor (hwhole.neighbors ns hns))).bind
    fun _ => (Proc.agrees_lift _ _).bind fun _ => Proc.agrees_pure _ _

/-! ## Different caches -/

/-- Two processes on the same tables, each with committed devices in its cache only. -/
structure Twins (srv : Server) (s s' : Store) : Prop where
  tables : SameTables s s'
  left : Sound srv s
  right : Sound srv s'

/-- A cached device is stored. -/
theorem Sound.stored {s : Store} (h : Sound srv s) {d : String}
    (hd : s.deviceID_cache.has d = true) : deviceStored srv s.db d = true := by
  obtain ⟨row, hrow, hcell⟩ := deviceCommitted_eq_true.mp (h.cached d hd)
  exact Server.finds_eq_true.mpr ⟨row, mem_rowsOf.mpr (List.mem_append_left _ hrow), hcell⟩

/-- **The device check passes exactly the stored devices**, cached or not. -/
theorem checkDevice_stored (hanswers : Answers srv) {d : String} (hd : Plain d) {s : Store}
    (h : Sound srv s) :
    (checkDevice srv d s).1.toOption = (if deviceStored srv s.db d then some () else none) := by
  have hcases := checkDevice_cases srv d s
  rw [deviceFound_plain hd] at hcases
  rcases hcases with ⟨hc, hrun⟩ | ⟨_, hst, _, hrun⟩ | ⟨_, hno, e, hrun⟩
  · rw [hrun, h.stored hc]
    rfl
  · rw [hrun, hst]
    rfl
  · have hst : deviceStored srv s.db d = false :=
      hno.resolve_right fun hrefused => hrefused (hanswers _ _)
    rw [hrun, hst]
    rfl

theorem checkDevice_agrees (hanswers : Answers srv) {d : String} (hd : Plain d) :
    Proc.Agrees (Twins srv) (Twins srv) (checkDevice srv d) := by
  intro s s' h
  have hplain : ∀ x, x = d → Plain x := fun x heq => heq ▸ hd
  have hmark := checkDevice_marked srv d s
  have hmark' := checkDevice_marked srv d s'
  refine ⟨?_, ?_, h.left.marked hmark hplain, h.right.marked hmark' hplain⟩
  · rw [checkDevice_stored hanswers hd h.left, checkDevice_stored hanswers hd h.right,
      deviceStored_congr h.tables]
  · rw [SameTables, SameLog, hmark.log, hmark'.log]
    exact h.tables

theorem speaker_agrees (hanswers : Answers srv) {tempID : String} {relay : Value}
    (hname : ∀ d, deviceOf tempID relay = .ok (.str d) → Plain d) :
    Proc.Agrees (Twins srv) (Twins srv) (speaker srv tempID relay) := by
  refine Proc.Agrees.lift_bind (fun v hv => ?_) fun _ _ h => h
  refine Proc.Agrees.lift_bind (fun d hd => ?_) fun _ _ h => h
  rw [Value.asStr_eq_ok.mp hd] at hv
  exact (checkDevice_agrees hanswers (hname d hv)).bind fun _ => Proc.agrees_pure _ _

/-- Behind the head of a handler nothing looks at the cache. -/
theorem speaker_tables (hanswers : Answers srv) {tempID : String} {relay : Value}
    (hname : ∀ d, deviceOf tempID relay = .ok (.str d) → Plain d) :
    Proc.Agrees (Twins srv) SameTables (speaker srv tempID relay) :=
  (speaker_agrees hanswers hname).mono (fun _ _ h => h) fun _ _ h => h.tables

/-- No more candidates are stored than there are devices. -/
theorem count_stored_le (htells : TellsNumbers srv) (base : String) (s : Store) (k : Nat) :
    Nat.count (fun i => storedCandidate srv base 0 s i = true) k ≤ (s.db.rows .Device).length := by
  have htakes : ∀ i, storedCandidate srv base 0 s i = (s.db.rows .Device).any
      (fun r => srv.hasCell .Device r "deviceId" (candidate base 0 i)) := fun _ => rfl
  simp only [htakes]
  refine @Search.count_taken_le _
    (fun r i => srv.hasCell .Device r "deviceId" (candidate base 0 i)) _ ?_ k
  intro r _ i j hi hj
  unfold Server.hasCell at hi hj
  cases hcell : Tuple.cell .Device r "deviceId" with
  | none => rw [hcell] at hi; exact absurd hi (by simp)
  | some v =>
    rw [hcell] at hi hj
    have hflag := htells base _ _ (srv.same_trans _ _ _ (srv.same_symm _ _ hi) hj)
    unfold collision_inc at hflag
    omega

/-- **A join reaches the first candidate that is not stored**, whatever is cached, if the
interpreter allows more calls than there are devices. -/
theorem reaches_stored (hanswers : Answers srv) (htells : TellsNumbers srv) (base : String)
    {s : Store} (h : Sound srv s) (hroom : (s.db.rows .Device).length < limit) :
    ∃ k, IsLeast {i | storedCandidate srv base 0 s i = false} k ∧ Reaches srv base 0 limit s k := by
  -- a candidate that is not stored is not cached either
  have hfree : {i | FreeCandidate srv base 0 s i} =
      {i | storedCandidate srv base 0 s i = false} := by
    ext i
    refine ⟨fun hi => hi.2, fun hi => ⟨?_, hi⟩⟩
    by_contra hc
    have hst : storedCandidate srv base 0 s i = true :=
      h.stored (Bool.eq_true_of_not_eq_false hc)
    rw [show storedCandidate srv base 0 s i = false from hi] at hst
    exact absurd hst (by simp)
  obtain ⟨k, hk⟩ := exists_freeCandidate htells base 0 s
  have hpassed : ∀ j, j < k → storedCandidate srv base 0 s j = true := by
    intro j hj
    by_contra hst
    have hmem : j ∈ {i | FreeCandidate srv base 0 s i} := by
      rw [hfree]
      exact Bool.eq_false_iff.mpr hst
    exact absurd (hk.2 hmem) (Nat.not_le_of_lt hj)
  have hprobes : Search.probes (cachedCandidate base 0 s) k ≤ (s.db.rows .Device).length := by
    refine le_trans ?_ (count_stored_le htells base s k)
    exact Nat.count_mono_left fun j hj _ => hpassed j hj
  exact ⟨k, hfree ▸ hk, hk, fun _ _ _ => hanswers _ _, by omega⟩

/-- Two processes with room for one more device. -/
structure Roomy (srv : Server) (limit : Nat) (s s' : Store) : Prop extends Twins srv s s' where
  room : (s.db.rows .Device).length < limit

/-- Both reach the same candidate. -/
theorem Roomy.reaches (hanswers : Answers srv) (htells : TellsNumbers srv) (base : String)
    {s s' : Store} (h : Roomy srv limit s s') :
    ∃ k, Reaches srv base 0 limit s k ∧ Reaches srv base 0 limit s' k := by
  have hroom' : (s'.db.rows .Device).length < limit := by
    rw [SameLog.rows h.tables]
    exact h.room
  obtain ⟨k, hk, hreaches⟩ := reaches_stored hanswers htells base h.left h.room
  obtain ⟨k', hk', hreaches'⟩ := reaches_stored hanswers htells base h.right hroom'
  have hsame : storedCandidate srv base 0 s' = storedCandidate srv base 0 s :=
    funext fun i => deviceStored_congr h.tables _
  rw [hsame] at hk'
  obtain rfl : k' = k := hk'.unique hk
  exact ⟨k', hreaches, hreaches'⟩

theorem join_genID_agrees (hanswers : Answers srv) (htells : TellsNumbers srv) {base : String}
    (hbase : Plain base) :
    Proc.Agrees (Roomy srv limit) SameTables (join_genID srv limit base 0) := by
  intro s s' h
  obtain ⟨k, hreaches, hreaches'⟩ := h.reaches hanswers htells base
  have hres := (generates_iff hbase).mpr ⟨k, hreaches, rfl⟩
  have hres' := (generates_iff hbase).mpr ⟨k, hreaches', rfl⟩
  refine ⟨by rw [hres, hres'], ?_⟩
  rw [SameTables, SameLog, join_genID_log, join_genID_log]
  exact h.tables

/-- The request has plain texts, and is quoted well. -/
structure PlainQuoted (r : Request) : Prop where
  plain : PlainRequest r
  quoted : WellQuoted r

/-- The request has plain texts, is quoted well, and a join stores its device. -/
structure StoresPlain (srv : Server) (limit : Nat) (m : Manager) (r : Request) : Prop
    extends PlainQuoted r where
  stores : JoinStores srv limit m r

theorem StoresPlain.keepsSound {m : Manager} {r : Request} (h : StoresPlain srv limit m r) :
    KeepsSound srv limit m r := ⟨h.plain.named, h.quoted, h.stores⟩

/-- **A handler ends alike in two processes on the same tables**, whatever they have cached. -/
theorem bodyOf_agrees (hanswers : Answers srv) (htells : TellsNumbers srv) {op : Op}
    {tempID : String} {kvs : List (String × Value)} (hr : PlainQuoted ⟨op, tempID, .dict kvs⟩) :
    Proc.Agrees (Roomy srv limit) SameTables (bodyOf srv limit op tempID kvs) := by
  have htwins : ∀ s s', Roomy srv limit s s' → Twins srv s s' := fun _ _ h => h.toTwins
  have htables : ∀ s s', Roomy srv limit s s' → SameTables s s' := fun _ _ h => h.tables
  have hname : ∀ d, deviceOf tempID (field kvs "relay") = .ok (.str d) → Plain d :=
    fun d hd => hr.plain.named kvs d rfl hd
  have hhead : Proc.Agrees (Roomy srv limit) SameTables
      (speaker srv tempID (field kvs "relay")) :=
    (speaker_tables hanswers hname).mono htwins fun _ _ h => h
  cases op with
  | join =>
    refine Proc.Agrees.lift_bind (fun v hv => ?_) htables
    refine Proc.Agrees.lift_bind (fun base hbase => ?_) htables
    rw [Value.asStr_eq_ok.mp hbase] at hv
    obtain ⟨hplain, hwhole⟩ := hr.quoted kvs base rfl hv
    refine (join_genID_agrees hanswers htells hplain).bind_returned (fun d hd => ?_) fun _ _ h => h
    obtain ⟨s, t, hgen⟩ := hd
    obtain ⟨⟨flag, rfl⟩, _⟩ := join_genID_ok hgen
    exact joinRows_agrees hanswers tempID (hwhole flag)
  | leave =>
    intro s s' h
    obtain ⟨e, hrun⟩ := leaveBody_error srv tempID (field kvs "relay") s
    obtain ⟨e', hrun'⟩ := leaveBody_error srv tempID (field kvs "relay") s'
    rw [bodyOf, hrun, hrun']
    exact ⟨rfl, h.tables⟩
  | register =>
    have hvalues : PlainRegister kvs := hr.plain.values kvs rfl
    have hentries : Proc.Agrees (Roomy srv limit) SameTables
        (registerEntries srv limit tempID (.dict kvs) (field kvs "relay")) := by
      refine hhead.bind fun d => ?_
      refine Proc.Agrees.lift_bind (fun list hlist => ?_) fun _ _ h => h
      obtain rfl : field kvs "registerList" = list := Except.ok.inj hlist
      refine Proc.Agrees.lift_bind (fun items hitems => ?_) fun _ _ h => h
      exact registerItems_agrees hanswers d items
        fun raw hraw item hread => (hvalues items hitems raw hraw item hread).1
    refine hentries.bind_returned (fun entries hreturned => ?_) fun _ _ h => h
    obtain ⟨s, t, hrun⟩ := hreturned
    obtain ⟨d, items, hdev, hiter, hbuilds⟩ := registerEntries_builds hrun
    have hwhole : ∀ f ∈ entries.map Prod.snd, Whole f := by
      intro f hf
      obtain ⟨e, he, rfl⟩ := List.mem_map.mp hf
      obtain ⟨raw, hraw, hbuild⟩ := exists_of_forall₂ hbuilds he
      cases hbuild with
      | item k hreads =>
        exact (hvalues.row (hname d hdev) hiter hraw hreads.read hreads.hash _).whole
    exact (database_agrees (insert_agrees hanswers .RegisterList hwhole)).bind fun _ =>
      (Proc.agrees_lift _ _).bind fun _ => Proc.agrees_pure _ _
  | update =>
    intro s s' h
    obtain ⟨e, t, hrun, hmark⟩ := updateBody_error srv tempID (.dict kvs) (field kvs "relay")
      (field kvs "updateID") s
    obtain ⟨e', t', hrun', hmark'⟩ := updateBody_error srv tempID (.dict kvs)
      (field kvs "relay") (field kvs "updateID") s'
    rw [bodyOf, hrun, hrun']
    refine ⟨rfl, ?_⟩
    rw [SameTables, SameLog, hmark.log, hmark'.log]
    exact h.tables
  | query =>
    refine hhead.bind_returned (fun d hreturned => ?_) fun _ _ h => h
    obtain ⟨s, t, hrun⟩ := hreturned
    have hwhole : WholeQuery kvs := hr.quoted kvs d rfl (speaker_ok hrun).1
    have hselect := @select_agrees srv hanswers .RegisterList
      [("queryType", field kvs "queryType"), ("category", field kvs "category"),
        ("requirements", field kvs "requirements")] hwhole
    refine Proc.Agrees.lift_bind (fun queryType htype => ?_) fun _ _ h => h
    refine Proc.Agrees.lift_bind (fun category hcategory => ?_) fun _ _ h => h
    refine (Proc.agrees_lift _ _).bind fun desc => ?_
    refine Proc.Agrees.lift_bind (fun requirements hrequirements => ?_) fun _ _ h => h
    obtain rfl : field kvs "queryType" = queryType := Except.ok.inj htype
    obtain rfl : field kvs "category" = category := Except.ok.inj hcategory
    obtain rfl : field kvs "requirements" = requirements := Except.ok.inj hrequirements
    exact (Proc.agrees_lift _ _).bind fun _ => (Proc.agrees_lift _ _).bind fun _ =>
      (Proc.agrees_lift _ _).bind fun _ => (database_agrees hselect).bind fun _ =>
        (Proc.agrees_lift _ _).bind fun _ => Proc.agrees_pure _ _

/-! ## One request -/

theorem reply_congr {body : Proc Exc Store Message} {failure : Message} {s s' : Store}
    (h : (body s).1.toOption = (body s').1.toOption) :
    reply body failure s = reply body failure s' := by
  unfold reply
  cases hres : (body s).1 with
  | ok msg =>
    rw [hres] at h
    cases hres' : (body s').1 with
    | ok msg' => rw [hres'] at h; exact Option.some.inj h
    | error e => rw [hres'] at h; exact absurd h (by simp [Except.toOption])
  | error e =>
    rw [hres] at h
    cases hres' : (body s').1 with
    | ok msg' => rw [hres'] at h; exact absurd h (by simp [Except.toOption])
    | error e' => rfl

/-- Two processes that published the same and stand on the same tables. -/
structure Alike (srv : Server) (m m' : Manager) : Prop where
  published : m'.published = m.published
  twins : Twins srv m.store m'.store

/-- A join that stores its device in one process does in the other. -/
theorem joinStores_agrees (hanswers : Answers srv) (htells : TellsNumbers srv) {m m' : Manager}
    (h : Roomy srv limit m.store m'.store) {r : Request} (hr : JoinStores srv limit m r) :
    JoinStores srv limit m' r := by
  intro kvs base hop hpayload hbase
  obtain ⟨k, f, row, hreaches, hinfo, hrow, _⟩ := hr kvs base hop hpayload hbase
  obtain ⟨k', hreaches', hother⟩ := h.reaches hanswers htells base
  obtain rfl : k' = k := hreaches'.least.unique hreaches.least
  exact ⟨k', f, row, hother, hinfo, hrow, unrefused_of_taken (fun _ _ _ _ _ => hanswers _ _) _⟩

/-- **One request is answered alike**, and leaves two such processes. -/
theorem step_alike (hanswers : Answers srv) (htells : TellsNumbers srv) {m m' : Manager}
    (h : Alike srv m m') (hroom : (m.store.db.rows .Device).length < limit) {r : Request}
    (hr : StoresPlain srv limit m r) :
    Alike srv (step srv limit m r) (step srv limit m' r) := by
  have hroomy : Roomy srv limit m.store m'.store := ⟨h.twins, hroom⟩
  have hr' : StoresPlain srv limit m' r :=
    ⟨hr.toPlainQuoted, joinStores_agrees hanswers htells hroomy hr.stores⟩
  have hleft := sound_step h.twins.left hr.keepsSound
  have hright := sound_step h.twins.right hr'.keepsSound
  obtain ⟨op, tempID, payload⟩ := r
  by_cases hdict : payload.IsDict
  · obtain ⟨kvs, rfl⟩ := hdict
    obtain ⟨hres, htables⟩ :=
      bodyOf_agrees hanswers htells hr.toPlainQuoted m.store m'.store hroomy
    rw [step_dict srv limit] at hleft hright ⊢
    rw [step_dict srv limit]
    refine ⟨?_, htables, hleft, hright⟩
    rw [h.published, reply_congr hres]
  · rw [step_not_dict hdict, step_not_dict hdict]
    exact h

/-! ## Runs with restarts -/

/-- The requests of some events. -/
def requests (es : List Event) : List Request :=
  es.filterMap fun e => match e with
    | .handled r => some r
    | _ => none

/-- A process that is started again is sound. -/
theorem sound_restart (m : Manager) : Sound srv m.restart.store :=
  ⟨fun d hd => absurd hd (by simp [Manager.restart]),
    fun r hr => absurd hr (by simp [Manager.restart, Database.rollback])⟩

/-- The devices of a run are those it started with, and more. -/
theorem rows_le_run (m : Manager) (rs : List Request) (t : Table) :
    (m.store.db.rows t).length ≤ ((run srv limit m rs).store.db.rows t).length := by
  obtain ⟨new, hall, _⟩ := (@run_extends srv limit m rs).all
  have hall : (run srv limit m rs).store.db.log.all = m.store.db.log.all ++ new := hall
  rw [Database.rows, Database.rows, hall, rowsOf_append, List.length_append]
  omega

/-- At every restart nothing is pending: no insertion was refused halfway since the last commit. -/
def CleanRestarts (srv : Server) (limit : Nat) (m : Manager) (es : List Event) : Prop :=
  ∀ before after, es = before ++ .killed :: after →
    (run srv limit m (requests before)).log.pending = []

/-- Two such processes stay alike, though the one is started again now and then. -/
theorem lives_alike (hanswers : Answers srv) (htells : TellsNumbers srv) {es : List Event}
    (hbetween : ∀ e ∈ es, ∀ r n, e ≠ .died r n) {m m' : Manager} (h : Alike srv m m')
    (hclean : CleanRestarts srv limit m es)
    (hstores : Machine.Along (step srv limit) (StoresPlain srv limit) m (requests es))
    (hroom : ((run srv limit m (requests es)).store.db.rows .Device).length < limit) :
    Alike srv (run srv limit m (requests es)) (lives srv limit m' es) := by
  induction es generalizing m m' with
  | nil => exact h
  | cons e es ih =>
    have hbetween' : ∀ e ∈ es, ∀ r n, e ≠ .died r n :=
      fun e he => hbetween e (List.mem_cons_of_mem _ he)
    cases e with
    | handled r =>
      have hnow : (m.store.db.rows .Device).length < limit :=
        lt_of_le_of_lt (rows_le_run m (requests (.handled r :: es)) .Device) hroom
      refine ih hbetween' (step_alike hanswers htells h hnow hstores.1) ?_ hstores.2 hroom
      intro before after heq
      exact hclean (.handled r :: before) after (by rw [heq]; rfl)
    | died r n => exact absurd rfl (hbetween _ List.mem_cons_self r n)
    | killed =>
      -- nothing was pending, so the tables are as they were
      have hpending : m.store.db.log.pending = [] := hclean [] es rfl
      have hlog : m'.store.db.log = m.store.db.log := h.twins.tables
      have hrestart : m'.restart.store.db.log = m.store.db.log := by
        show m'.store.db.log.rollback = m.store.db.log
        rw [hlog, TxLog.rollback, ← hpending]
      refine ih hbetween' ⟨h.published, hrestart, h.twins.left, sound_restart m'⟩ ?_ hstores hroom
      intro before after heq
      exact hclean (.killed :: before) after (by rw [heq]; rfl)

/-- **Restarts between requests are not noticed.**

The server answers every statement and tells numbers apart, the requests are of plain texts, and
every join stores its device. Then a process that is started again as often as one likes, whenever
nothing is pending, publishes what one process would have published for the same requests, and
leaves the same rows: `deviceID_cache` saves selections, and decides nothing. -/
theorem restarts_invisible (hanswers : Answers srv) (htells : TellsNumbers srv)
    (tables : List (Table × Tuple)) (executed : Nat) (es : List Event)
    (hbetween : ∀ e ∈ es, ∀ r n, e ≠ .died r n)
    (hclean : CleanRestarts srv limit (start tables executed) es)
    (hstores : Machine.Along (step srv limit) (StoresPlain srv limit) (start tables executed)
      (requests es))
    (hroom : ((run srv limit (start tables executed) (requests es)).store.db.rows
      .Device).length < limit) :
    (lives srv limit (start tables executed) es).published =
        (run srv limit (start tables executed) (requests es)).published ∧
      (lives srv limit (start tables executed) es).log =
        (run srv limit (start tables executed) (requests es)).log := by
  have hstart : Alike srv (start tables executed) (start tables executed) :=
    ⟨rfl, rfl, sound_start tables executed, sound_start tables executed⟩
  have hend := lives_alike hanswers htells hbetween hstart hclean hstores hroom
  exact ⟨hend.published, hend.twins.tables⟩

/-- The device joins, the process is started again, and the device registers something. -/
theorem restarts_invisible_register :
    (lives Server.exact 10 (start [] 0)
          [.handled ⟨.join, "t", .dict oneInterface⟩, .killed, .handled registerHash]).published =
        (run Server.exact 10 (start [] 0)
          [⟨.join, "t", .dict oneInterface⟩, registerHash]).published ∧
      (lives Server.exact 10 (start [] 0)
          [.handled ⟨.join, "t", .dict oneInterface⟩, .killed, .handled registerHash]).log =
        (run Server.exact 10 (start [] 0)
          [⟨.join, "t", .dict oneInterface⟩, registerHash]).log := by
  have hjoins : PlainJoin oneInterface := by decide
  have hjoin : StoresPlain Server.exact 10 (start [] 0) ⟨.join, "t", .dict oneInterface⟩ := by
    refine ⟨⟨hjoins.request (by decide), hjoins.wellQuoted (by decide)⟩, ?_⟩
    intro kvs base _ hkvs hbase
    obtain rfl := Value.dict.inj hkvs
    obtain rfl := Value.str.inj (Except.ok.inj hbase)
    exact ⟨0, _, _, ⟨⟨⟨rfl, rfl⟩, fun i _ => Nat.zero_le i⟩, fun _ _ _ => rfl, by decide⟩, rfl,
      rfl, fun _ _ => rfl, trivial⟩
  have hregister : ∀ m, StoresPlain Server.exact 10 m registerHash := by
    intro m
    have hplain : PlainRegister [("relay", .str "none"), ("registerList",
      .list [.dict [("index", .str "i"), ("hash", .str "h"), ("attributes", .list [])]])] := by
        decide
    refine ⟨⟨hplain.request (by decide), hplain.wellQuoted (by decide)⟩, ?_⟩
    exact fun _ _ hop => absurd hop (by decide)
  have hclean : CleanRestarts Server.exact 10 (start [] 0)
      [.handled ⟨.join, "t", .dict oneInterface⟩, .killed, .handled registerHash] := by
    intro before after heq
    -- the restart is the second event
    rcases before with _ | ⟨e1, _ | ⟨e2, _ | ⟨e3, before⟩⟩⟩
    · exact absurd heq (by simp)
    · obtain ⟨rfl, _⟩ := List.cons.inj heq
      rfl
    · exact absurd heq (by simp)
    · exact absurd heq (by simp)
  have hanswers : Answers Server.exact := fun _ _ => rfl
  have htells : TellsNumbers Server.exact :=
    tellsNumbers_exact fun a b h => by simpa [Server.exact] using h
  exact restarts_invisible hanswers htells [] 0
    [.handled ⟨.join, "t", .dict oneInterface⟩, .killed, .handled registerHash]
    (by simp) hclean ⟨hjoin, hregister _, trivial⟩ (by decide)

end Versatile.FlexIDMngerDb
