import Versatile.FlexIDMngerDb.FirstFree
import Versatile.FlexIDMngerDb.Plain

/-!
# Are the cached devices of `flexIDMnger_db.py` stored?

The cache should know only devices of `Device`, because a cached device is let in without a
selection. `join_genID` writes it before the device is stored, and nothing takes the key out
again when the join fails behind it; and the key is the text pasted, not the one the server reads.
What the code does keep is `Sound`, in every run of well quoted requests from devices with plain
names in which each join finds a free identifier and has one interface that is not refused.

The invariant carries a second part, that no device is pending: a device seen by a selection
is committed then, and the selections of the handlers are what fills the cache.
-/

namespace Versatile.FlexIDMngerDb

open Py

variable {srv : Server} {limit : Nat}

/-- Is a device with this identifier committed? -/
def deviceCommitted (srv : Server) (db : Database) (d : String) : Bool :=
  (db.committedRows .Device).any (srv.hasCell .Device · "deviceId" d)

/-- **Every key of the cache is the `deviceId` of a committed row of `Device`.** -/
def CacheSound (srv : Server) (s : Store) : Prop :=
  ∀ d, s.deviceID_cache.has d = true → deviceCommitted srv s.db d = true

/-- The invariant: the cache is sound, and no device is pending. -/
structure Sound (srv : Server) (s : Store) : Prop where
  cached : CacheSound srv s
  settled : ∀ r, (Table.Device, r) ∉ s.db.log.pending

/-! ## Committed devices -/

theorem deviceCommitted_eq_true {db : Database} {d : String} :
    deviceCommitted srv db d = true ↔
      ∃ r, (Table.Device, r) ∈ db.log.committed ∧ srv.hasCell .Device r "deviceId" d = true := by
  simp [deviceCommitted, Database.committedRows, mem_rowsOf]

/-- A committed device stays committed. -/
theorem deviceCommitted_mono {P : Table × Tuple → Prop} {db db' : Database}
    (h : TxLog.Extends P db.log db'.log) {d : String} (hd : deviceCommitted srv db d = true) :
    deviceCommitted srv db' d = true := by
  obtain ⟨r, hr, hcell⟩ := deviceCommitted_eq_true.mp hd
  exact deviceCommitted_eq_true.mpr ⟨r, h.committed.subset hr, hcell⟩

/-- With no device pending, a device that is seen is committed. -/
theorem deviceCommitted_of_stored {db : Database} {d : String}
    (hset : ∀ r, (Table.Device, r) ∉ db.log.pending) (h : deviceStored srv db d = true) :
    deviceCommitted srv db d = true := by
  obtain ⟨r, hr, hcell⟩ := Server.finds_eq_true.mp h
  rcases List.mem_append.mp (mem_rowsOf.mp hr) with hc | hp
  · exact deviceCommitted_eq_true.mpr ⟨r, hc, hcell⟩
  · exact absurd hp (hset r)

/-- A commit makes what is seen committed. -/
theorem deviceCommitted_commit {db : Database} {d : String} (h : deviceStored srv db d = true) :
    deviceCommitted srv db.commit d = true := by
  obtain ⟨r, hr, hcell⟩ := Server.finds_eq_true.mp h
  exact deviceCommitted_eq_true.mpr ⟨r, mem_rowsOf.mp hr, hcell⟩

/-- Insertions into another table leave no device pending. -/
theorem insertRows_settled {t : Table} (ht : t ≠ .Device) {fs : List Fields} {db db' : Database}
    {r : Except Exc Unit} (h : insertRows srv t fs db = (r, db'))
    (hset : ∀ r, (Table.Device, r) ∉ db.log.pending) :
    ∀ r, (Table.Device, r) ∉ db'.log.pending := by
  obtain ⟨rows, happ⟩ := insertRows_appended srv t fs db
  rw [h] at happ
  intro r hr
  rw [happ.pending] at hr
  rcases List.mem_append.mp hr with hr | hr
  · exact hset r hr
  · obtain ⟨_, _, heq⟩ := List.mem_map.mp hr
    exact ht (congrArg Prod.fst heq)

/-! ## One request -/

/-- Passing over plain candidates keeps the cache sound: a key that is new was found by a
selection. -/
theorem Sound.marked {asked : String → Prop} {s s' : Store} (h : Sound srv s)
    (hm : Marked srv asked s s') (hplain : ∀ x, asked x → Plain x) : Sound srv s' where
  cached := by
    intro d hd
    rw [deviceCommitted, Database.committedRows, hm.log]
    rcases hm.only d hd with hd | ⟨hasked, n, hd⟩
    · exact h.cached d hd
    · rw [deviceFound_plain (hplain d hasked)] at hd
      exact deviceCommitted_of_stored h.settled hd
  settled := by rw [hm.log]; exact h.settled

/-- The log moves on without a device, the cache stays. -/
theorem Sound.writes {P : Table × Tuple → Prop} {s : Store} {db : Database} (h : Sound srv s)
    (hext : TxLog.Extends P s.db.log db.log) (hset : ∀ r, (Table.Device, r) ∉ db.log.pending) :
    Sound srv ⟨s.deviceID_cache, db⟩ :=
  ⟨fun d hd => deviceCommitted_mono hext (h.cached d hd), hset⟩

/-- A join that names its device finds a free candidate for it, and has one interface, with a row
that the server does not refuse. -/
def JoinStores (srv : Server) (limit : Nat) (m : Manager) (r : Request) : Prop :=
  ∀ kvs base, r.op = .join → r.payload = .dict kvs →
    deviceOf r.tempID (field kvs "relay") = .ok (.str base) →
    ∃ k f row, Reaches srv base 0 limit m.store k ∧
      infoList (.dict kvs) (field kvs "relay") (candidate base 0 k) = .ok [f] ∧
      tupleOf f = .ok row ∧ Unrefused srv .Device (askedAt base 0 m.store k + 1) [f]

/-- The condition on a request: its device has a plain name, it is quoted well, and a join stores
its device. -/
structure KeepsSound (srv : Server) (limit : Nat) (m : Manager) (r : Request) : Prop where
  named : PlainName r
  quoted : WellQuoted r
  stores : JoinStores srv limit m r

/-- A join that stores its device gets its first free candidate, and its row is taken. -/
theorem JoinStores.inserted {m : Manager} {tempID base : String} {kvs : List (String × Value)}
    (h : JoinStores srv limit m ⟨.join, tempID, .dict kvs⟩)
    (hbase : deviceOf tempID (field kvs "relay") = .ok (.str base)) (hplain : Plain base) :
    ∃ d s1 f db1, join_genID srv limit base 0 m.store = (.ok d, s1) ∧
      infoList (.dict kvs) (field kvs "relay") d = .ok [f] ∧ Whole f ∧
      insertRow srv .Device f s1.db = (.ok (), db1) := by
  obtain ⟨k, f, row, hreaches, hinfo, hrow, hnone⟩ := h kvs base rfl rfl hbase
  have hok := (generates_iff hplain).mpr ⟨k, hreaches, rfl⟩
  rcases hgen : join_genID srv limit base 0 m.store with ⟨r, s1⟩
  rw [hgen] at hok
  obtain rfl : r = .ok (candidate base 0 k) := hok
  obtain ⟨hd, hst, _, hlog, _⟩ := join_genID_plain hplain hgen
  rw [← (generated_marks hplain hreaches hgen).executed] at hnone
  have hwhole := whole_of_tupleOf hrow
  have hfits := fits_first hd ((deviceStored_congr hlog _).trans hst) hinfo hrow
  obtain ⟨db1, hf⟩ := (insertRow_iff_fits hwhole).mpr ⟨row, hrow, hnone, hfits⟩
  exact ⟨_, s1, f, db1, rfl, hinfo, hwhole, hf⟩

/-- **The rows of a join** that stores its device leave the cache sound. -/
theorem joinRows_sound {tempID d : String} {payload relay : Value} {s s1 : Store} {f : Fields}
    {db1 : Database} (h : Sound srv s) {base : String} (hplain : Plain base)
    (hgen : join_genID srv limit base 0 s = (.ok d, s1))
    (hinfo : infoList payload relay d = .ok [f]) (hwhole : Whole f)
    (hf : insertRow srv .Device f s1.db = (.ok (), db1)) :
    Sound srv (joinRows srv tempID payload relay d s1).2 := by
  obtain ⟨hd, _, _, hlog, honly⟩ := join_genID_plain hplain hgen
  have hfs : insertRows srv .Device [f] s1.db = (.ok (), db1) :=
    insertRows_cons_eq_ok.mpr ⟨db1, hf, rfl⟩
  have hdev := infoList_deviceId hinfo (List.mem_singleton_self f)
  -- once the interface row is committed, all keys of the cache are
  have hsound : Sound srv ⟨s1.deviceID_cache, db1.commit⟩ := by
    refine ⟨?_, by simp⟩
    intro x hx
    have hext : TxLog.Extends (fun _ => True) s.db.log db1.commit.log := by
      rw [← hlog]
      exact ((insertRows_writes .join rfl hfs).trans (TxLog.extends_commit _ _)).mono
        fun _ _ => trivial
    rcases honly x hx with rfl | hx | hx
    · exact deviceCommitted_commit (insertRow_device_stored hwhole hd hdev hf)
    · exact deviceCommitted_mono hext (h.cached x hx)
    · exact deviceCommitted_mono hext (deviceCommitted_of_stored h.settled hx)
  have hends := joinRows_ends srv tempID payload relay d s1
  generalize joinRows srv tempID payload relay d s1 = res at hends
  cases hends with
  | badInfo hinfo' => exact absurd (hinfo.symm.trans hinfo') (by simp)
  | deviceRefused hinfo' hdev' =>
    obtain rfl : [f] = _ := by simpa using hinfo.symm.trans hinfo'
    exact absurd (congrArg Prod.fst (hfs.symm.trans hdev')) (by simp)
  | badNeighbor hinfo' hdev' =>
    obtain rfl : [f] = _ := by simpa using hinfo.symm.trans hinfo'
    obtain rfl : db1 = _ := congrArg Prod.snd (hfs.symm.trans hdev')
    exact hsound
  | neighborRefused hinfo' hdev' _ hins =>
    obtain rfl : [f] = _ := by simpa using hinfo.symm.trans hinfo'
    obtain rfl : db1 = _ := congrArg Prod.snd (hfs.symm.trans hdev')
    exact hsound.writes (insertRows_writes .join rfl hins)
      (insertRows_settled (by decide) hins hsound.settled)
  | joined hinfo' hdev' _ hins =>
    obtain rfl : [f] = _ := by simpa using hinfo.symm.trans hinfo'
    obtain rfl : db1 = _ := congrArg Prod.snd (hfs.symm.trans hdev')
    exact hsound.writes ((insertRows_writes .join rfl hins).trans (TxLog.extends_commit _ _))
      (by simp)

/-- **Preserved by every request** that meets the condition. -/
theorem sound_step {m : Manager} {r : Request} (h : Sound srv m.store)
    (hr : KeepsSound srv limit m r) : Sound srv (step srv limit m r).store := by
  obtain ⟨op, tempID, payload⟩ := r
  by_cases hdict : payload.IsDict
  · obtain ⟨kvs, rfl⟩ := hdict
    have hnamed : ∀ x, NamedBy tempID (field kvs "relay") x → Plain x :=
      fun x hx => hr.named kvs x rfl hx
    rw [step_dict srv limit]
    cases op with
    | join =>
      rw [bodyOf]
      rcases joinBody_cases srv limit tempID (.dict kvs) (field kvs "relay")
        m.store with ⟨_, e, hb⟩ | ⟨base, hbase, hb⟩
      · rw [hb]; exact h
      · -- the condition of the run: this join has its one row to store
        have hplain := hnamed base hbase
        obtain ⟨d, s1, f, db1, hgen, hinfo, hwhole, hf⟩ := hr.stores.inserted hbase hplain
        rcases hb with ⟨e, s', hgen', _⟩ | ⟨d', s', hgen', hb⟩
        · exact absurd (congrArg Prod.fst (hgen.symm.trans hgen')) (by simp)
        · obtain ⟨rfl, rfl⟩ : d = d' ∧ s1 = s' := by simpa using hgen.symm.trans hgen'
          rw [hb]
          exact joinRows_sound h hplain hgen hinfo hwhole hf
    | leave =>
      obtain ⟨e, hb⟩ := leaveBody_error srv tempID (field kvs "relay") m.store
      rw [bodyOf, hb]; exact h
    | register =>
      have hmark := registerEntries_marked srv limit tempID (.dict kvs)
        (field kvs "relay") m.store
      have hends := registerBody_ends srv limit tempID (.dict kvs)
        (field kvs "relay") (field kvs "registerID") m.store
      rw [bodyOf]
      generalize registerBody srv limit tempID (.dict kvs) (field kvs "relay")
        (field kvs "registerID") m.store = res at hends
      cases hends with
      | stopped hentries => rw [hentries] at hmark; exact h.marked hmark hnamed
      | refused hentries hins =>
        rw [hentries] at hmark
        have h1 := h.marked hmark hnamed
        exact h1.writes (insertRows_writes .register rfl hins)
          (insertRows_settled (by decide) hins h1.settled)
      | registered hentries hins =>
        rw [hentries] at hmark
        exact (h.marked hmark hnamed).writes
          ((insertRows_writes .register rfl hins).trans (TxLog.extends_commit _ _)) (by simp)
    | update =>
      obtain ⟨e, s', hb, hmark⟩ := updateBody_error srv tempID (.dict kvs)
        (field kvs "relay") (field kvs "updateID") m.store
      rw [bodyOf, hb]; exact h.marked hmark hnamed
    | query =>
      obtain ⟨s', hmark, ⟨_, hb⟩ | ⟨_, e, hb⟩⟩ :=
        queryBody_cases srv limit tempID kvs m.store
      · rw [hb]; exact h.marked hmark hnamed
      · rw [hb]; exact h.marked hmark hnamed
  · rw [step_not_dict hdict]; exact h

/-! ## Runs -/

theorem sound_start (tables : List (Table × Tuple)) (executed : Nat) :
    Sound srv (start tables executed).store :=
  ⟨fun d hd => absurd hd (by simp [start]), fun r hr => absurd hr (by simp [start])⟩

/-- A sound cache lets in only devices that are committed, among those with plain names. -/
theorem Sound.letIn {s : Store} (h : Sound srv s) {tempID d : String} {relay : Value}
    (hd : Plain d) (hin : LetIn srv tempID relay s d) : deviceCommitted srv s.db d = true := by
  rcases hin.2 with hc | ⟨hst, _⟩
  · exact h.cached d hc
  · rw [deviceFound_plain hd] at hst
    exact deviceCommitted_of_stored h.settled hst

/--
**The cache is sound in every run whose devices have plain names and whose joins store them.**

At every point between two requests every cached key is a committed device, and `register`,
`update` and `query` let in no other device with a plain name.
-/
theorem cacheSound_run (tables : List (Table × Tuple)) (executed : Nat)
    {before after : List Request}
    (h : Machine.Along (step srv limit) (KeepsSound srv limit) (start tables executed)
      (before ++ after)) :
    CacheSound srv (run srv limit (start tables executed) before).store ∧
      ∀ tempID relay d, Plain d →
        LetIn srv tempID relay (run srv limit (start tables executed) before).store d →
        deviceCommitted srv (run srv limit (start tables executed) before).store.db d = true := by
  have hstep : ∀ m r, Sound srv m.store → KeepsSound srv limit m r →
      Sound srv (step srv limit m r).store := fun m r hm hr => sound_step hm hr
  have hsound : Sound srv (run srv limit (start tables executed) before).store :=
    @Machine.along_invariant _ _ _ _ (fun m => Sound srv m.store) hstep _ _
      (Machine.along_append.mp h).1 (sound_start tables executed)
  exact ⟨hsound.cached, fun _ _ _ hd hin => hsound.letIn hd hin⟩

/-- A table with the device `0t`. -/
def deviceOnce : List (Table × Tuple) := [(.Device, [("deviceId", "0t")])]

/-- A join of `t` with one interface, whose first candidate is stored, meets the condition. -/
theorem cacheSound_run_oneInterface :
    CacheSound Server.exact
        (run Server.exact 10 (start deviceOnce 0) [⟨.join, "t", .dict oneInterface⟩]).store ∧
      ∀ tempID relay d, Plain d →
        LetIn Server.exact tempID relay
          (run Server.exact 10 (start deviceOnce 0) [⟨.join, "t", .dict oneInterface⟩]).store d →
        deviceCommitted Server.exact
          (run Server.exact 10 (start deviceOnce 0) [⟨.join, "t", .dict oneInterface⟩]).store.db
            d = true := by
  have hrun : Machine.Along (step Server.exact 10) (KeepsSound Server.exact 10) (start deviceOnce 0)
      ([⟨.join, "t", .dict oneInterface⟩] ++ []) := ?_
  · exact cacheSound_run deviceOnce 0 hrun
  have hplain : PlainJoin oneInterface := by decide
  refine ⟨⟨by decide, hplain.wellQuoted (by decide), ?_⟩, trivial⟩
  intro kvs base _ hkvs hbase
  obtain rfl := Value.dict.inj hkvs
  obtain rfl := Value.str.inj (Except.ok.inj hbase)
  refine ⟨1, _, _, ⟨⟨⟨rfl, rfl⟩, fun i hi => ?_⟩, fun _ _ _ => rfl, by decide⟩, rfl, rfl,
    fun _ _ => rfl, trivial⟩
  rcases i with _ | i
  · exact absurd hi.2 (by decide)
  · omega

/-- **A failed join leaves its identifier in the cache**: without interfaces nothing is stored,
and the key stays. -/
theorem not_cacheSound_run :
    ¬ ∀ (tables : List (Table × Tuple)) (executed : Nat) (rs : List Request),
      CacheSound Server.exact (run Server.exact 10 (start tables executed) rs).store := by
  intro h
  have hcached := h [] 0 [⟨.join, "t", .dict [("relay", .str "none")]⟩] "0t" (by decide)
  exact absurd hcached (by decide)

end Versatile.FlexIDMngerDb
