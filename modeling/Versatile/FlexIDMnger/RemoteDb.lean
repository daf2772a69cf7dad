import Versatile.FlexIDMnger.GenID

/-!
# `flexIDMnger.py` as a function of the database

The remote database as a machine of its own, and what a request means to it: the programs
here have the database for their only state, with no cache, no query identifiers and no
answers to wait for. Each part of a handler that does not read `deviceID_cache` refines one of
them, and so does the device check, while the cache only knows devices of the database.
-/

namespace Versatile.FlexIDMnger

open Py

/-- A remote database: it answers each query with an object, and moves on. -/
structure RemoteDb (δ : Type) where
  respond : δ → DbQuery → DbTopic → List (String × Value) × δ
  /-- The devices it contains. -/
  device : δ → String → Bool
  select_keeps : ∀ d q, (respond d q .select).2 = d
  device_data : ∀ d id, (field (respond d (deviceByID id) .select).1 "data").truthy = device d id

variable {ω δ : Type} {env : Env ω} {rdb : RemoteDb δ} {view : ω → δ}

/-- The answers of an environment are those of a database, whose state it views. -/
structure Backed (env : Env ω) (rdb : RemoteDb δ) (view : ω → δ) : Prop where
  answer : ∀ {w w' taken q t n a}, env.exchange w taken q t = some (n, a, w') →
    a = .dict (rdb.respond (view w) q t).1
  moves : ∀ {w w' taken q t n a}, env.exchange w taken q t = some (n, a, w') →
    view w' = (rdb.respond (view w) q t).2

/-- An environment with a database that answers every query. The identifiers count up. -/
def RemoteDb.answering (rdb : RemoteDb δ) : Env (δ × BitVec 32) where
  exchange w taken q t :=
    if queryID w.2 ∈ taken then none
    else some (w.2, .dict (rdb.respond w.1 q t).1, ((rdb.respond w.1 q t).2, w.2 + 1))
  fresh := by
    intro w w' taken q t n a h
    split at h
    · exact absurd h (by simp)
    · rename_i hfree
      obtain ⟨rfl, _⟩ : w.2 = n ∧ _ := by simpa using h
      exact hfree

theorem RemoteDb.answering_backed (rdb : RemoteDb δ) :
    Backed rdb.answering rdb Prod.fst where
  answer := by
    intro w w' taken q t n a h
    obtain ⟨_, h⟩ := Option.ite_none_left_eq_some.mp h
    exact (Prod.mk.inj (Prod.mk.inj (Option.some.inj h)).2).1.symm
  moves := by
    intro w w' taken q t n a h
    obtain ⟨_, h⟩ := Option.ite_none_left_eq_some.mp h
    exact congrArg Prod.fst (Prod.mk.inj (Prod.mk.inj (Option.some.inj h)).2).2.symm

/-- A database of devices: it finds and deletes them by their identifiers. -/
def deviceDb : RemoteDb (List String) where
  respond d q t :=
    match q, t with
    | .onTable .Device [[(_, .str id)]], .select =>
      ([("error", .int 0), ("data", .list (if id ∈ d then [.str id] else []))], d)
    | .onTable .Device [[(_, .str id)]], .delete => ([("error", .int 0)], d.erase id)
    | _, _ => ([("error", .int 0)], d)
  device d id := decide (id ∈ d)
  select_keeps := by
    intro d q
    split <;> first | rfl | contradiction
  device_data := by
    intro d id
    have hdata : ∀ ids, field [("error", .int 0), ("data", .list ids)] "data" = .list ids :=
      fun _ => rfl
    by_cases h : id ∈ d <;> simp [deviceByID, deviceQuery, hdata, Value.truthy, h]

/-! ## Programs on the database -/

/-- A selection. -/
def selectDb (rdb : RemoteDb δ) (q : DbQuery) : Proc Exc δ Value := fun d =>
  (.ok (field (rdb.respond d q .select).1 "data"), (rdb.respond d q .select).2)

/-- A statement whose answer is checked. -/
def changeDb (rdb : RemoteDb δ) (q : DbQuery) (t : DbTopic) (msg : String) : Proc Exc δ Unit :=
  fun d => (checkError (.dict (rdb.respond d q t).1) msg, (rdb.respond d q t).2)

/-- The answer of a statement that went through. -/
def Accepted (a : List (String × Value)) : Prop := (field a "error").isZero = true

theorem checkError_eq_ok {a : List (String × Value)} (msg : String) :
    checkError (.dict a) msg = .ok () ↔ Accepted a := by
  have hcheck : checkError (.dict a) msg =
      if ¬ (field a "error").isZero then .error (.raised msg) else .ok () := rfl
  rw [hcheck, Accepted]
  cases (field a "error").isZero <;> simp

theorem changeDb_eq_ok {q : DbQuery} {t : DbTopic} {msg : String} {d d' : δ} :
    changeDb rdb q t msg d = (.ok (), d') ↔ ∃ a, rdb.respond d q t = (a, d') ∧ Accepted a := by
  rcases hrespond : rdb.respond d q t with ⟨a, d1⟩
  rw [changeDb, hrespond, Prod.mk.injEq, checkError_eq_ok]
  refine ⟨?_, ?_⟩
  · intro h
    obtain ⟨hok, rfl⟩ := h
    exact ⟨a, rfl, hok⟩
  · intro h
    obtain ⟨a', heq, hok⟩ := h
    obtain ⟨rfl, rfl⟩ := Prod.mk.inj heq
    exact ⟨hok, rfl⟩

theorem changeDb_eq_error {q : DbQuery} {t : DbTopic} {msg : String} {d d' : δ} :
    (∃ e, changeDb rdb q t msg d = (.error e, d')) ↔
      ∃ a, rdb.respond d q t = (a, d') ∧ ¬ Accepted a := by
  rcases hrespond : rdb.respond d q t with ⟨a, d1⟩
  rw [changeDb, hrespond]
  refine ⟨?_, ?_⟩
  · intro h
    obtain ⟨e, heq⟩ := h
    obtain ⟨hcheck, rfl⟩ := Prod.mk.inj heq
    refine ⟨a, rfl, fun hok => ?_⟩
    rw [(checkError_eq_ok _).mpr hok] at hcheck; exact absurd hcheck (by simp)
  · intro h
    obtain ⟨a', heq, hno⟩ := h
    obtain ⟨rfl, rfl⟩ := Prod.mk.inj heq
    cases hcheck : checkError (.dict a) msg with
    | ok _ => exact absurd ((checkError_eq_ok _).mp hcheck) hno
    | error e => exact ⟨e, rfl⟩

/-- The rest of a join: its rows. -/
def joinRowsDb (rdb : RemoteDb δ) (tempID : String) (payload relay : Value) (deviceID : String) :
    Proc Exc δ Message := do
  let info_list ← infoList payload relay deviceID
  changeDb rdb (.onTable .Device info_list) .insert "Join DB error"
  let neighbor_list ← neighborList payload deviceID
  changeDb rdb (.onTable .Neighbor neighbor_list) .insert "Join DB error"
  return ⟨"/configuration/join_ack/" ++ tempID,
    .dict [("error:", .int 0), ("id", .str deviceID), ("relay", relay)]⟩

/-- The check that the database contains a device. -/
def checkDeviceDb (rdb : RemoteDb δ) (id : String) : Proc Exc δ Unit := do
  let exist ← selectDb rdb (deviceByID id)
  if ¬ exist.truthy then Proc.raise (.raised "No Device Error") else return ()

/-- The device that speaks, which the database must contain. -/
def speakerDb (rdb : RemoteDb δ) (tempID : String) (relay : Value) : Proc Exc δ String := do
  let deviceID ← deviceOf tempID relay
  let deviceID ← deviceID.asStr
  checkDeviceDb rdb deviceID
  return deviceID

/-- The search for an identifier to register. -/
def register_genIDDb (rdb : RemoteDb δ) : Nat → String → Nat → Proc Exc δ String
  | 0, _, _ => Proc.raise .recursionError
  | limit + 1, hash_val, flag => do
      let exist ← selectDb rdb (providingByID (newID flag hash_val))
      if ¬ exist.truthy then return newID flag hash_val
      else register_genIDDb rdb limit hash_val (flag + collision_inc)

/-- The identifier of one entry of `registerList`. -/
def itemIDDb (rdb : RemoteDb δ) (limit : Nat) (collisionAvoid : Value) (hash_val : String)
    (flag : Nat) : Proc Exc δ String :=
  if collisionAvoid.truthy then register_genIDDb rdb limit hash_val flag
  else pure (newID flag hash_val)

/-- One entry of `registerList`. -/
def registerItemDb (rdb : RemoteDb δ) (limit : Nat) (deviceID : String) (attrList : List Value)
    (item : Value) : Proc Exc δ (Value × Fields × List Value) := do
  let item ← readItem item
  let attrList := attrList ++ item.attributes
  let flag ← gen_flag item.cache item.segment 0
  let hash_val ← item.hash.asStr
  let id ← itemIDDb rdb limit item.collisionAvoid hash_val flag
  let index ← item.index.asStr
  return (.dict [(index, .str id)],
    registerFields deviceID id item (attrList.take item.attributes.length), attrList)

/-- All of them. -/
def registerItemsDb (rdb : RemoteDb δ) (limit : Nat) (deviceID : String) :
    List Value → List Value → Proc Exc δ (List (Value × Fields))
  | _, [] => pure []
  | attrList, item :: items => do
      let entry ← registerItemDb rdb limit deviceID attrList item
      let entries ← registerItemsDb rdb limit deviceID entry.2.2 items
      return (entry.1, entry.2.1) :: entries

/-- A registration. -/
def registerDb (rdb : RemoteDb δ) (limit : Nat) (tempID : String)
    (payload relay registerID : Value) : Proc Exc δ Message := do
  let deviceID ← speakerDb rdb tempID relay
  let registerList ← payload.get "registerList"
  let registerList ← registerList.iter
  let entries ← registerItemsDb rdb limit deviceID [] registerList
  changeDb rdb (.onTable .RegisterList (entries.map Prod.snd)) .insert "Register DB error"
  return ⟨"/configuration/register_ack/" ++ tempID,
    .dict [("error:", .int 0), ("registerID", registerID),
      ("idList", .list (entries.map Prod.fst)), ("relay", relay)]⟩

/-- The change an update asks for. -/
def updateChangeDb (rdb : RemoteDb δ) (payload providingID : Value) : Proc Exc δ Unit := do
  let deregister ← payload.get "deregister"
  if deregister.truthy then
    changeDb rdb (providingQuery providingID) .delete "Update DB error"
  else
    let attributes ← payload.get "attributes"
    let attributes ← attributes.iter
    changeDb rdb
      (.change .RegisterList [attrFields 0 attributes] [[("providingId", providingID)]])
      .update "Update DB error"

/-- An update. -/
def updateDb (rdb : RemoteDb δ) (tempID : String) (payload relay updateID : Value) :
    Proc Exc δ Message := do
  let _ ← speakerDb rdb tempID relay
  let providingID ← payload.get "id"
  let exist ← selectDb rdb .empty
  if ¬ exist.truthy then Proc.raise (.raised "No Content/Service Error")
  else
    updateChangeDb rdb payload providingID
    return ⟨"/configuration/update_ack/" ++ tempID,
      .dict [("error:", .int 0), ("updateID", updateID), ("relay", relay)]⟩

/-! ## What refines them -/

/-- A program of a handler ends as a program on the database does. -/
abbrev RefinesDb {ε α : Type} (env : Env ω) (view : ω → δ) (p : Prog Act Act.Res ε α)
    (f : Proc ε δ α) (s : State ω) : Prop :=
  Prog.Refines (perform env) (fun s => view s.world) p f s

section Refines

variable (hdb : Backed env rdb view)

include hdb

theorem askData_refines (q : DbQuery) (s : State ω) :
    RefinesDb env view (askData q) (selectDb rdb q) s := by
  intro r s' h
  have hrun := runs_askData env q s
  rw [runs, h] at hrun
  rcases hexchange : env.exchange s.world s.dbQuery_cache.keys q .select with _ | ⟨n, a, w⟩
  · rw [hexchange] at hrun; exact absurd hrun (by simp)
  · rw [hexchange, hdb.answer hexchange] at hrun
    obtain ⟨rfl, rfl⟩ := Prod.mk.inj (Option.some.inj hrun)
    exact Prod.ext rfl (hdb.moves hexchange).symm

theorem askInsert_refines (q : DbQuery) (msg : String) (s : State ω) :
    RefinesDb env view (askInsert q msg) (changeDb rdb q .insert msg) s := by
  intro r s' h
  have hrun := runs_askInsert env q msg s
  rw [runs, h] at hrun
  rcases hexchange : env.exchange s.world s.dbQuery_cache.keys q .insert with _ | ⟨n, a, w⟩
  · rw [hexchange] at hrun; exact absurd hrun (by simp)
  · rw [hexchange, hdb.answer hexchange] at hrun
    obtain ⟨rfl, rfl⟩ := Prod.mk.inj (Option.some.inj hrun)
    exact Prod.ext rfl (hdb.moves hexchange).symm

theorem askError_refines (q : DbQuery) (t : DbTopic) (msg : String) (s : State ω) :
    RefinesDb env view (askError q t msg) (changeDb rdb q t msg) s := by
  intro r s' h
  have hrun := runs_askError env q t msg s
  rw [runs, h] at hrun
  rcases hexchange : env.exchange s.world s.dbQuery_cache.keys q t with _ | ⟨n, a, w⟩
  · rw [hexchange] at hrun; exact absurd hrun (by simp)
  · rw [hexchange, hdb.answer hexchange] at hrun
    simp only [Value.isStr, Bool.false_eq_true, if_false] at hrun
    rw [changeDb]
    cases hcheck : checkError (.dict (rdb.respond (view s.world) q t).1) msg with
    | ok _ =>
      rw [hcheck] at hrun
      obtain ⟨rfl, rfl⟩ := Prod.mk.inj (Option.some.inj hrun)
      exact Prod.ext rfl (hdb.moves hexchange).symm
    | error e =>
      rw [hcheck] at hrun
      obtain ⟨rfl, rfl⟩ := Prod.mk.inj (Option.some.inj hrun)
      exact Prod.ext rfl (hdb.moves hexchange).symm

theorem joinRows_refines (tempID : String) (payload relay : Value) (d : String) (s : State ω) :
    RefinesDb env view (joinRows tempID payload relay d) (joinRowsDb rdb tempID payload relay d)
      s := by
  refine Prog.refines_bind (Prog.refines_lift _ s) fun info s1 => ?_
  refine Prog.refines_bind (askInsert_refines hdb _ _ s1) fun _ s2 => ?_
  refine Prog.refines_bind (Prog.refines_lift _ s2) fun neighbors s3 => ?_
  exact Prog.refines_bind (askInsert_refines hdb _ _ s3) fun _ s4 => Prog.refines_pure _ s4

omit hdb in
/-- A query that is broken off does not reach the database. -/
theorem breakOff_refines {α : Type} (s : State ω) :
    RefinesDb env view (breakOff : Handler α) (Proc.raise .recursionError : Proc Exc δ α) s := by
  intro r s' h
  obtain ⟨rfl, rfl⟩ := Prod.mk.inj (Option.some.inj h)
  rfl

theorem register_genID_refines (hash_val : String) :
    ∀ (limit flag : Nat) (s : State ω),
      RefinesDb env view (register_genID limit hash_val flag)
        (register_genIDDb rdb limit hash_val flag) s
  | 0, _, s => breakOff_refines s
  | limit + 1, flag, s => by
      refine Prog.refines_bind (askData_refines hdb _ s) fun exist s1 => ?_
      cases exist.truthy with
      | false => exact Prog.refines_pure _ s1
      | true => exact register_genID_refines hash_val limit _ s1

theorem registerItem_refines (limit : Nat) (d : String) (attrList : List Value) (item : Value)
    (s : State ω) :
    RefinesDb env view (registerItem limit d attrList item)
      (registerItemDb rdb limit d attrList item) s := by
  refine Prog.refines_bind (Prog.refines_lift _ s) fun it s1 => ?_
  refine Prog.refines_bind (Prog.refines_lift _ s1) fun flag s2 => ?_
  refine Prog.refines_bind (Prog.refines_lift _ s2) fun hash_val s3 => ?_
  refine Prog.refines_bind ?_ fun id s4 => ?_
  · unfold itemID itemIDDb
    cases it.collisionAvoid.truthy with
    | false => exact Prog.refines_pure _ s3
    | true => exact register_genID_refines hdb hash_val limit flag s3
  · exact Prog.refines_bind (Prog.refines_lift _ s4) fun _ s5 => Prog.refines_pure _ s5

theorem registerItems_refines (limit : Nat) (d : String) :
    ∀ (items attrList : List Value) (s : State ω),
      RefinesDb env view (registerItems limit d attrList items)
        (registerItemsDb rdb limit d attrList items) s
  | [], _, s => Prog.refines_pure _ s
  | item :: items, attrList, s => by
      refine Prog.refines_bind (registerItem_refines hdb limit d attrList item s) fun r s1 => ?_
      obtain ⟨idEntry, row, attrs⟩ := r
      refine Prog.refines_bind (registerItems_refines limit d items attrs s1) fun rest s2 => ?_
      exact Prog.refines_pure _ s2

theorem updateChange_refines (payload providingID : Value) (s : State ω) :
    RefinesDb env view (updateChange payload providingID)
      (updateChangeDb rdb payload providingID) s := by
  refine Prog.refines_bind (Prog.refines_lift _ s) fun deregister s1 => ?_
  cases deregister.truthy with
  | true => exact askError_refines hdb _ _ _ s1
  | false =>
    refine Prog.refines_bind (Prog.refines_lift _ s1) fun attributes s2 => ?_
    refine Prog.refines_bind (Prog.refines_lift _ s2) fun attributes s3 => ?_
    exact askError_refines hdb _ _ _ s3

/-! ## The device check -/

omit hdb in
/-- Sending the selection for a device and reading its answer, as one question. -/
theorem send_deviceExists (v : Value) :
    (send_DBquery (deviceQuery v) .select >>= deviceExists v) =
      (do
        let exist ← askData (deviceQuery v)
        if ¬ exist.truthy then Prog.raise (.raised "No Device Error")
        else cacheTrue v : Handler Unit) := by
  simp only [askData, ask, Prog.bind_assoc, Prog.pure_bind]
  rfl

/-- The cache only knows devices of the database. -/
def CacheOf (rdb : RemoteDb δ) (d : δ) (cache : Dict Key Value) : Prop :=
  ∀ k, cache.has k = true → ∃ id, k = .str id ∧ rdb.device d id = true

omit hdb in
/-- A device that the database contains passes. -/
theorem checkDeviceDb_contained {id : String} {d : δ} (h : rdb.device d id = true) :
    checkDeviceDb rdb id d = (.ok (), d) := by
  rw [checkDeviceDb, Proc.bind_apply, selectDb]
  simp only [rdb.device_data d id, h, rdb.select_keeps]
  rfl

/-- **The device check reads the cache to save the selection**: with a cache of the database
its outcome is that of the selection. -/
theorem checkDevice_refines {id : String} {s : State ω}
    (hcache : CacheOf rdb (view s.world) s.deviceID_cache) :
    RefinesDb env view (checkDevice (.str id)) (checkDeviceDb rdb id) s := by
  intro r s' h
  rw [checkDevice, Prog.exec_bind] at h
  have hcached : runs env (isCached (.str id)) s = _ := runs_isCached (.str id)
  rw [runs] at hcached
  rw [hcached] at h
  -- a cached device is stored, so skipping the selection changes nothing
  cases hhas : s.deviceID_cache.has (.str id) with
  | true =>
    simp only [Value.key, hhas] at h
    obtain ⟨rfl, rfl⟩ : Except.ok () = r ∧ s = s' := by simpa using h
    obtain ⟨_, heq, hdevice⟩ := hcache _ hhas
    cases heq
    exact checkDeviceDb_contained hdevice
  | false =>
    simp only [Value.key, hhas] at h
    have hsend : Prog.exec (perform env)
        (send_DBquery (deviceQuery (.str id)) .select >>= deviceExists (.str id)) s =
          some (r, s') := h
    rw [send_deviceExists] at hsend
    refine Prog.refines_bind (f := selectDb rdb (deviceByID id)) (askData_refines hdb _ s)
      (fun exist s1 => ?_) r s' hsend
    cases exist.truthy with
    | false => exact Prog.refines_raise _ s1
    | true =>
      intro r s2 h2
      have hmark := runs_cacheTrue_str env s1 id
      obtain ⟨rfl, rfl⟩ := Prod.mk.inj (Option.some.inj (hmark.symm.trans h2))
      rfl

theorem speaker_refines {tempID : String} {relay : Value} {s : State ω}
    (hcache : CacheOf rdb (view s.world) s.deviceID_cache) :
    RefinesDb env view (speaker tempID relay) (speakerDb rdb tempID relay) s := by
  refine Prog.refines_lift_bind fun v _ => Prog.refines_lift_bind fun id _ => ?_
  exact Prog.refines_bind (checkDevice_refines hdb hcache) fun _ s1 => Prog.refines_pure _ s1

/-- **A registration is a function of the database**, whatever the cache knows of it. -/
theorem registerBody_refines {limit : Nat} {tempID : String} {payload relay registerID : Value}
    {s : State ω} (hcache : CacheOf rdb (view s.world) s.deviceID_cache) :
    RefinesDb env view (registerBody limit tempID payload relay registerID)
      (registerDb rdb limit tempID payload relay registerID) s := by
  refine Prog.refines_bind (speaker_refines hdb hcache) fun d s1 => ?_
  refine Prog.refines_bind (Prog.refines_lift _ s1) fun _ s2 => ?_
  refine Prog.refines_bind (Prog.refines_lift _ s2) fun items s3 => ?_
  refine Prog.refines_bind (registerItems_refines hdb limit d items [] s3) fun entries s4 => ?_
  exact Prog.refines_bind (askError_refines hdb _ _ _ s4) fun _ s5 => Prog.refines_pure _ s5

/-- **An update is a function of the database**, whatever the cache knows of it. -/
theorem updateBody_refines {tempID : String} {payload relay updateID : Value} {s : State ω}
    (hcache : CacheOf rdb (view s.world) s.deviceID_cache) :
    RefinesDb env view (updateBody tempID payload relay updateID)
      (updateDb rdb tempID payload relay updateID) s := by
  refine Prog.refines_bind (speaker_refines hdb hcache) fun d s1 => ?_
  refine Prog.refines_bind (Prog.refines_lift _ s1) fun providingID s2 => ?_
  refine Prog.refines_bind (askData_refines hdb _ s2) fun exist s3 => ?_
  cases exist.truthy with
  | false => exact Prog.refines_raise _ s3
  | true =>
    exact Prog.refines_bind (updateChange_refines hdb _ _ s3) fun _ s4 => Prog.refines_pure _ s4

end Refines

end Versatile.FlexIDMnger
