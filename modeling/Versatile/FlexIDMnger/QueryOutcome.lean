import Versatile.FlexIDMnger.Matching
import Versatile.FlexIDMnger.SameOutcome

/-!
# What a query does with two caches of one database

Whether a query is replied to is up to the database: a cached device is a stored one. Which
identifier its failure carries is not: its own before the first selection, and the one of the
selection from then on.
-/

namespace Versatile.FlexIDMnger

open Py

variable {ω ω' δ : Type} {env : Env ω} {env' : Env ω'} {rdb : RemoteDb δ} {view : ω → δ}
  {view' : ω' → δ}

/-- The reply to a query, under an identifier. -/
def queryReply (tempID : String) (kvs : List (String × Value)) (x : Value) : Message :=
  ⟨"/utilization/reply/" ++ tempID,
    .dict [("error:", .int 0), ("queryID", x), ("desc", field kvs "desc"),
      ("ids", .list [.str "TempId1", .str "TempId2"]), ("relay", field kvs "relay")]⟩

/-- The failure of a query, under an identifier. -/
def queryFailure (tempID : String) (kvs : List (String × Value)) (x : Value) : Message :=
  ⟨"/utilization/reply/" ++ tempID,
    .dict [("error", .int 1), ("queryID", x), ("relay", field kvs "relay")]⟩

/-- Two failures are alike when their identifiers are. -/
theorem queryFailure_same_iff {tempID : String} {kvs : List (String × Value)} {x y : Value} :
    SameAck (queryFailure tempID kvs x) (queryFailure tempID kvs y) ↔ SameID x y := by
  refine ⟨?_, ?_⟩
  · intro h
    obtain ⟨_, h⟩ := h
    exact (List.forall₂_cons.mp (List.forall₂_cons.mp h).2).1.2
  · intro h
    exact ⟨rfl, .cons ⟨rfl, Or.inl rfl⟩ (.cons ⟨rfl, h⟩ (.cons ⟨rfl, Or.inl rfl⟩ .nil))⟩

theorem queryReply_same {tempID : String} {kvs : List (String × Value)} {x y : Value}
    (h : SameID x y) : SameAck (queryReply tempID kvs x) (queryReply tempID kvs y) :=
  ⟨rfl, .cons ⟨rfl, Or.inl rfl⟩ (.cons ⟨rfl, h⟩ (.cons ⟨rfl, Or.inl rfl⟩
    (.cons ⟨rfl, Or.inl rfl⟩ (.cons ⟨rfl, Or.inl rfl⟩ .nil))))⟩

/-- The database finds the device of a query. -/
def Finds (rdb : RemoteDb δ) (d : δ) (v : Value) : Prop :=
  (field (rdb.respond d (deviceQuery v) .select).1 "data").truthy = true

/-- A query is replied to: its device is found, and its requirements can be read. -/
def Replied (rdb : RemoteDb δ) (d : δ) (tempID : String) (kvs : List (String × Value)) : Prop :=
  ∃ v k, deviceOf tempID (field kvs "relay") = .ok v ∧ v.key = .ok k ∧ Finds rdb d v ∧
    readRequirements (field kvs "qosRequirements") = .ok ()

theorem Replied.selects {d : δ} {tempID : String} {kvs : List (String × Value)}
    (h : Replied rdb d tempID kvs) (cache : Dict Key Value) : Selects cache tempID kvs := by
  obtain ⟨v, k, hdev, hk, _, hreq⟩ := h
  exact ⟨v, k, hdev, hk, fun _ => hreq⟩

/-- A query to the database comes back with an entry for its answer. -/
theorem ends_send_backed (hdb : Backed env rdb view) (q : DbQuery) (t : DbTopic) (s : State ω) :
    Prog.Ends (perform env)
      (fun id s' => ∃ n w, id = queryID n ∧
        s' = s.told n (.dict (rdb.respond (view s.world) q t).1) w)
      (fun _ _ => False) (send_DBquery q t) s := by
  intro r s' h
  rw [send_DBquery, act, Prog.exec_perform, Option.map_eq_some_iff] at h
  obtain ⟨back, hback, heq⟩ := h
  obtain ⟨rfl, rfl⟩ := Prod.mk.inj heq
  obtain ⟨n, a, w, hexchange, _, hid, hs⟩ := perform_send_eq_some.mp hback
  exact ⟨n, w, hid, by rw [hs, ← hdb.answer hexchange]⟩

section Told

variable (env : Env ω) (s : State ω) (n : BitVec 32) (a : List (String × Value)) (w : ω)

theorem runs_dbReply_told :
    runs env (dbReply (queryID n)) (s.told n (.dict a) w) =
      some (.ok (.dict a), s.told n (.dict a) w) :=
  runs_dbReply (Dict.get_set_self _ _ _)

theorem runs_dbDrop_entry : ∃ s', runs env (dbDrop (queryID n)) (s.told n (.dict a) w) =
    some (.ok (), s') := ⟨_, runs_dbDrop (by simp [State.told])⟩

/-- The answer to a device check is read. -/
theorem runs_deviceExists {v : Value} {k : Key} (hk : v.key = .ok k) :
    ∃ s', runs env (deviceExists v (queryID n)) (s.told n (.dict a) w) =
      some (if (field a "data").truthy then .ok () else .error (.raised "No Device Error"),
        s') := by
  obtain ⟨s1, hdrop⟩ := runs_dbDrop_entry env s n a w
  have hread : runs env (deviceExists v (queryID n)) (s.told n (.dict a) w) =
      runs env (if ¬ (field a "data").truthy then Prog.raise (.raised "No Device Error")
        else cacheTrue v : Handler Unit) s1 := by
    rw [deviceExists, runs, Prog.exec_bind_ok (runs_dbReply_told env s n a w), get_field]
    exact Prog.exec_bind_ok hdrop
  rw [hread]
  cases (field a "data").truthy with
  | false => exact ⟨s1, rfl⟩
  | true =>
    refine ⟨{ s1 with deviceID_cache := s1.deviceID_cache.set k (.bool true) }, ?_⟩
    have hmark : cacheTrue v = cacheSet k (.bool true) := by rw [cacheTrue, hk]; rfl
    simp only [not_true, if_false, hmark]
    rfl

end Told

/-- The device check of `query`: what it goes on with, or fails with. -/
theorem ends_queryCheck_backed (hdb : Backed env rdb view) {v own : Value} {k : Key} {s : State ω}
    (hcache : CacheOf rdb (view s.world) s.deviceID_cache) (hk : v.key = .ok k) :
    Prog.Ends (perform env)
      (fun x _ => Finds rdb (view s.world) v ∧
        (s.deviceID_cache.has k = true ∧ x = own ∨
          s.deviceID_cache.has k = false ∧ ∃ n, x = .str (queryID n)))
      (fun e _ => ¬ Finds rdb (view s.world) v ∧ s.deviceID_cache.has k = false ∧
        ∃ n, e.2 = .str (queryID n))
      (queryCheck v own) s := by
  cases hhas : s.deviceID_cache.has k with
  | true =>
    intro r s' h
    have hrun : runs env (queryCheck v own) s = _ := runs_queryCheck_cached hk hhas
    obtain ⟨rfl, rfl⟩ := Prod.mk.inj (Option.some.inj (hrun.symm.trans h))
    -- a cached device is stored, so the selection would find it
    obtain ⟨id, rfl, hdevice⟩ := hcache k hhas
    refine ⟨?_, Or.inl ⟨rfl, rfl⟩⟩
    rw [Finds, Value.key_eq_str.mp hk]
    exact (rdb.device_data _ id).trans hdevice
  | false =>
    have hmissing : runs env (withID own (isCached v)) s = some (.ok false, s) :=
      runs_withID_ok (by simp only [runs_isCached, hk, hhas])
    intro r s' h
    rw [queryCheck, Prog.exec_bind_ok hmissing] at h
    revert r s'
    refine Prog.ends_bind (ends_withID ((ends_send_backed hdb _ _ s).mono (fun _ _ h => h)
      fun _ _ h => h.elim)) fun id s1 h1 => ?_
    obtain ⟨n, w, rfl, rfl⟩ := h1
    refine Prog.ends_bind (ends_withID (A := fun _ _ => Finds rdb (view s.world) v) ?_)
      fun _ s2 h2 => Prog.ends_pure ⟨h2, Or.inr ⟨rfl, n, rfl⟩⟩
    intro r s' h
    obtain ⟨s2, hexists⟩ := runs_deviceExists env s n
      (rdb.respond (view s.world) (deviceQuery v) .select).1 w hk
    obtain ⟨rfl, _⟩ := Prod.mk.inj (Option.some.inj (hexists.symm.trans h))
    cases hfinds : (field (rdb.respond (view s.world) (deviceQuery v) .select).1 "data").truthy with
    | true => exact hfinds
    | false => exact ⟨by simp [Finds, hfinds], rfl, n, rfl⟩

/-- The reply of `query`, or its failure on the requirements. -/
theorem ends_queryRest_backed (hdb : Backed env rdb view) (tempID : String)
    (kvs : List (String × Value)) (v x : Value) (s : State ω) :
    Prog.Ends (perform env)
      (fun msg _ => readRequirements (field kvs "qosRequirements") = .ok () ∧
        ∃ n, msg = queryReply tempID kvs (.str (queryID n)))
      (fun e _ => readRequirements (field kvs "qosRequirements") ≠ .ok () ∧ e.2 = x)
      (queryRest tempID (.dict kvs) (field kvs "relay") v x) s := by
  have hfield : ∀ k, runs env (withID x (liftM ((Value.dict kvs).get k))) s =
      some (.ok (field kvs k), s) := fun _ => rfl
  intro r s' h
  rw [queryRest, Prog.exec_bind_ok (hfield _), Prog.exec_bind_ok (hfield _)] at h
  revert r s'
  refine Prog.ends_bind (ends_withID (Prog.ends_lift
    (A := fun _ _ => readRequirements (field kvs "qosRequirements") = .ok ())
    (fun _ heq => heq) fun e heq => ⟨by rw [heq]; simp, rfl⟩)) fun _ s1 hreq => ?_
  refine Prog.ends_bind (ends_withID ((ends_send_backed hdb _ _ s1).mono (fun _ _ h => h)
    fun _ _ h => h.elim)) fun id s2 h2 => ?_
  obtain ⟨n, w, rfl, rfl⟩ := h2
  refine Prog.ends_bind (A := fun _ _ => True) (ends_withID ?_) fun _ s3 _ =>
    Prog.ends_pure ⟨hreq, n, rfl⟩
  -- the answer is an object, and its entry is still there
  intro r s' h
  obtain ⟨s3, hdrop⟩ := runs_dbDrop_entry env s1 n
    (rdb.respond (view s1.world) (deviceQuery v) .select).1 w
  rw [Prog.exec_bind_ok (runs_dbReply_told env s1 n _ w), get_field] at h
  obtain ⟨rfl, _⟩ := Prod.mk.inj (Option.some.inj (hdrop.symm.trans h))
  trivial

/-- **How `query` ends** with a cache of the database: what it answers depends on the
database, and its identifier on the cache. -/
theorem queryBody_outcome (hdb : Backed env rdb view) {tempID : String}
    {kvs : List (String × Value)} {own : Value} {s s' : State ω}
    {r : Except (Exc × Value) Message} (hcache : CacheOf rdb (view s.world) s.deviceID_cache)
    (h : runs env (queryBody tempID (.dict kvs) (field kvs "relay") own) s = some (r, s')) :
    (Replied rdb (view s.world) tempID kvs ∧
        ∃ n, r = .ok (queryReply tempID kvs (.str (queryID n)))) ∨
      (¬ Replied rdb (view s.world) tempID kvs ∧ ∃ e x, r = .error (e, x) ∧
        (¬ Selects s.deviceID_cache tempID kvs ∧ x = own ∨
          Selects s.deviceID_cache tempID kvs ∧ ∃ n, x = .str (queryID n))) := by
  by_cases hselects : Selects s.deviceID_cache tempID kvs
  · obtain ⟨v, k, hdev, hk, hreq⟩ := hselects
    have hselects : Selects s.deviceID_cache tempID kvs := ⟨v, k, hdev, hk, hreq⟩
    have hreplied : Replied rdb (view s.world) tempID kvs ↔ Finds rdb (view s.world) v ∧
        readRequirements (field kvs "qosRequirements") = .ok () := by
      refine ⟨?_, ?_⟩
      · intro hsome
        obtain ⟨v', _, hdev', _, hfinds, hread⟩ := hsome
        obtain rfl := Except.ok.inj (hdev.symm.trans hdev')
        exact ⟨hfinds, hread⟩
      · intro hboth
        obtain ⟨hfinds, hread⟩ := hboth
        exact ⟨v, k, hdev, hk, hfinds, hread⟩
    have hnamed : runs env (withID own (liftM (deviceOf tempID (field kvs "relay")))) s =
        some (.ok v, s) := runs_withID_ok (by rw [runs, Prog.exec_lift, hdev])
    rw [queryBody, runs, Prog.exec_bind_ok hnamed, Prog.exec_bind] at h
    -- the device check decides whether the device is found
    rcases hexec : Prog.exec (perform env) (queryCheck v own) s with _ | ⟨e | x, s1⟩
    · rw [hexec] at h; exact absurd h (by simp)
    · rw [hexec] at h
      obtain ⟨rfl, _⟩ := Prod.mk.inj (Option.some.inj h)
      obtain ⟨hmissing, _, hdrawn⟩ := ends_queryCheck_backed hdb hcache hk _ _ hexec
      refine Or.inr ⟨fun hrep => hmissing (hreplied.mp hrep).1, e.1, e.2, rfl, Or.inr ?_⟩
      exact ⟨hselects, hdrawn⟩
    · rw [hexec] at h
      obtain ⟨hfinds, hid⟩ := ends_queryCheck_backed hdb hcache hk _ _ hexec
      have hrest := ends_queryRest_backed hdb tempID kvs v x s1 r s' h
      cases r with
      | ok msg => exact Or.inl ⟨hreplied.mpr ⟨hfinds, hrest.1⟩, hrest.2.imp fun n hn => by rw [hn]⟩
      | error failed =>
        obtain ⟨hno, rfl⟩ := hrest
        refine Or.inr ⟨fun hrep => hno (hreplied.mp hrep).2, failed.1, failed.2, rfl, Or.inr ?_⟩
        refine ⟨hselects, ?_⟩
        -- a cached device is only selected once its requirements were read
        rcases hid with ⟨hhas, _⟩ | ⟨_, hdrawn⟩
        · exact absurd (hreq hhas) hno
        · exact hdrawn
  · obtain ⟨e, he⟩ : ∃ e, runs env (queryBody tempID (.dict kvs) (field kvs "relay") own) s = _ :=
      runs_queryBody_early own hselects
    obtain ⟨rfl, _⟩ := Prod.mk.inj (Option.some.inj (he.symm.trans h))
    exact Or.inr ⟨fun hrep => hselects (hrep.selects _), e, own, rfl, Or.inl ⟨hselects, rfl⟩⟩

/-- What `query` does not depend on: with both caches it sends a selection or with neither, or
the identifier of its request has the form of those that are drawn. -/
def QueryIndifferent (cache cache' : Dict Key Value) (tempID : String)
    (kvs : List (String × Value)) : Prop :=
  (Selects cache tempID kvs ↔ Selects cache' tempID kvs) ∨
    ∃ n, field kvs "queryID" = .str (queryID n)

theorem queryBody_selects (tempID : String) (payload relay own : Value) :
    Prog.Only Act.Selects (queryBody tempID payload relay own) := by
  have hread : ∀ id, Prog.Only Act.Selects (dbReply id) := dbReply_selects
  have hsend : ∀ q, Prog.Only Act.Selects (send_DBquery q .select) := fun _ =>
    Prog.only_perform rfl
  refine Prog.only_bind (withID_only _ (Prog.only_lift _)) fun v => Prog.only_bind ?_ fun x => ?_
  · refine Prog.only_bind (withID_only _ (Prog.only_bind (Prog.only_lift _) fun _ =>
      Prog.only_bind (Prog.only_perform trivial) fun _ => trivial)) fun cached => ?_
    split
    · trivial
    · refine Prog.only_bind (withID_only _ (hsend _)) fun id => Prog.only_bind (withID_only _ ?_)
        fun _ => trivial
      refine Prog.only_bind (hread id) fun _ => Prog.only_bind (Prog.only_lift _) fun _ => ?_
      refine Prog.only_bind (dbDrop_selects id) fun _ => ?_
      split
      · trivial
      · exact Prog.only_bind (Prog.only_lift _) fun _ => Prog.only_perform trivial
  · refine Prog.only_bind (withID_only _ (Prog.only_lift _)) fun _ => ?_
    refine Prog.only_bind (withID_only _ (Prog.only_lift _)) fun _ => ?_
    refine Prog.only_bind (withID_only _ (Prog.only_lift _)) fun _ => ?_
    refine Prog.only_bind (withID_only _ (hsend _)) fun id => Prog.only_bind (withID_only _ ?_)
      fun _ => trivial
    exact Prog.only_bind (hread id) fun _ => Prog.only_bind (Prog.only_lift _) fun _ =>
      dbDrop_selects id

theorem query_same_iff (hdb : Backed env rdb view) (hdb' : Backed env' rdb view')
    {tempID : String} {kvs : List (String × Value)} {s s1 : State ω} {t t1 : State ω'}
    (hview : view s.world = view' t.world)
    (hcache : CacheOf rdb (view s.world) s.deviceID_cache)
    (hcache' : CacheOf rdb (view s.world) t.deviceID_cache)
    {r r' : Except (Exc × Value) Message}
    (h : runs env (queryBody tempID (.dict kvs) (field kvs "relay") (field kvs "queryID")) s =
      some (r, s1))
    (h' : runs env' (queryBody tempID (.dict kvs) (field kvs "relay") (field kvs "queryID")) t =
      some (r', t1)) :
    (SameAck (settle (fun failed => queryFailure tempID kvs failed.2) r)
          (settle (fun failed => queryFailure tempID kvs failed.2) r') ∧
        view s1.world = view' t1.world) ↔
      QueryIndifferent s.deviceID_cache t.deviceID_cache tempID kvs := by
  have hkept : view s1.world = view' t1.world := by
    rw [selects_view hdb (queryBody_selects _ _ _ _) h,
      selects_view hdb' (queryBody_selects _ _ _ _) h', hview]
  rw [and_iff_left hkept]
  have hends := queryBody_outcome hdb hcache h
  have hends' := queryBody_outcome hdb' (hview ▸ hcache') h'
  rw [← hview] at hends'
  rcases hends with ⟨hreplied, n, rfl⟩ | ⟨hno, e, x, rfl, hx⟩ <;>
    rcases hends' with ⟨hreplied', n', rfl⟩ | ⟨hno', e', y, rfl, hy⟩
  · have hboth : Selects s.deviceID_cache tempID kvs ↔ Selects t.deviceID_cache tempID kvs :=
      ⟨fun _ => hreplied.selects _, fun _ => hreplied.selects _⟩
    exact ⟨fun _ => Or.inl hboth, fun _ => queryReply_same (Or.inr ⟨n, n', rfl, rfl⟩)⟩
  · exact absurd hreplied hno'
  · exact absurd hreplied' hno
  · rw [settle, settle, queryFailure_same_iff, QueryIndifferent]
    -- both fail: the identifiers are the request's own, or drawn
    rcases hx with ⟨hs, rfl⟩ | ⟨hs, n, rfl⟩ <;> rcases hy with ⟨ht, rfl⟩ | ⟨ht, n', rfl⟩
    · exact ⟨fun _ => Or.inl ⟨fun h => absurd h hs, fun h => absurd h ht⟩, fun _ => Or.inl rfl⟩
    · refine ⟨?_, ?_⟩
      · intro hcase
        rcases hcase with heq | ⟨m, _, heq, _⟩
        · exact Or.inr ⟨n', heq⟩
        · exact Or.inr ⟨m, heq⟩
      · intro hcase
        rcases hcase with hiff | ⟨m, heq⟩
        · exact absurd (hiff.mpr ht) hs
        · exact Or.inr ⟨m, n', heq, rfl⟩
    · refine ⟨?_, ?_⟩
      · intro hcase
        rcases hcase with heq | ⟨_, m, _, heq⟩
        · exact Or.inr ⟨n, heq.symm⟩
        · exact Or.inr ⟨m, heq⟩
      · intro hcase
        rcases hcase with hiff | ⟨m, heq⟩
        · exact absurd (hiff.mp hs) ht
        · exact Or.inr ⟨n, m, rfl, heq⟩
    · exact ⟨fun _ => Or.inl ⟨fun _ => ht, fun _ => hs⟩, fun _ => Or.inr ⟨n, n', rfl, rfl⟩⟩

end Versatile.FlexIDMnger
