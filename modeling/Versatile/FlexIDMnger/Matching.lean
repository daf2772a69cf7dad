import Versatile.FlexIDMnger.Unique

/-!
# Which answers of `flexIDMnger.py` name their request

`register` and `update` keep the identifier of their request in a name of its own, and every
answer carries it. `query` keeps it in `queryID`, the name it also gives the identifier of a
selection: from its first selection on, whatever it answers carries that one.
-/

namespace Versatile.FlexIDMnger

open Py

variable {ω : Type} {env : Env ω}

/-- The field that identifies a request. Joins and leaves have none. -/
def idField : Op → Option String
  | .register => some "registerID"
  | .update => some "updateID"
  | .query => some "queryID"
  | .join => none
  | .leave => none

/-- The message is on the topic of the requester, and carries the identifier and the relay of
the request. -/
structure Matches (op : Op) (tempID : String) (kvs : List (String × Value)) (msg : Message) :
    Prop where
  topic : msg.topic = op.ackTopic ++ tempID
  id : ∀ k, idField op = some k → msg.payload.get k = .ok (field kvs k)
  relay : msg.payload.get "relay" = .ok (field kvs "relay")

/-- A request with the object `kvs` is answered once, by a message that matches it. -/
def Matched (env : Env ω) (limit : Nat) (s : State ω) (op : Op) (tempID : String)
    (kvs : List (String × Value)) : Prop :=
  ∀ s', step env limit s ⟨op, tempID, .dict kvs⟩ = some s' →
    ∃ msg, s'.published = s.published ++ [msg] ∧ Matches op tempID kvs msg

/-! ## Every operation but `query` -/

section Handlers

variable {limit : Nat} {s : State ω} {tempID : String} {kvs : List (String × Value)}

/-- A handler whose two messages match its request. -/
theorem matched_of_ok {op : Op} {ε : Type} {body : Prog Act Act.Res ε Message}
    {failure : ε → Message} (hr : handle limit ⟨op, tempID, .dict kvs⟩ = answer body failure)
    (hmute : Prog.Only Act.Mute body) (hfail : ∀ e, Matches op tempID kvs (failure e))
    (hok : Prog.Ends (perform env) (fun msg _ => Matches op tempID kvs msg) (fun _ _ => True)
      body s) :
    Matched env limit s op tempID kvs := by
  intro s' hstep
  obtain ⟨res, s1, hb, rfl⟩ := step_eq_some hr hstep
  refine ⟨settle failure res, by rw [publish_published, mute_frame hmute hb], ?_⟩
  cases res with
  | ok msg => exact hok _ _ hb
  | error e => exact hfail e

/-- Only the value that a program returns at its end is left to check. -/
theorem ends_rest {ε α : Type} {p : Prog Act Act.Res ε α} {f : α → Prog Act Act.Res ε Message}
    {A : Message → State ω → Prop} {s : State ω}
    (hf : ∀ a s', Prog.Ends (perform env) A (fun _ _ => True) (f a) s') :
    Prog.Ends (perform env) A (fun _ _ => True) (p >>= f) s :=
  Prog.ends_bind (Prog.ends_true p s) fun a s' _ => hf a s'

theorem join_matched : Matched env limit s .join tempID kvs := by
  refine matched_of_ok rfl ((joinBody_marks _ _ _ _).mono fun _ => Act.Marks.mute)
    (fun _ => ⟨rfl, nofun, rfl⟩) ?_
  refine ends_rest fun _ _ => ends_rest fun _ _ => ends_rest fun d _ => ?_
  refine ends_rest fun _ _ => ends_rest fun _ _ => ends_rest fun _ _ => ends_rest fun _ _ => ?_
  exact Prog.ends_pure ⟨rfl, nofun, rfl⟩

theorem leave_matched : Matched env limit s .leave tempID kvs := by
  refine matched_of_ok rfl (leaveBody_mute _ _) (fun _ => ⟨rfl, nofun, rfl⟩) ?_
  refine ends_rest fun _ _ => ends_rest fun _ _ => ends_rest fun _ _ => ends_rest fun _ _ => ?_
  exact Prog.ends_pure ⟨rfl, nofun, rfl⟩

theorem register_matched : Matched env limit s .register tempID kvs := by
  refine matched_of_ok rfl ((registerBody_marks _ _ _ _ _).mono fun _ => Act.Marks.mute)
    (fun _ => ⟨rfl, fun k hk => by cases hk; rfl, rfl⟩) ?_
  refine ends_rest fun _ _ => ends_rest fun _ _ => ends_rest fun _ _ => ?_
  refine ends_rest fun _ _ => ends_rest fun _ _ => ?_
  exact Prog.ends_pure ⟨rfl, fun k hk => by cases hk; rfl, rfl⟩

theorem update_matched : Matched env limit s .update tempID kvs := by
  refine matched_of_ok rfl ((updateBody_marks _ _ _ _).mono fun _ => Act.Marks.mute)
    (fun _ => ⟨rfl, fun k hk => by cases hk; rfl, rfl⟩) ?_
  refine ends_rest fun _ _ => ends_rest fun _ _ => ends_rest fun exist _ => ?_
  split
  · exact Prog.ends_raise trivial
  · refine ends_rest fun _ _ => ?_
    exact Prog.ends_pure ⟨rfl, fun k hk => by cases hk; rfl, rfl⟩

end Handlers

/-! ## `query` -/

/-- The operations that leave an entry of `dbQuery_cache` in place. -/
def Act.Spares (id : String) : Act → Prop
  | drop id' => id' ≠ id
  | _ => True

theorem spares_keeps {ε α : Type} {p : Prog Act Act.Res ε α} (id : String)
    (hp : Prog.Only (Act.Spares id) p) : Prog.Keeps (perform env)
      (fun s s' => s.dbQuery_cache.has id = true → s'.dbQuery_cache.has id = true) p := by
  refine hp.keeps (fun _ h => h) (fun h1 h2 h => h2 (h1 h)) ?_
  intro o s b s' ho h hid
  cases o with
  | send q t =>
    obtain ⟨n, a, w, _, _, _, rfl⟩ := perform_send_eq_some.mp h
    simp only [State.told, Dict.has_set, hid, Bool.or_true]
  | drop id' =>
    obtain ⟨_, rfl⟩ := Prod.mk.inj (Option.some.inj h)
    have hne : id ≠ id' := fun heq => ho heq.symm
    simp only [Dict.has_erase, hid, decide_eq_false hne, Bool.not_false, Bool.and_self]
  | _ =>
    obtain ⟨_, rfl⟩ := Prod.mk.inj (Option.some.inj h)
    exact hid

/-- The identifier of a selection is no key of `dbQuery_cache` before it is sent. -/
theorem ends_send (q : DbQuery) (t : DbTopic) (s : State ω) :
    Prog.Ends (perform env)
      (fun id s' => (∃ n, id = queryID n ∧ queryID n ∉ s.dbQuery_cache.keys) ∧
        ∀ id', s.dbQuery_cache.has id' = true → s'.dbQuery_cache.has id' = true)
      (fun _ _ => False) (send_DBquery q t) s := by
  intro r s' h
  have hspares : ∀ id', Prog.Only (Act.Spares id') (send_DBquery q t) :=
    fun _ => Prog.only_perform trivial
  have hkeeps := fun id' => spares_keeps id' (hspares id') s r s' h
  rw [send_DBquery, act, Prog.exec_perform, Option.map_eq_some_iff] at h
  obtain ⟨back, hback, heq⟩ := h
  obtain ⟨rfl, rfl⟩ := Prod.mk.inj heq
  obtain ⟨n, a, w, hexchange, _, hid, _⟩ := perform_send_eq_some.mp hback
  exact ⟨⟨n, hid, env.fresh hexchange⟩, hkeeps⟩

/-- An identifier that an answer of `query` can carry: the one of the request, or one that is
no key of `dbQuery_cache`. -/
def Carried (s : State ω) (own x : Value) : Prop :=
  x = own ∨ ∃ n, queryID n ∉ s.dbQuery_cache.keys ∧ x = .str (queryID n)

/-- `t` has every entry of `s`, so what is new to `t` is new to `s`. -/
def Grown (s t : State ω) : Prop :=
  ∀ id, s.dbQuery_cache.has id = true → t.dbQuery_cache.has id = true

theorem Grown.new {s t : State ω} (h : Grown s t) {n : BitVec 32}
    (hn : queryID n ∉ t.dbQuery_cache.keys) : queryID n ∉ s.dbQuery_cache.keys :=
  fun hmem => hn (Dict.mem_keys.mpr (h _ (Dict.mem_keys.mp hmem)))

theorem ends_withID {α : Type} {queryID : Value} {part : Handler α} {A : α → State ω → Prop}
    {E : Exc × Value → State ω → Prop} {s : State ω}
    (h : Prog.Ends (perform env) A (fun e s' => E (e, queryID) s') part s) :
    Prog.Ends (perform env) A E (withID queryID part) s :=
  Prog.ends_tryExcept h fun _ _ he => Prog.ends_raise he

theorem ends_isCached (v : Value) (s : State ω) :
    Prog.Ends (perform env) (fun _ s' => s' = s) (fun _ _ => True) (isCached v) s := by
  intro r s' h
  have hrun : runs env (isCached v) s = _ := runs_isCached v
  rw [runs] at hrun
  rw [hrun] at h
  cases hk : v.key with
  | ok k => rw [hk] at h; obtain ⟨rfl, rfl⟩ := Prod.mk.inj (Option.some.inj h); rfl
  | error e => rw [hk] at h; obtain ⟨rfl, _⟩ := Prod.mk.inj (Option.some.inj h); trivial

theorem deviceExists_spares {id id' : String} (h : id' ≠ id) (v : Value) :
    Prog.Only (Act.Spares id') (deviceExists v id) := by
  refine Prog.only_bind (Prog.only_bind (Prog.only_perform trivial) fun payload => ?_)
    fun payload => Prog.only_bind (Prog.only_lift _) fun exist => Prog.only_bind ?_ fun _ => ?_
  · cases payload <;> trivial
  · refine Prog.only_bind (Prog.only_perform fun heq => h heq.symm) fun present => ?_
    cases present <;> trivial
  · split
    · trivial
    · exact Prog.only_bind (Prog.only_lift _) fun _ => Prog.only_perform trivial

/-- The device check of `query`: the identifier it goes on with, or fails with. -/
theorem ends_queryCheck (v own : Value) (s : State ω) :
    Prog.Ends (perform env) (fun x s' => Carried s own x ∧ Grown s s')
      (fun e _ => Carried s own e.2) (queryCheck v own) s := by
  have hown : Carried s own own := Or.inl rfl
  refine Prog.ends_bind (ends_withID ((ends_isCached v s).mono (fun _ _ h => h) fun _ _ _ => hown))
    fun cached s1 h1 => ?_
  obtain rfl : s1 = s := h1
  split
  · exact Prog.ends_pure ⟨hown, fun _ h => h⟩
  · refine Prog.ends_bind (ends_withID ((ends_send _ _ s1).mono (fun _ _ h => h)
      fun _ _ h => h.elim)) fun id s2 h2 => ?_
    obtain ⟨⟨n, rfl, hn⟩, hgrown⟩ := h2
    have hcarried : Carried s1 own (.str (queryID n)) := Or.inr ⟨n, hn, rfl⟩
    have hexists : Prog.Ends (perform env) (fun _ s3 => Grown s1 s3)
        (fun _ _ => Carried s1 own (.str (queryID n))) (deviceExists v (queryID n)) s2 := by
      intro r s3 hexec
      cases r with
      | error e => exact hcarried
      | ok _ =>
        intro id' hid'
        -- the entry that is dropped was not there before
        have hne : id' ≠ queryID n := by
          intro heq
          obtain rfl := heq
          exact hn (Dict.mem_keys.mpr hid')
        exact spares_keeps id' (deviceExists_spares hne v) s2 _ s3 hexec (hgrown id' hid')
    exact Prog.ends_bind (ends_withID hexists) fun _ s3 h3 => Prog.ends_pure ⟨hcarried, h3⟩

/-- The reply of `query` with an identifier. -/
theorem ends_queryRest (tempID : String) (kvs : List (String × Value)) (v own x : Value)
    {s t : State ω} (hx : Carried s own x) (hgrown : Grown s t) :
    Prog.Ends (perform env)
      (fun msg _ => ∃ y, Carried s own y ∧ msg.topic = Op.query.ackTopic ++ tempID ∧
        msg.payload.get "queryID" = .ok y ∧ msg.payload.get "relay" = .ok (field kvs "relay"))
      (fun e _ => Carried s own e.2)
      (queryRest tempID (.dict kvs) (field kvs "relay") v x) t := by
  refine Prog.ends_bind (ends_withID (Prog.ends_lift (A := fun _ t' => t' = t) (fun _ _ => rfl)
    fun _ _ => hx)) fun _ t1 h1 => ?_
  obtain rfl : t1 = t := h1
  refine Prog.ends_bind (ends_withID (Prog.ends_lift (A := fun _ t' => t' = t1) (fun _ _ => rfl)
    fun _ _ => hx)) fun _ t2 h2 => ?_
  obtain rfl : t2 = t1 := h2
  refine Prog.ends_bind (ends_withID (Prog.ends_lift (A := fun _ t' => t' = t2) (fun _ _ => rfl)
    fun _ _ => hx)) fun _ t3 h3 => ?_
  obtain rfl : t3 = t2 := h3
  refine Prog.ends_bind (ends_withID ((ends_send _ _ t3).mono (fun _ _ h => h)
    fun _ _ h => h.elim)) fun id t4 h4 => ?_
  obtain ⟨⟨n, rfl, hn⟩, _⟩ := h4
  have hcarried : Carried s own (.str (queryID n)) := Or.inr ⟨n, hgrown.new hn, rfl⟩
  refine Prog.ends_bind (ends_withID ((Prog.ends_true _ t4).mono (fun _ _ h => h)
    fun _ _ _ => hcarried)) fun _ _ _ => ?_
  exact Prog.ends_pure ⟨_, hcarried, rfl, rfl, rfl⟩

theorem ends_queryBody (tempID : String) (kvs : List (String × Value)) (own : Value)
    (s : State ω) :
    Prog.Ends (perform env)
      (fun msg _ => ∃ y, Carried s own y ∧ msg.topic = Op.query.ackTopic ++ tempID ∧
        msg.payload.get "queryID" = .ok y ∧ msg.payload.get "relay" = .ok (field kvs "relay"))
      (fun e _ => Carried s own e.2)
      (queryBody tempID (.dict kvs) (field kvs "relay") own) s := by
  refine Prog.ends_bind (ends_withID (Prog.ends_lift (A := fun _ s' => s' = s) (fun _ _ => rfl)
    fun _ _ => Or.inl rfl)) fun v t ht => ?_
  obtain rfl : t = s := ht
  exact Prog.ends_bind (ends_queryCheck v own t) fun x t' ht' =>
    ends_queryRest tempID kvs v own x ht'.1 ht'.2

/-- `query` sends a selection: its device can be looked up in the cache, and where it is found
there, the requirements can be read. -/
def Selects (cache : Dict Key Value) (tempID : String) (kvs : List (String × Value)) : Prop :=
  ∃ v k, deviceOf tempID (field kvs "relay") = .ok v ∧ v.key = .ok k ∧
    (cache.has k = true → readRequirements (field kvs "qosRequirements") = .ok ())

theorem runs_withID_ok {α : Type} {part : Handler α} {own : Value} {s s' : State ω} {a : α}
    (h : runs env part s = some (.ok a, s')) :
    runs env (withID own part) s = some (.ok a, s') := by
  simp only [runs] at h
  rw [withID, runs, Prog.exec_tryExcept, h]

theorem runs_withID_error {α : Type} {part : Handler α} {own : Value} {s s' : State ω} {e : Exc}
    (h : runs env part s = some (.error e, s')) :
    runs env (withID own part) s = some (.error (e, own), s') := by
  simp only [runs] at h
  rw [withID, runs, Prog.exec_tryExcept, h]
  rfl

/-- The cached device of a `query` is not selected. -/
theorem runs_queryCheck_cached {v own : Value} {k : Key} {s : State ω} (hk : v.key = .ok k)
    (hcached : s.deviceID_cache.has k = true) :
    runs env (queryCheck v own) s = some (.ok own, s) := by
  have hrun : runs env (isCached v) s = some (.ok true, s) := by
    simp only [runs_isCached, hk, hcached]
  rw [queryCheck, runs, Prog.exec_bind_ok (runs_withID_ok hrun)]
  rfl

/-- Before its first selection, `query` fails with the identifier of its request. -/
theorem runs_queryBody_early {tempID : String} {kvs : List (String × Value)} (own : Value)
    {s : State ω} (h : ¬ Selects s.deviceID_cache tempID kvs) :
    ∃ e, runs env (queryBody tempID (.dict kvs) (field kvs "relay") own) s =
      some (.error (e, own), s) := by
  cases hdev : deviceOf tempID (field kvs "relay") with
  | error e =>
    refine ⟨e, Prog.exec_bind_error (runs_withID_error ?_)⟩
    rw [runs, Prog.exec_lift, hdev]
  | ok v =>
    have hnamed : runs env (withID own (liftM (deviceOf tempID (field kvs "relay")))) s =
        some (.ok v, s) := runs_withID_ok (by rw [runs, Prog.exec_lift, hdev])
    rw [queryBody, runs, Prog.exec_bind_ok hnamed]
    -- a device that cannot be a key fails in the look-up
    cases hk : v.key with
    | error e =>
      refine ⟨e, Prog.exec_bind_error (Prog.exec_bind_error (runs_withID_error ?_))⟩
      rw [runs_isCached, hk]
    | ok k =>
      -- otherwise the device is cached, and the requirements cannot be read
      have hcached : s.deviceID_cache.has k = true := by
        by_contra hnot
        exact h ⟨v, k, hdev, hk, fun hc => absurd hc hnot⟩
      rw [Prog.exec_bind_ok (runs_queryCheck_cached hk hcached)]
      cases hreq : readRequirements (field kvs "qosRequirements") with
      | ok _ => exact absurd ⟨v, k, hdev, hk, fun _ => hreq⟩ h
      | error e =>
        refine ⟨e, ?_⟩
        have hdesc : runs env (withID own (liftM ((Value.dict kvs).get "desc"))) s =
            some (.ok (field kvs "desc"), s) := rfl
        have hqos : runs env (withID own (liftM ((Value.dict kvs).get "qosRequirements"))) s =
            some (.ok (field kvs "qosRequirements"), s) := rfl
        rw [queryRest, Prog.exec_bind_ok hdesc, Prog.exec_bind_ok hqos]
        refine Prog.exec_bind_error (runs_withID_error ?_)
        rw [runs, Prog.exec_lift, hreq]

/-! ### Where a selection is sent -/

/-- An environment that draws `n`, and answers with something that is no object. -/
def refusing (n : BitVec 32) : Env ω where
  exchange w taken _ _ := if queryID n ∈ taken then none else some (n, .none, w)
  fresh := by
    intro w w' taken q t m a h
    split at h
    · exact absurd h (by simp)
    · rename_i hfree
      obtain ⟨rfl, _⟩ := Prod.mk.inj (Option.some.inj h)
      exact hfree

/-- The state after a query to it. -/
def State.refused (s : State ω) (n : BitVec 32) : State ω :=
  { s with dbQuery_cache := s.dbQuery_cache.set (queryID n) .none }

theorem runs_send_refusing {n : BitVec 32} {s : State ω} (hn : queryID n ∉ s.dbQuery_cache.keys)
    (q : DbQuery) (t : DbTopic) :
    runs (refusing n) (send_DBquery q t) s = some (.ok (queryID n), s.refused n) := by
  have hexchange : (refusing n).exchange s.world s.dbQuery_cache.keys q t =
      some (n, .none, s.world) := if_neg hn
  rw [send_DBquery, act, runs, Prog.exec_perform, perform, hexchange]
  rfl

/-- The answer of a selection cannot be read: the failure carries its identifier. -/
theorem runs_refused {α : Type} (n : BitVec 32) (s : State ω) (own : Value) (k : String)
    (rest : Value → Handler α) :
    runs (refusing n) (withID own (dbReply (queryID n) >>= fun a => liftM (a.get k) >>= rest))
      (s.refused n) = some (.error (.attributeError, own), s.refused n) := by
  refine runs_withID_error ?_
  have hreply : runs (refusing n) (dbReply (queryID n)) (s.refused n) =
      some (.ok .none, s.refused n) := runs_dbReply (Dict.get_set_self _ _ _)
  rw [runs, Prog.exec_bind_ok hreply]
  rfl

/-- **From its first selection on**, a failure of `query` carries the identifier of that. -/
theorem runs_queryBody_refusing {tempID : String} {kvs : List (String × Value)} (own : Value)
    {s : State ω} {n : BitVec 32} (hn : queryID n ∉ s.dbQuery_cache.keys)
    (h : Selects s.deviceID_cache tempID kvs) :
    runs (refusing n) (queryBody tempID (.dict kvs) (field kvs "relay") own) s =
      some (.error (.attributeError, .str (queryID n)), s.refused n) := by
  obtain ⟨v, k, hdev, hk, hreq⟩ := h
  have hnamed : runs (refusing n) (withID own (liftM (deviceOf tempID (field kvs "relay")))) s =
      some (.ok v, s) := runs_withID_ok (by rw [runs, Prog.exec_lift, hdev])
  have hsend : ∀ q, runs (refusing n) (withID own (send_DBquery q .select)) s =
      some (.ok (queryID n), s.refused n) :=
    fun q => runs_withID_ok (runs_send_refusing hn q .select)
  rw [queryBody, runs, Prog.exec_bind_ok hnamed]
  -- the first selection is the one of the check, or the one of the reply
  cases hcached : s.deviceID_cache.has k with
  | true =>
    have hdesc : runs (refusing n) (withID own (liftM ((Value.dict kvs).get "desc"))) s =
        some (.ok (field kvs "desc"), s) := rfl
    have hqos : runs (refusing n) (withID own (liftM ((Value.dict kvs).get "qosRequirements"))) s =
        some (.ok (field kvs "qosRequirements"), s) := rfl
    have hread : runs (refusing n)
        (withID own (liftM (readRequirements (field kvs "qosRequirements")))) s =
          some (.ok (), s) := runs_withID_ok (by rw [runs, Prog.exec_lift, hreq hcached])
    rw [Prog.exec_bind_ok (runs_queryCheck_cached hk hcached), queryRest, Prog.exec_bind_ok hdesc,
      Prog.exec_bind_ok hqos, Prog.exec_bind_ok hread, Prog.exec_bind_ok (hsend _)]
    exact Prog.exec_bind_error (runs_refused n s _ "data" _)
  | false =>
    have hmissing : runs (refusing n) (withID own (isCached v)) s = some (.ok false, s) :=
      runs_withID_ok (by simp only [runs_isCached, hk, hcached])
    refine Prog.exec_bind_error ?_
    rw [queryCheck, Prog.exec_bind_ok hmissing]
    show Prog.exec _ (_ >>= _) s = _
    rw [Prog.exec_bind_ok (hsend _)]
    exact Prog.exec_bind_error (runs_refused n s _ "data" _)

/-! ## All of them -/

section Main

variable {limit : Nat} {s : State ω} {tempID : String} {kvs : List (String × Value)}

/-- No identifier is left to draw but the one of the request. -/
def OnlyOwn (s : State ω) (own : Value) : Prop :=
  ∀ n, queryID n ∉ s.dbQuery_cache.keys → Value.str (queryID n) = own

theorem handle_query (limit : Nat) (tempID : String) (kvs : List (String × Value)) :
    handle limit ⟨.query, tempID, .dict kvs⟩ =
      answer (queryBody tempID (.dict kvs) (field kvs "relay") (field kvs "queryID")) fun failed =>
        ⟨"/utilization/reply/" ++ tempID,
          .dict [("error", .int 1), ("queryID", failed.2), ("relay", field kvs "relay")]⟩ := rfl

/-- Every answer of `query` is on the topic of the requester, and carries the relay. -/
theorem query_ends {s' : State ω}
    (h : step env limit s ⟨.query, tempID, .dict kvs⟩ = some s') :
    ∃ res s1, runs env (queryBody tempID (.dict kvs) (field kvs "relay") (field kvs "queryID")) s =
        some (res, s1) ∧
      ∃ msg x, s'.published = s.published ++ [msg] ∧ Carried s (field kvs "queryID") x ∧
        (∀ failed, res = .error failed → x = failed.2) ∧
        msg.topic = Op.query.ackTopic ++ tempID ∧ msg.payload.get "queryID" = .ok x ∧
        msg.payload.get "relay" = .ok (field kvs "relay") := by
  obtain ⟨res, s1, hb, rfl⟩ := step_eq_some (handle_query limit tempID kvs) h
  rw [publish_published, mute_frame ((queryBody_marks _ _ _ _).mono fun _ => Act.Marks.mute) hb]
  refine ⟨res, s1, hb, ?_⟩
  have hres := ends_queryBody tempID kvs (field kvs "queryID") s res s1 hb
  cases res with
  | ok msg =>
    obtain ⟨y, hy, htopic, hid, hrelay⟩ := hres
    exact ⟨msg, y, rfl, hy, nofun, htopic, hid, hrelay⟩
  | error failed =>
    exact ⟨_, failed.2, rfl, hres, fun _ h => by cases h; rfl, rfl, rfl, rfl⟩

/-- **When `query` answers under the identifier of its request.** -/
theorem query_matched_iff :
    (∀ env, Matched env limit s .query tempID kvs) ↔
      ¬ Selects s.deviceID_cache tempID kvs ∨ OnlyOwn s (field kvs "queryID") := by
  refine ⟨?_, ?_⟩
  · intro h
    by_contra hnot
    rw [not_or, not_not] at hnot
    obtain ⟨hselects, hforeign⟩ := hnot
    obtain ⟨n, hn⟩ := not_forall.mp hforeign
    obtain ⟨hn, hne⟩ := Classical.not_imp.mp hn
    -- the database refuses under an identifier that is not the request's
    have hbody := runs_queryBody_refusing (field kvs "queryID") hn hselects
    have hstep : ∃ s', step (refusing n) limit s ⟨.query, tempID, .dict kvs⟩ = some s' := by
      rw [step_of_answer (handle_query limit tempID kvs), hbody]
      exact ⟨_, rfl⟩
    obtain ⟨s', hstep⟩ := hstep
    obtain ⟨msg, hpub, hmatch⟩ := h (refusing n) s' hstep
    obtain ⟨res, s1, hrun, msg', x, hpub', _, hx, _, hid, _⟩ := query_ends hstep
    obtain ⟨rfl, rfl⟩ := Prod.mk.inj (Option.some.inj (hbody.symm.trans hrun))
    obtain rfl : msg = msg' :=
      List.singleton_inj.mp (List.append_cancel_left (hpub.symm.trans hpub'))
    have hown := hmatch.id "queryID" rfl
    rw [hid, hx _ rfl] at hown
    exact hne (Except.ok.inj hown)
  · intro h env s' hstep
    obtain ⟨res, s1, hrun, msg, x, hpub, hcarried, hx, htopic, hid, hrelay⟩ := query_ends hstep
    have hown : x = field kvs "queryID" := by
      rcases h with hearly | honly
      · obtain ⟨e, he⟩ := runs_queryBody_early (field kvs "queryID") hearly
        obtain ⟨rfl, _⟩ := Prod.mk.inj (Option.some.inj (he.symm.trans hrun))
        exact hx _ rfl
      · rcases hcarried with heq | ⟨n, hn, heq⟩
        · exact heq
        · rw [heq, honly n hn]
    refine ⟨msg, hpub, htopic, fun k hk => ?_, hrelay⟩
    cases hk
    rw [hid, hown]

/--
**When every answer names its request.**

Whatever identifiers are drawn and whatever the database answers: always, except that a
`query` that sends a selection answers under the identifier of that.
-/
theorem matched_iff (limit : Nat) (s : State ω) (op : Op) (tempID : String)
    (kvs : List (String × Value)) :
    (∀ env, Matched env limit s op tempID kvs) ↔
      (op = .query → ¬ Selects s.deviceID_cache tempID kvs ∨ OnlyOwn s (field kvs "queryID")) := by
  cases op with
  | join => exact ⟨fun _ => nofun, fun _ env => join_matched⟩
  | leave => exact ⟨fun _ => nofun, fun _ env => leave_matched⟩
  | register => exact ⟨fun _ => nofun, fun _ env => register_matched⟩
  | update => exact ⟨fun _ => nofun, fun _ env => update_matched⟩
  | query =>
    rw [query_matched_iff]
    exact ⟨fun h _ => h, fun h => h rfl⟩

end Main

/-- The query of a device that is in no table. -/
def queryOfT : List (String × Value) := [("relay", .str "none"), ("queryID", .str "q1")]

/-- It is answered under the identifier of the selection. -/
theorem not_matched : ¬ Matched emptyDb 10 (start 0) .query "t" queryOfT := by
  intro h
  obtain ⟨msg, hpub, hmatch⟩ := h _ rfl
  obtain rfl := List.singleton_inj.mp hpub
  have hid := hmatch.id "queryID" rfl
  have hdrawn : Except.ok (Value.str "0x00000000") = Except.ok (Value.str "q1") := hid
  exact absurd hdrawn (by simp)

end Versatile.FlexIDMnger
