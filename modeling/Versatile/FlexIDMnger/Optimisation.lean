import Versatile.FlexIDMnger.JoinOutcome
import Versatile.FlexIDMnger.QueryOutcome

/-!
# What `deviceID_cache` changes

Registrations and updates end alike with any two caches of one database (`RemoteDb`). The
other three do not always: `leave` deletes a key that only one of the caches may have, `query`
answers under the identifier of a selection only where it makes one, and `join` recurses for
each stored candidate that its cache does not know.
-/

namespace Versatile.FlexIDMnger

open Py

variable {ω ω' δ : Type} {env : Env ω} {env' : Env ω'} {rdb : RemoteDb δ} {view : ω → δ}
  {view' : ω' → δ}

/-! ## `leave` -/

/-- The database deletes a device. -/
def Deletes (rdb : RemoteDb δ) (d : δ) (id : String) : Prop :=
  Accepted (rdb.respond d (deviceByID id) .delete).1

/-- **How `leave` ends**: where the database deletes the device, by the cache. -/
theorem leaveBody_outcome (hdb : Backed env rdb view) {tempID id : String} {relay : Value}
    {s s' : State ω} {r : Except Exc Message} (hdev : deviceOf tempID relay = .ok (.str id))
    (h : runs env (leaveBody tempID relay) s = some (r, s')) :
    view s'.world = (changeDb rdb (deviceByID id) .delete "Leave DB error" (view s.world)).2 ∧
      ((Deletes rdb (view s.world) id ∧ s.deviceID_cache.has (.str id) = true ∧
          r = .ok ⟨"/configuration/leave_ack/" ++ tempID,
            .dict [("error:", .int 0), ("relay", relay)]⟩) ∨
        ((Deletes rdb (view s.world) id → s.deviceID_cache.has (.str id) = false) ∧
          ∃ e, r = .error e)) := by
  rw [runs_leaveBody hdev] at h
  rcases hask : runs env (askError (deviceQuery (.str id)) .delete "Leave DB error") s with
    _ | ⟨r1, s1⟩
  · rw [hask] at h; exact absurd h (by simp)
  · have hchange := askError_refines hdb _ _ _ s r1 s1 hask
    have hdeletes : Deletes rdb (view s.world) id ↔ r1 = .ok () := by
      rw [Deletes, ← checkError_eq_ok "Leave DB error"]
      exact iff_of_eq (congrArg (· = _) (congrArg Prod.fst hchange))
    have hview : (changeDb rdb (deviceByID id) .delete "Leave DB error" (view s.world)).2 =
      view s1.world := congrArg Prod.snd hchange
    rw [hview, hdeletes]
    rw [hask] at h
    -- the database was asked first: whatever happens next, it stays changed
    cases r1 with
    | error e =>
      obtain ⟨rfl, rfl⟩ := Prod.mk.inj (Option.some.inj h)
      exact ⟨rfl, Or.inr ⟨fun hok => absurd hok (by simp), e, rfl⟩⟩
    | ok _ =>
      obtain ⟨rfl, rfl⟩ := Prod.mk.inj (Option.some.inj h)
      rw [(asks_frame (askError_asks _ _ _) hask).1]
      refine ⟨rfl, ?_⟩
      cases hhas : s.deviceID_cache.has (.str id) with
      | true => exact Or.inl ⟨rfl, rfl, rfl⟩
      | false => exact Or.inr ⟨fun _ => rfl, .keyError, rfl⟩

/-- What `leave` does not depend on: a deletion succeeds only for a cache that knows the
device. -/
def LeaveIndifferent (rdb : RemoteDb δ) (d : δ) (cache cache' : Dict Key Value) (tempID : String)
    (relay : Value) : Prop :=
  ∀ id, deviceOf tempID relay = .ok (.str id) → Deletes rdb d id →
    cache.has (.str id) = cache'.has (.str id)

/-- The failure of `leave`. -/
def leaveFailure (tempID : String) (relay : Value) : Message :=
  ⟨"/configuration/leave_ack/" ++ tempID, .dict [("error:", .int 1), ("relay", relay)]⟩

theorem leave_same_iff (hdb : Backed env rdb view) (hdb' : Backed env' rdb view')
    {tempID : String} {relay : Value} {s s1 : State ω} {t t1 : State ω'}
    (hview : view s.world = view' t.world) {r r' : Except Exc Message}
    (h : runs env (leaveBody tempID relay) s = some (r, s1))
    (h' : runs env' (leaveBody tempID relay) t = some (r', t1)) :
    (SameAck (settle (fun _ => leaveFailure tempID relay) r)
          (settle (fun _ => leaveFailure tempID relay) r') ∧ view s1.world = view' t1.world) ↔
      LeaveIndifferent rdb (view s.world) s.deviceID_cache t.deviceID_cache tempID relay := by
  rcases deviceOf_cases tempID relay with ⟨id, hdev⟩ | hno
  · obtain ⟨hw, hends⟩ := leaveBody_outcome hdb hdev h
    obtain ⟨hw', hends'⟩ := leaveBody_outcome hdb' hdev h'
    rw [← hview] at hw' hends'
    have hindiff : LeaveIndifferent rdb (view s.world) s.deviceID_cache t.deviceID_cache tempID
        relay ↔ (Deletes rdb (view s.world) id →
          s.deviceID_cache.has (.str id) = t.deviceID_cache.has (.str id)) := by
      refine ⟨?_, ?_⟩
      · intro hall hdel
        exact hall id hdev hdel
      · intro hall id' hdev' hdel
        obtain rfl : id = id' := by simpa [hdev] using hdev'
        exact hall hdel
    rw [hindiff, hw, hw']
    -- they differ where one cache knows the device and the other does not
    rcases hends with ⟨hdel, hhas, rfl⟩ | ⟨hmiss, e, rfl⟩ <;>
      rcases hends' with ⟨hdel', hhas', rfl⟩ | ⟨hmiss', e', rfl⟩
    · exact ⟨fun _ _ => hhas.trans hhas'.symm, fun _ => ⟨SameAck.refl _, rfl⟩⟩
    · refine ⟨fun hsame => absurd hsame.1 not_sameAck, fun heq => ?_⟩
      have := heq hdel
      rw [hhas, hmiss' hdel] at this; exact absurd this (by simp)
    · refine ⟨fun hsame => absurd hsame.1.symm not_sameAck, fun heq => ?_⟩
      have := heq hdel'
      rw [hhas', hmiss hdel'] at this; exact absurd this (by simp)
    · refine ⟨fun _ hdel => ?_, fun _ => ⟨SameAck.refl _, rfl⟩⟩
      rw [hmiss hdel, hmiss' hdel]
  · obtain ⟨e, he⟩ := runs_leaveBody_unnamed env hno s
    obtain ⟨e', he'⟩ := runs_leaveBody_unnamed env' hno t
    obtain ⟨rfl, rfl⟩ := Prod.mk.inj (Option.some.inj (he.symm.trans h))
    obtain ⟨rfl, rfl⟩ := Prod.mk.inj (Option.some.inj (he'.symm.trans h'))
    exact ⟨fun _ id hdev => absurd hdev (hno id), fun _ => ⟨SameAck.refl _, hview⟩⟩

/-! ## All requests -/

/-- **What a request does not depend on**: registrations and updates on nothing the cache
knows, and the others as said above. -/
def Indifferent (rdb : RemoteDb δ) (limit : Nat) (d : δ) (cache cache' : Dict Key Value) :
    Request → Prop
  | ⟨.join, tempID, .dict kvs⟩ =>
    JoinIndifferent rdb limit d cache cache' tempID (.dict kvs) (field kvs "relay")
  | ⟨.leave, tempID, .dict kvs⟩ =>
    LeaveIndifferent rdb d cache cache' tempID (field kvs "relay")
  | ⟨.query, tempID, .dict kvs⟩ => QueryIndifferent cache cache' tempID kvs
  | _ => True

/-- Two runs that refine one program on the database end alike. -/
theorem refines_same {ε : Type} {p : Prog Act Act.Res ε Message} {f : Proc ε δ Message}
    {failure : ε → Message} {s s1 : State ω} {t t1 : State ω'} {r r' : Except ε Message}
    (hview : view s.world = view' t.world) (hp : RefinesDb env view p f s)
    (hp' : RefinesDb env' view' p f t) (h : runs env p s = some (r, s1))
    (h' : runs env' p t = some (r', t1)) :
    SameAck (settle failure r) (settle failure r') ∧ view s1.world = view' t1.world := by
  have hf : f (view s.world) = (r, view s1.world) := hp r s1 h
  have hf' : f (view' t.world) = (r', view' t1.world) := hp' r' t1 h'
  rw [hview, hf'] at hf
  obtain ⟨rfl, hw⟩ := Prod.mk.inj hf
  exact ⟨SameAck.refl _, hw.symm⟩

/-- Two runs of one `try` block, as two requests. -/
theorem sameOutcome_of_answer {ε : Type} {body : Prog Act Act.Res ε Message}
    {failure : ε → Message} {limit : Nat} {r : Request} {P : Prop} {s s' : State ω}
    {t t' : State ω'} (hr : handle limit r = answer body failure)
    (hmute : Prog.Only Act.Mute body) (hs : step env limit s r = some s')
    (ht : step env' limit t r = some t')
    (hbody : ∀ res s1 res' t1, runs env body s = some (res, s1) →
      runs env' body t = some (res', t1) →
      ((SameAck (settle failure res) (settle failure res') ∧ view s1.world = view' t1.world) ↔
        P)) :
    SameOutcome view view' s s' t t' ↔ P := by
  obtain ⟨res, s1, hb, rfl⟩ := step_eq_some hr hs
  obtain ⟨res', t1, hb', rfl⟩ := step_eq_some hr ht
  rw [sameOutcome_publish (mute_frame hmute hb) (mute_frame hmute hb')]
  exact hbody res s1 res' t1 hb hb'

/--
**When `deviceID_cache` is only an optimisation.**

Two processes with caches of one database take one request: they publish the same and leave
the same database exactly where the request is indifferent to the difference.
-/
theorem sameOutcome_iff (hdb : Backed env rdb view) (hdb' : Backed env' rdb view') {limit : Nat}
    {r : Request} {s s' : State ω} {t t' : State ω'} (hview : view s.world = view' t.world)
    (hcache : CacheOf rdb (view s.world) s.deviceID_cache)
    (hcache' : CacheOf rdb (view s.world) t.deviceID_cache) (hs : step env limit s r = some s')
    (ht : step env' limit t r = some t') :
    SameOutcome view view' s s' t t' ↔
      Indifferent rdb limit (view s.world) s.deviceID_cache t.deviceID_cache r := by
  obtain ⟨op, tempID, payload⟩ := r
  by_cases hdict : payload.IsDict
  · obtain ⟨kvs, rfl⟩ := hdict
    cases op with
    | join =>
      exact sameOutcome_of_answer rfl ((joinBody_marks _ _ _ _).mono fun _ => Act.Marks.mute) hs ht
        fun _ _ _ _ h h' => join_same_iff hdb hdb' hview hcache hcache' h h'
    | leave =>
      exact sameOutcome_of_answer rfl (leaveBody_mute _ _) hs ht
        fun _ _ _ _ h h' => leave_same_iff hdb hdb' hview h h'
    | register =>
      exact sameOutcome_of_answer rfl ((registerBody_marks _ _ _ _ _).mono fun _ => Act.Marks.mute)
        hs ht fun _ _ _ _ h h' => iff_of_true (refines_same hview
          (registerBody_refines hdb hcache) (registerBody_refines hdb' (hview ▸ hcache')) h h')
            trivial
    | update =>
      exact sameOutcome_of_answer rfl ((updateBody_marks _ _ _ _).mono fun _ => Act.Marks.mute)
        hs ht fun _ _ _ _ h h' => iff_of_true (refines_same hview
          (updateBody_refines hdb hcache) (updateBody_refines hdb' (hview ▸ hcache')) h h') trivial
    | query =>
      exact sameOutcome_of_answer rfl ((queryBody_marks _ _ _ _).mono fun _ => Act.Marks.mute) hs ht
        fun _ _ _ _ h h' => query_same_iff hdb hdb' hview hcache hcache' h h'
  · rw [step_not_dict hdict] at hs ht
    obtain rfl := Option.some.inj hs
    obtain rfl := Option.some.inj ht
    have hindiff : Indifferent rdb limit (view s.world) s.deviceID_cache t.deviceID_cache
        ⟨op, tempID, payload⟩ := by
      cases payload with
      | dict kvs => exact absurd ⟨kvs, rfl⟩ hdict
      | _ => cases op <;> trivial
    refine iff_of_true ⟨⟨[], [], ?_, ?_, .nil⟩, hview⟩ hindiff
    · rw [List.append_nil]
    · rw [List.append_nil]

/-- A process on a database with the device `t0`, and a cache. -/
def withT0 (cache : Dict Key Value) : State (List String × BitVec 32) :=
  { start (["t0"], 0) with deviceID_cache := cache }

/-- The cache that knows it. -/
def cacheT0 : Dict Key Value := [(.str "t0", .bool true)]

theorem cacheT0_of : CacheOf deviceDb ["t0"] cacheT0 := by
  intro k hk
  rw [Dict.has, cacheT0, Dict.get_cons, Dict.get_nil] at hk
  by_cases heq : k = .str "t0"
  · exact ⟨"t0", heq, rfl⟩
  · rw [if_neg heq] at hk; exact absurd hk (by simp)

theorem emptyCache_of {d : δ} : CacheOf rdb d [] := fun _ hk => absurd hk (by simp)

/-- The fields of a query of the device. -/
def queryOfT0Fields : List (String × Value) :=
  [("relay", .str "none"), ("queryID", .str "q1"), ("qosRequirements", .list [])]

/-- The query. -/
def queryOfT0 : Request := ⟨.query, "t0", .dict queryOfT0Fields⟩

/-- It is replied to with both caches. -/
theorem sameOutcome_query : ∃ s t, step deviceDb.answering 10 (withT0 cacheT0) queryOfT0 = some s ∧
    step deviceDb.answering 10 (withT0 []) queryOfT0 = some t ∧
    SameOutcome Prod.fst Prod.fst (withT0 cacheT0) s (withT0 []) t := by
  obtain ⟨s, hs⟩ : ∃ s, step deviceDb.answering 10 (withT0 cacheT0) queryOfT0 = some s :=
    ⟨_, rfl⟩
  obtain ⟨t, ht⟩ : ∃ t, step deviceDb.answering 10 (withT0 []) queryOfT0 = some t := ⟨_, rfl⟩
  have hselects : ∀ cache, Selects cache "t0" queryOfT0Fields :=
    fun _ => ⟨.str "t0", .str "t0", rfl, rfl, fun _ => rfl⟩
  have hindiff : QueryIndifferent cacheT0 [] "t0" queryOfT0Fields :=
    Or.inl (iff_of_true (hselects _) (hselects _))
  have hview : (withT0 cacheT0).world.1 = (withT0 []).world.1 := rfl
  have hiff := sameOutcome_iff deviceDb.answering_backed deviceDb.answering_backed hview
    cacheT0_of emptyCache_of hs ht
  exact ⟨s, t, hs, ht, hiff.mpr hindiff⟩

/-- Its leave. -/
def leaveOfT0 : Request := ⟨.leave, "t0", .dict [("relay", .str "none")]⟩

/-- **A restarted manager lets it leave, and answers that it failed.** -/
theorem not_sameOutcome : CacheOf deviceDb ["t0"] cacheT0 ∧ CacheOf deviceDb ["t0"] [] ∧
    ∃ s t, step deviceDb.answering 10 (withT0 cacheT0) leaveOfT0 = some s ∧
      step deviceDb.answering 10 (withT0 []) leaveOfT0 = some t ∧
      ¬ SameOutcome Prod.fst Prod.fst (withT0 cacheT0) s (withT0 []) t := by
  refine ⟨cacheT0_of, emptyCache_of, _, _, rfl, rfl, fun hsame => ?_⟩
  exact not_sameAck (hsame.sameAck rfl rfl)

end Versatile.FlexIDMnger
