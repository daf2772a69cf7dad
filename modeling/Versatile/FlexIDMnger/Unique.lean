import Versatile.FlexIDMnger.Frames

/-!
# The device identifiers of `flexIDMnger.py` are unique

Whatever the database answers, an identifier that `join_genID` returns was not a key of the
cache before and is one after. Only the end of a successful `leave` takes a key out again.
So between two joins with one identifier there is a leave of it.
-/

namespace Versatile.FlexIDMnger

open Py

variable {ω : Type} {env : Env ω} {limit : Nat}

/-! ## One request -/

/-- The message a handler ends with. -/
def settle {ε : Type} (failure : ε → Message) : Except ε Message → Message
  | .ok msg => msg
  | .error e => failure e

/-- **A request is its `try` block**, and the message it ends with. -/
theorem step_of_answer {ε : Type} {body : Prog Act Act.Res ε Message} {failure : ε → Message}
    {r : Request} (h : handle limit r = answer body failure) (s : State ω) :
    step env limit s r =
      (runs env body s).map fun q => q.2.publish (settle failure q.1) := by
  rw [step, h, runs_answer]
  rcases runs env body s with _ | ⟨_ | _, s'⟩ <;> rfl

/-- On a payload that is no object the first access raises, outside the `try` block. -/
theorem runs_handle_not_dict {r : Request} (h : ¬ r.payload.IsDict) (s : State ω) :
    runs env (handle limit r) s = some (.error .attributeError, s) := by
  obtain ⟨op, tempID, payload⟩ := r
  cases payload with
  | dict kvs => exact absurd ⟨kvs, rfl⟩ h
  | _ => cases op <;> rfl

theorem step_not_dict {r : Request} (h : ¬ r.payload.IsDict) (s : State ω) :
    step env limit s r = some s := by
  rw [step, runs_handle_not_dict h]
  rfl

@[simp] theorem publish_cache (s : State ω) (msg : Message) :
    (s.publish msg).deviceID_cache = s.deviceID_cache := rfl

@[simp] theorem publish_published (s : State ω) (msg : Message) :
    (s.publish msg).published = s.published ++ [msg] := rfl

/-- The outcome of a request, from its `try` block. -/
theorem step_eq_some {ε : Type} {body : Prog Act Act.Res ε Message} {failure : ε → Message}
    {r : Request} {s s' : State ω} (hr : handle limit r = answer body failure)
    (h : step env limit s r = some s') :
    ∃ res s1, runs env body s = some (res, s1) ∧ s' = s1.publish (settle failure res) := by
  rw [step_of_answer hr] at h
  obtain ⟨⟨res, s1⟩, hb, rfl⟩ := Option.map_eq_some_iff.mp h
  exact ⟨res, s1, hb, rfl⟩

/-! ## Generating an identifier -/

/-- The loop over the cache ends at a candidate the cache does not know. -/
theorem newID_injective (base : String) : Function.Injective (newID · base) := by
  intro m n h
  exact Decimal.toString_nat_injective ((String.append_right_inj base).mp h)

theorem passCached_spec (cache : Dict Key Value) (base : String) (flag : Nat) :
    ∃ j, passCached cache base flag = flag + collision_inc * j ∧
      cache.has (.str (newID (flag + collision_inc * j) base)) = false ∧
      ∀ i, i < j → cache.has (.str (newID (flag + collision_inc * i) base)) = true := by
  have hlayout : Function.Injective fun f => Key.str (newID f base) :=
    fun _ _ h => newID_injective base (by simpa using h)
  exact Search.countUp_dict cache hlayout (by decide) flag

/-- **A generated identifier is new to the cache**, and known to it from then on. -/
theorem join_genID_new (base : String) :
    ∀ (limit flag : Nat) (s : State ω) {id : String} {s' : State ω},
      runs env (join_genID limit base flag) s = some (.ok id, s') →
        s.deviceID_cache.has (.str id) = false ∧ s'.deviceID_cache.has (.str id) = true
  | 0, flag, s, id, s', h => by
      have hraise : runs env (join_genID 0 base flag) s = some (.error .recursionError, _) := rfl
      exact absurd (hraise.symm.trans h) (by simp)
  | limit + 1, flag, s, id, s', h => by
      obtain ⟨j, hj, hnot, _⟩ := passCached_spec s.deviceID_cache base flag
      obtain ⟨cache, s0, h0, h⟩ := Prog.exec_bind_eq_ok.mp h
      obtain ⟨rfl, rfl⟩ : s.deviceID_cache = cache ∧ s = s0 := by simpa using h0
      rw [← hj] at hnot
      obtain ⟨_, s1, h1, h⟩ := Prog.exec_bind_eq_ok.mp h
      obtain ⟨exist, s2, h2, h⟩ := Prog.exec_bind_eq_ok.mp h
      obtain ⟨_, s3, h3, h⟩ := Prog.exec_bind_eq_ok.mp h
      -- from here on the cache only grows
      have hgrow : ∀ k, s.deviceID_cache.has k = true → s3.deviceID_cache.has k = true := by
        intro k hk
        have g1 := (marks_frame (cacheSet_marks _ _) h1).1 k hk
        have g2 := (marks_frame ((askData_asks _).mono fun _ => Act.Asks.marks) h2).1 k g1
        exact (marks_frame (Prog.only_bind (Prog.only_lift _) fun _ => cacheSet_marks _ _) h3).1
          k g2
      split at h
      · obtain ⟨rfl, rfl⟩ : _ = id ∧ s3 = s' := by simpa using h
        obtain ⟨_, rfl⟩ := Prod.mk.inj (Option.some.inj ((runs_cacheTrue_str _ _ _).symm.trans h3))
        exact ⟨hnot, by simp⟩
      · obtain ⟨hnew, hknown⟩ := join_genID_new base limit _ s3 h
        refine ⟨?_, hknown⟩
        -- an identifier known before the call would still be known to the recursion
        cases hold : s.deviceID_cache.has (.str id) with
        | false => rfl
        | true => rw [hgrow _ hold] at hnew; exact absurd hnew (by simp)

/-! ## Leaving -/

/-- The rest of `leave`, once the database answered: the cache decides how it ends. -/
theorem runs_leaveBody {tempID d : String} {relay : Value} {s : State ω}
    (hdev : deviceOf tempID relay = .ok (.str d)) :
    runs env (leaveBody tempID relay) s =
      match runs env (askError (deviceQuery (.str d)) .delete "Leave DB error") s with
      | some (.ok (), s') =>
        some (if s'.deviceID_cache.has (.str d)
            then .ok ⟨"/configuration/leave_ack/" ++ tempID,
              .dict [("error:", .int 0), ("relay", relay)]⟩
            else .error .keyError,
          { s' with deviceID_cache := s'.deviceID_cache.erase (.str d) })
      | some (.error e, s') => some (.error e, s')
      | none => none := by
  rw [leaveBody]
  simp only [runs, Prog.exec_bind, Prog.exec_lift, hdev, Value.asStr_str]
  rcases Prog.exec (perform env) (askError (deviceQuery (.str d)) .delete "Leave DB error") s with
    _ | ⟨_ | _, s'⟩
  · rfl
  · rfl
  · have hdel := runs_cacheDel env s' d
    simp only [runs] at hdel
    simp only [hdel]
    cases s'.deviceID_cache.has (.str d) <;> rfl

/-- A leave that names no device fails at once. -/
theorem runs_leaveBody_unnamed (env : Env ω) {tempID : String} {relay : Value}
    (hno : ∀ d, deviceOf tempID relay ≠ .ok (.str d)) (s : State ω) :
    ∃ e, runs env (leaveBody tempID relay) s = some (.error e, s) := by
  rw [leaveBody, runs, Prog.exec_bind, Prog.exec_lift]
  cases hdev : deviceOf tempID relay with
  | error e => exact ⟨e, rfl⟩
  | ok v =>
    simp only [Prog.exec_bind, Prog.exec_lift]
    cases hstr : v.asStr with
    | error e => exact ⟨e, rfl⟩
    | ok d => exact absurd (hdev.trans (by rw [Value.asStr_eq_ok.mp hstr])) (hno d)

/-! ## Joins and leaves that are acknowledged -/

/-- The request publishes one message, which reports success. -/
def Succeeds (env : Env ω) (limit : Nat) (s : State ω) (r : Request) (s' : State ω)
    (ack : Message) : Prop :=
  step env limit s r = some s' ∧ s'.published = s.published ++ [ack] ∧
    ack.payload.get "error:" = .ok (.int 0)

/-- A join is acknowledged with the identifier `d`. -/
def JoinedAs (env : Env ω) (limit : Nat) (s : State ω) (r : Request) (s' : State ω) (d : String) :
    Prop :=
  r.op = .join ∧ ∃ ack, Succeeds env limit s r s' ack ∧ ack.payload.get "id" = .ok (.str d)

/-- A leave of `d` is acknowledged. -/
def LeftAs (env : Env ω) (limit : Nat) (s : State ω) (r : Request) (s' : State ω) (d : String) :
    Prop :=
  r.op = .leave ∧
    (∃ kvs, r.payload = .dict kvs ∧ deviceOf r.tempID (field kvs "relay") = .ok (.str d)) ∧
    ∃ ack, Succeeds env limit s r s' ack

/-- A join that goes through tells its device the identifier. -/
theorem joinRows_ok {tempID d : String} {payload relay : Value} {s s' : State ω} {msg : Message}
    (h : runs env (joinRows tempID payload relay d) s = some (.ok msg, s')) :
    msg = ⟨"/configuration/join_ack/" ++ tempID,
      .dict [("error:", .int 0), ("id", .str d), ("relay", relay)]⟩ := by
  obtain ⟨_, _, _, h⟩ := Prog.exec_bind_eq_ok.mp h
  obtain ⟨_, _, _, h⟩ := Prog.exec_bind_eq_ok.mp h
  obtain ⟨_, _, _, h⟩ := Prog.exec_bind_eq_ok.mp h
  obtain ⟨_, _, _, h⟩ := Prog.exec_bind_eq_ok.mp h
  obtain ⟨rfl, _⟩ : _ = msg ∧ _ := by simpa using h
  rfl

/-- **A join that is acknowledged with `d`** found `d` missing in the cache, and left it there. -/
theorem joinedAs_new {s s' : State ω} {r : Request} {d : String}
    (h : JoinedAs env limit s r s' d) :
    s.deviceID_cache.has (.str d) = false ∧ s'.deviceID_cache.has (.str d) = true := by
  obtain ⟨op, tempID, payload⟩ := r
  obtain ⟨hop, ack, ⟨hstep, hpub, herr⟩, hid⟩ := h
  obtain rfl : op = .join := hop
  by_cases hdict : payload.IsDict
  · obtain ⟨kvs, rfl⟩ := hdict
    have hjoin : handle limit ⟨.join, tempID, .dict kvs⟩ =
      answer (joinBody limit tempID (.dict kvs) (field kvs "relay")) _ := rfl
    obtain ⟨res, s1, hb, rfl⟩ := step_eq_some hjoin hstep
    rw [publish_published, (marks_frame (joinBody_marks _ _ _ _) hb).2] at hpub
    have hack := List.singleton_inj.mp (List.append_cancel_left hpub)
    -- a failure would report an error
    cases res with
    | error e =>
      rw [← hack] at herr
      have hone : Except.ok (Value.int 1) = Except.ok (Value.int 0) := herr
      exact absurd hone (by simp)
    | ok msg =>
      obtain ⟨v, t1, h1, hb⟩ := Prog.exec_bind_eq_ok.mp hb
      obtain ⟨base, t2, h2, hb⟩ := Prog.exec_bind_eq_ok.mp hb
      obtain ⟨d', t3, hgen, hrows⟩ := Prog.exec_bind_eq_ok.mp hb
      obtain ⟨_, rfl⟩ : _ ∧ s = t1 := by simpa using h1
      obtain ⟨_, rfl⟩ : _ ∧ s = t2 := by simpa using h2
      obtain ⟨hnew, hknown⟩ := join_genID_new base limit 0 s hgen
      obtain rfl : d' = d := by
        rw [← hack, settle, joinRows_ok hrows] at hid
        have heq : Except.ok (Value.str d') = Except.ok (Value.str d) := hid
        simpa using heq
      rw [publish_cache, (asks_frame (joinRows_asks _ _ _ _) hrows).1]
      exact ⟨hnew, hknown⟩
  · rw [step_not_dict hdict] at hstep
    obtain rfl : s = s' := by simpa using hstep
    exact absurd hpub (by simp)

/-- A key that a `leave` takes out of the cache is its own device, and the leave succeeds. -/
theorem leave_removes {tempID : String} {kvs : List (String × Value)} {s s' : State ω} {k : Key}
    (h : step env limit s ⟨.leave, tempID, .dict kvs⟩ = some s')
    (hk : s.deviceID_cache.has k = true) (hk' : s'.deviceID_cache.has k = false) :
    ∃ d, k = .str d ∧ LeftAs env limit s ⟨.leave, tempID, .dict kvs⟩ s' d := by
  have hstep := h
  have hleave : handle limit ⟨.leave, tempID, .dict kvs⟩ =
    answer (leaveBody tempID (field kvs "relay")) _ := rfl
  obtain ⟨res, s1, hb, rfl⟩ := step_eq_some hleave h
  rw [publish_cache] at hk'
  rcases deviceOf_cases tempID (field kvs "relay") with ⟨d, hdev⟩ | hno
  · rw [runs_leaveBody hdev] at hb
    rcases hask : runs env (askError (deviceQuery (.str d)) .delete "Leave DB error") s with
      _ | ⟨_ | _, s0⟩
    · rw [hask] at hb; exact absurd hb (by simp)
    · rw [hask] at hb
      obtain ⟨_, rfl⟩ : _ ∧ s0 = s1 := by simpa using hb
      rw [(asks_frame (askError_asks _ _ _) hask).1, hk] at hk'
      exact absurd hk' (by simp)
    · rw [hask] at hb
      obtain ⟨hcache, hpub⟩ := asks_frame (askError_asks _ _ _) hask
      obtain ⟨hres, rfl⟩ :
          _ ∧ { s0 with deviceID_cache := s0.deviceID_cache.erase (.str d) } = s1 := by
        simpa using hb
      rw [hcache] at hres
      -- only the key of `d` is gone
      have hkd : k = .str d := by
        by_contra hne
        simp only [Dict.has_erase, hcache, hk, decide_eq_false hne] at hk'
        exact absurd hk' (by simp)
      rw [← hkd, if_pos hk] at hres
      refine ⟨d, hkd, rfl, ⟨kvs, rfl, hdev⟩, _, hstep, by rw [publish_published, hpub], ?_⟩
      rw [← hres]
      rfl
  · obtain ⟨e, he⟩ := runs_leaveBody_unnamed env hno s
    obtain ⟨_, rfl⟩ : _ ∧ s = s1 := by simpa using he.symm.trans hb
    rw [hk] at hk'; exact absurd hk' (by simp)

/-- **Preserved by every request, except a leave**: a key of the cache stays, or the request
is the acknowledged leave of that device. -/
theorem step_cache {s s' : State ω} {r : Request} {k : Key} (h : step env limit s r = some s')
    (hk : s.deviceID_cache.has k = true) :
    s'.deviceID_cache.has k = true ∨ ∃ d, k = .str d ∧ LeftAs env limit s r s' d := by
  obtain ⟨op, tempID, payload⟩ := r
  by_cases hdict : payload.IsDict
  · obtain ⟨kvs, rfl⟩ := hdict
    -- the body of any other handler only marks
    have hmarks : ∀ {ε : Type} {body : Prog Act Act.Res ε Message} {failure : ε → Message},
        handle limit ⟨op, tempID, .dict kvs⟩ = answer body failure → Prog.Only Act.Marks body →
        s'.deviceID_cache.has k = true := by
      intro ε body failure heq hbody
      obtain ⟨res, s1, hb, rfl⟩ := step_eq_some heq h
      exact (marks_frame hbody hb).1 k hk
    cases op with
    | join => exact Or.inl (hmarks rfl (joinBody_marks _ _ _ _))
    | leave =>
      cases hk' : s'.deviceID_cache.has k with
      | true => exact Or.inl rfl
      | false => exact Or.inr (leave_removes h hk hk')
    | register => exact Or.inl (hmarks rfl (registerBody_marks _ _ _ _ _))
    | update => exact Or.inl (hmarks rfl (updateBody_marks _ _ _ _))
    | query => exact Or.inl (hmarks rfl (queryBody_marks _ _ _ _))
  · rw [step_not_dict hdict] at h
    obtain rfl : s = s' := by simpa using h
    exact Or.inl hk

/-! ## Runs -/

theorem run_cons (s : State ω) (r : Request) (rs : List Request) :
    run env limit s (r :: rs) = (step env limit s r).bind fun s' => run env limit s' rs :=
  List.foldlM_cons ..

/-- **A device that is cached at one point of a run and not at a later one** has left in
between. -/
theorem run_left {d : String} (rs : List Request) :
    ∀ {s s' : State ω}, run env limit s rs = some s' →
      s.deviceID_cache.has (.str d) = true → s'.deviceID_cache.has (.str d) = false →
      ∃ before l after t t', rs = before ++ l :: after ∧ run env limit s before = some t ∧
        LeftAs env limit t l t' d := by
  induction rs with
  | nil =>
    intro s s' h hk hk'
    obtain rfl : s = s' := by simpa [run] using h
    rw [hk] at hk'; exact absurd hk' (by simp)
  | cons r rs ih =>
    intro s s' h hk hk'
    rw [run_cons] at h
    obtain ⟨s1, hstep, hrest⟩ := Option.bind_eq_some_iff.mp h
    -- the key goes with this request, or with one of the rest
    rcases step_cache hstep hk with hk1 | ⟨d', hd', hleft⟩
    · obtain ⟨before, l, after, t, t', rfl, hbefore, hleft⟩ := ih hrest hk1 hk'
      exact ⟨r :: before, l, after, t, t', rfl, by rw [run_cons, hstep]; exact hbefore, hleft⟩
    · obtain rfl : d = d' := by simpa using hd'
      exact ⟨[], r, rs, s, s1, rfl, rfl, hleft⟩

/--
**Device identifiers are unique among the devices that have not left.**

In a run, between two joins that are acknowledged with one identifier there is an
acknowledged leave of it, whatever the database answers.
-/
theorem device_ids_unique {s s1 s1' s2 s2' : State ω} {before mid : List Request}
    {r1 r2 : Request} {d : String} (hbefore : run env limit s before = some s1)
    (h1 : JoinedAs env limit s1 r1 s1' d) (hmid : run env limit s1' mid = some s2)
    (h2 : JoinedAs env limit s2 r2 s2' d) :
    ∃ mid1 l mid2 t t', mid = mid1 ++ l :: mid2 ∧
      run env limit s (before ++ r1 :: mid1) = some t ∧ LeftAs env limit t l t' d := by
  obtain ⟨mid1, l, mid2, t, t', rfl, ht, hleft⟩ :=
    run_left mid hmid (joinedAs_new h1).2 (joinedAs_new h2).1
  refine ⟨mid1, l, mid2, t, t', rfl, ?_, hleft⟩
  obtain ⟨_, _, ⟨hstep, _⟩, _⟩ := h1
  rw [run, List.foldlM_append, ← run, hbefore]
  show run env limit s1 (r1 :: mid1) = some t
  rw [run_cons, hstep]
  exact ht

/-- The device `t` joins. -/
def joinOfT : Request := ⟨.join, "t", .dict oneInterface⟩

/-- The identifier it is given leaves. -/
def leaveOfT : Request := ⟨.leave, "t0", .dict [("relay", .str "none")]⟩

/-- The process after the first of these. -/
def afterJoin : State (BitVec 32) := (step emptyDb 10 (start 0) joinOfT).getD (start 0)

/-- The process after both. -/
def afterLeave : State (BitVec 32) := (step emptyDb 10 afterJoin leaveOfT).getD afterJoin

/-- The process after the second join. -/
def afterRejoin : State (BitVec 32) := (step emptyDb 10 afterLeave joinOfT).getD afterLeave

/-- The same identifier twice, with a leave of it in between. -/
theorem device_ids_unique_rejoin :
    ∃ mid1 l mid2 t t', [leaveOfT] = mid1 ++ l :: mid2 ∧
      run emptyDb 10 (start 0) ([] ++ joinOfT :: mid1) = some t ∧
      LeftAs emptyDb 10 t l t' "t0" := by
  have h1 : JoinedAs emptyDb 10 (start 0) joinOfT afterJoin "t0" := ⟨rfl, _, ⟨rfl, rfl, rfl⟩, rfl⟩
  have hmid : run emptyDb 10 afterJoin [leaveOfT] = some afterLeave := rfl
  have h2 : JoinedAs emptyDb 10 afterLeave joinOfT afterRejoin "t0" :=
    ⟨rfl, _, ⟨rfl, rfl, rfl⟩, rfl⟩
  exact device_ids_unique rfl h1 hmid h2

end Versatile.FlexIDMnger
