import Versatile.FlexIDMnger.SameOutcome

/-!
# What a join does with two caches of one database

The search for an identifier passes the candidates that its cache knows, and recurses for each
stored one that it does not know. It ends at the first candidate that is not stored, the same
for every cache of the database, unless the recursion gets too deep before.
-/

namespace Versatile.FlexIDMnger

open Py

variable {ω ω' δ : Type} {env : Env ω} {env' : Env ω'} {rdb : RemoteDb δ} {view : ω → δ}
  {view' : ω' → δ}

theorem Backed.truthful (hdb : Backed env rdb view) :
    Truthful env deviceByID fun w => rdb.device (view w) where
  data := by
    intro w w' taken id n a h
    refine ⟨_, by rw [hdb.answer h, get_field], ?_⟩
    exact rdb.device_data (view w) id
  keeps := by
    intro w w' taken q n a h
    show rdb.device (view w') = rdb.device (view w)
    rw [hdb.moves h, rdb.select_keeps]

/-- The first candidate for a base that no device has. -/
def FirstNew (rdb : RemoteDb δ) (d : δ) (base : String) (k : Nat) : Prop :=
  rdb.device d (candidate base 0 k) = false ∧
    ∀ j, j < k → rdb.device d (candidate base 0 j) = true

/-- The search for it fits into the recursion limit: one level for each candidate before it
that the cache does not know. -/
def Fits (rdb : RemoteDb δ) (limit : Nat) (d : δ) (cache : Dict Key Value) (base : String) :
    Prop :=
  ∃ k, FirstNew rdb d base k ∧
    Search.probes (fun i => cache.has (.str (candidate base 0 i))) k < limit

theorem FirstNew.unique {d : δ} {base : String} {k k' : Nat} (h : FirstNew rdb d base k)
    (h' : FirstNew rdb d base k') : k = k' := by
  rcases Nat.lt_trichotomy k k' with hlt | heq | hgt
  · have := h'.2 k hlt; rw [h.1] at this; exact absurd this (by simp)
  · exact heq
  · have := h.2 k' hgt; rw [h'.1] at this; exact absurd this (by simp)

/-- **How `join_genID` ends** with a cache of the database: with the first new candidate,
where the search fits. -/
theorem join_genID_outcome (hdb : Backed env rdb view) {limit : Nat} {base : String}
    {s s' : State ω} {r : Except Exc String}
    (hcache : CacheOf rdb (view s.world) s.deviceID_cache)
    (h : runs env (join_genID limit base 0) s = some (r, s')) :
    (∃ k, Fits rdb limit (view s.world) s.deviceID_cache base ∧
        FirstNew rdb (view s.world) base k ∧ r = .ok (candidate base 0 k)) ∨
      (¬ Fits rdb limit (view s.world) s.deviceID_cache base ∧ ∃ e, r = .error e) := by
  obtain ⟨o, hrun, hret⟩ := join_genID_search hdb.truthful h
  have hsettled := hrun.settled (by simp [Search.probes])
  -- a candidate that is passed is stored: the cache knows no others
  have hstored : ∀ j, ¬ Search.Free (cachedCandidate base 0 s)
      (storedCandidate (rdb.device (view s.world)) base 0) j →
      rdb.device (view s.world) (candidate base 0 j) = true := by
    intro j hj
    by_contra hnot
    have hmissing : rdb.device (view s.world) (candidate base 0 j) = false := by simpa using hnot
    refine hj ⟨?_, hmissing⟩
    by_contra hcached
    obtain ⟨id, heq, hdevice⟩ := hcache _ (by simpa [cachedCandidate] using hcached)
    cases heq
    exact hnot hdevice
  -- so the first new candidate is the first free one of the search
  have hfree : ∀ k, FirstNew rdb (view s.world) base k → Search.Free (cachedCandidate base 0 s)
      (storedCandidate (rdb.device (view s.world)) base 0) k := by
    intro k hk
    by_contra hnot
    have := hstored k hnot
    rw [hk.1] at this; exact absurd this (by simp)
  cases o with
  | found k =>
    obtain ⟨hscan, hfreek, hok⟩ := hsettled
    have hfirst : FirstNew rdb (view s.world) base k :=
      ⟨hfreek.2, fun j hj => hstored j (hscan.free j (Nat.zero_le j) hj)⟩
    refine Or.inl ⟨k, ⟨k, hfirst, ?_⟩, hfirst, hret⟩
    by_contra hdeep
    exact hok ⟨hfreek.1, Nat.le_of_not_lt hdeep⟩
  | failed k =>
    obtain ⟨hscan, hbroken⟩ := hsettled
    refine Or.inr ⟨?_, hret⟩
    intro hsome
    obtain ⟨k', hfirst, hfits⟩ := hsome
    -- the search broke no later than there, after as many probes as the limit allows
    have hle : k ≤ k' := by
      by_contra hlt
      exact hscan.free k' (Nat.zero_le k') (by omega) (hfree k' hfirst)
    have hmono : Search.probes (cachedCandidate base 0 s) k ≤
      Search.probes (cachedCandidate base 0 s) k' := Nat.count_monotone _ hle
    have hdeep : limit ≤ Search.probes (cachedCandidate base 0 s) k := hbroken.2
    have hlt : Search.probes (cachedCandidate base 0 s) k' < limit := hfits
    omega

/-- **How `join` ends** with a cache of the database: where the search for an identifier fits,
as the rest of the join does on the database. -/
theorem joinBody_outcome (hdb : Backed env rdb view) {limit : Nat} {tempID base : String}
    {payload relay : Value} {s s' : State ω} {r : Except Exc Message}
    (hcache : CacheOf rdb (view s.world) s.deviceID_cache)
    (hdev : deviceOf tempID relay = .ok (.str base))
    (h : runs env (joinBody limit tempID payload relay) s = some (r, s')) :
    (∃ k, Fits rdb limit (view s.world) s.deviceID_cache base ∧
        FirstNew rdb (view s.world) base k ∧
        joinRowsDb rdb tempID payload relay (candidate base 0 k) (view s.world) =
          (r, view s'.world)) ∨
      (¬ Fits rdb limit (view s.world) s.deviceID_cache base ∧ (∃ e, r = .error e) ∧
        view s'.world = view s.world) := by
  have hgen : runs env (join_genID limit base 0 >>= joinRows tempID payload relay) s =
      some (r, s') := by
    rw [joinBody, hdev] at h
    exact h
  rw [runs, Prog.exec_bind] at hgen
  rcases hexec : Prog.exec (perform env) (join_genID limit base 0) s with _ | ⟨r1, s1⟩
  · rw [hexec] at hgen; exact absurd hgen (by simp)
  · have hkept : view s1.world = view s.world :=
      selects_view hdb (join_genID_selects base limit 0) hexec
    rw [hexec] at hgen
    rcases join_genID_outcome hdb hcache hexec with ⟨k, hfits, hfirst, rfl⟩ | ⟨hdeep, e, rfl⟩
    · have hrows := joinRows_refines hdb tempID payload relay (candidate base 0 k) s1 r s' hgen
      exact Or.inl ⟨k, hfits, hfirst, hkept ▸ hrows⟩
    · obtain ⟨rfl, rfl⟩ := Prod.mk.inj (Option.some.inj hgen)
      exact Or.inr ⟨hdeep, ⟨e, rfl⟩, hkept⟩

/-- The rows of a join come to nothing: they cannot be read or are refused, and the database
is left as it was. -/
inductive RowsRefused (rdb : RemoteDb δ) (d : δ) (payload relay : Value) (id : String) : Prop where
  | devices {e} (hinfo : infoList payload relay id = .error e)
  | device {info a} (hinfo : infoList payload relay id = .ok info)
      (hinsert : rdb.respond d (.onTable .Device info) .insert = (a, d)) (hno : ¬ Accepted a)
  | neighbors {info a e} (hinfo : infoList payload relay id = .ok info)
      (hinsert : rdb.respond d (.onTable .Device info) .insert = (a, d)) (hok : Accepted a)
      (hneighbors : neighborList payload id = .error e)
  | neighbor {info a d1 neighbors b} (hinfo : infoList payload relay id = .ok info)
      (hinsert : rdb.respond d (.onTable .Device info) .insert = (a, d1)) (hok : Accepted a)
      (hneighbors : neighborList payload id = .ok neighbors)
      (hinsert' : rdb.respond d1 (.onTable .Neighbor neighbors) .insert = (b, d))
      (hno : ¬ Accepted b)

/-- **When the rest of a join changes nothing, and fails.** -/
theorem joinRowsDb_fails_iff (tempID : String) {id : String} {payload relay : Value} {d : δ} :
    (∃ e, joinRowsDb rdb tempID payload relay id d = (.error e, d)) ↔
      RowsRefused rdb d payload relay id := by
  refine ⟨?_, ?_⟩
  · intro h
    obtain ⟨e, h⟩ := h
    rcases Proc.bind_eq_error.mp h with h | ⟨info, d0, hread, h⟩
    · exact .devices (congrArg Prod.fst h)
    · obtain ⟨hinfo, rfl⟩ := Prod.mk.inj (hread : (infoList payload relay id, d) = _)
      rcases Proc.bind_eq_error.mp h with h | ⟨_, d1, hins, h⟩
      · obtain ⟨a, hinsert, hno⟩ := changeDb_eq_error.mp ⟨e, h⟩
        exact .device hinfo hinsert hno
      · obtain ⟨a, hinsert, hok⟩ := changeDb_eq_ok.mp hins
        rcases Proc.bind_eq_error.mp h with h | ⟨neighbors, d2, hread', h⟩
        · obtain ⟨hneighbors, rfl⟩ := Prod.mk.inj (h : (neighborList payload id, d1) = _)
          exact .neighbors hinfo hinsert hok hneighbors
        · obtain ⟨hneighbors, rfl⟩ := Prod.mk.inj
            (hread' : (neighborList payload id, d1) = _)
          rcases Proc.bind_eq_error.mp h with h | ⟨_, d3, _, h⟩
          · obtain ⟨b, hinsert', hno⟩ := changeDb_eq_error.mp ⟨e, h⟩
            exact .neighbor hinfo hinsert hok hneighbors hinsert' hno
          · exact absurd (congrArg Prod.fst h) (by simp)
  · intro h
    cases h with
    | @devices e hinfo =>
      refine ⟨e, ?_⟩
      rw [joinRowsDb, Proc.bind_apply, Proc.liftM_apply, hinfo]
    | @device info a hinfo hinsert hno =>
      obtain ⟨e, he⟩ := changeDb_eq_error.mpr ⟨a, hinsert, hno⟩
      refine ⟨e, ?_⟩
      rw [joinRowsDb, Proc.bind_apply, Proc.liftM_apply, hinfo]
      exact Proc.bind_error he
    | @neighbors info a e hinfo hinsert hok hneighbors =>
      refine ⟨e, ?_⟩
      rw [joinRowsDb, Proc.bind_apply, Proc.liftM_apply, hinfo]
      refine (Proc.bind_ok (changeDb_eq_ok.mpr ⟨a, hinsert, hok⟩)).trans ?_
      rw [Proc.bind_apply, Proc.liftM_apply, hneighbors]
    | @neighbor info a d1 neighbors b hinfo hinsert hok hneighbors hinsert' hno =>
      obtain ⟨e, he⟩ := changeDb_eq_error.mpr ⟨b, hinsert', hno⟩
      refine ⟨e, ?_⟩
      rw [joinRowsDb, Proc.bind_apply, Proc.liftM_apply, hinfo]
      refine (Proc.bind_ok (changeDb_eq_ok.mpr ⟨a, hinsert, hok⟩)).trans ?_
      rw [Proc.bind_apply, Proc.liftM_apply, hneighbors]
      exact Proc.bind_error he

/-- What `join` does not depend on: both searches fit or neither does, or what comes after a
search comes to nothing. -/
def JoinIndifferent (rdb : RemoteDb δ) (limit : Nat) (d : δ) (cache cache' : Dict Key Value)
    (tempID : String) (payload relay : Value) : Prop :=
  ∀ base, deviceOf tempID relay = .ok (.str base) →
    (Fits rdb limit d cache base ↔ Fits rdb limit d cache' base) ∨
      ∀ k, FirstNew rdb d base k → RowsRefused rdb d payload relay (candidate base 0 k)

/-- The failure of `join`. -/
def joinFailure (tempID : String) (relay : Value) : Message :=
  ⟨"/configuration/join_ack/" ++ tempID,
    .dict [("error:", .int 1), ("deviceID", .str tempID), ("relay", relay)]⟩

/-- A join that goes through is told from one that fails. -/
theorem joinRowsDb_same_iff {tempID id : String} {payload relay : Value} {d d' : δ}
    {r : Except Exc Message} (h : joinRowsDb rdb tempID payload relay id d = (r, d')) :
    (SameAck (settle (fun _ => joinFailure tempID relay) r) (joinFailure tempID relay) ∧ d' = d) ↔
      RowsRefused rdb d payload relay id := by
  rw [← joinRowsDb_fails_iff tempID, h]
  cases r with
  | error e =>
    refine ⟨?_, ?_⟩
    · intro hsome
      obtain ⟨_, rfl⟩ := hsome
      exact ⟨e, rfl⟩
    · intro hsome
      obtain ⟨e', heq⟩ := hsome
      exact ⟨SameAck.refl _, congrArg Prod.snd heq⟩
  | ok msg =>
    have hyields : Proc.Yields (fun msg : Message => msg = ⟨"/configuration/join_ack/" ++ tempID,
        .dict [("error:", .int 0), ("id", .str id), ("relay", relay)]⟩)
        (joinRowsDb rdb tempID payload relay id) := by
      refine Proc.yields_bind fun _ => Proc.yields_bind fun _ => Proc.yields_bind fun _ => ?_
      exact Proc.yields_bind fun _ => Proc.yields_pure rfl
    obtain rfl := hyields d msg d' h
    refine ⟨?_, ?_⟩
    · intro hboth
      obtain ⟨hsame, _⟩ := hboth
      exact absurd hsame not_sameAck
    · intro hsome
      obtain ⟨e, heq⟩ := hsome
      exact absurd (congrArg Prod.fst heq) (by simp)

theorem runs_joinBody_unnamed (env : Env ω) {tempID : String} {relay : Value} (limit : Nat)
    (payload : Value) (hno : ∀ d, deviceOf tempID relay ≠ .ok (.str d)) (s : State ω) :
    ∃ e, runs env (joinBody limit tempID payload relay) s = some (.error e, s) := by
  rw [joinBody, runs, Prog.exec_bind, Prog.exec_lift]
  cases hdev : deviceOf tempID relay with
  | error e => exact ⟨e, rfl⟩
  | ok v =>
    simp only [Prog.exec_bind, Prog.exec_lift]
    cases hstr : v.asStr with
    | error e => exact ⟨e, rfl⟩
    | ok d => exact absurd (hdev.trans (by rw [Value.asStr_eq_ok.mp hstr])) (hno d)

/-- What a join is indifferent to, once its device is named. -/
theorem joinIndifferent_iff {rdb : RemoteDb δ} {limit : Nat} {d : δ} {cache cache' : Dict Key Value}
    {tempID base : String} {payload relay : Value}
    (hdev : deviceOf tempID relay = .ok (.str base)) :
    JoinIndifferent rdb limit d cache cache' tempID payload relay ↔
      (Fits rdb limit d cache base ↔ Fits rdb limit d cache' base) ∨
        ∀ k, FirstNew rdb d base k → RowsRefused rdb d payload relay (candidate base 0 k) := by
  refine ⟨fun hall => hall base hdev, fun hall base' hdev' => ?_⟩
  obtain rfl : base = base' := by simpa [hdev] using hdev'
  exact hall

/-- Where one search alone ends, the rows behind it have to be refused. -/
theorem refused_iff {rdb : RemoteDb δ} {d : δ} {base : String} {payload relay : Value} {k : Nat}
    {P Q : Prop} (hfirst : FirstNew rdb d base k) (hone : ¬ (P ↔ Q)) :
    RowsRefused rdb d payload relay (candidate base 0 k) ↔
      (P ↔ Q) ∨ ∀ k, FirstNew rdb d base k →
        RowsRefused rdb d payload relay (candidate base 0 k) := by
  rw [or_iff_right hone]
  refine ⟨?_, ?_⟩
  · intro hrefused k' hfirst'
    rw [← hfirst.unique hfirst']
    exact hrefused
  · intro hall
    exact hall k hfirst

theorem join_same_iff (hdb : Backed env rdb view) (hdb' : Backed env' rdb view') {limit : Nat}
    {tempID : String} {payload relay : Value} {s s1 : State ω} {t t1 : State ω'}
    (hview : view s.world = view' t.world)
    (hcache : CacheOf rdb (view s.world) s.deviceID_cache)
    (hcache' : CacheOf rdb (view s.world) t.deviceID_cache) {r r' : Except Exc Message}
    (h : runs env (joinBody limit tempID payload relay) s = some (r, s1))
    (h' : runs env' (joinBody limit tempID payload relay) t = some (r', t1)) :
    (SameAck (settle (fun _ => joinFailure tempID relay) r)
          (settle (fun _ => joinFailure tempID relay) r') ∧ view s1.world = view' t1.world) ↔
      JoinIndifferent rdb limit (view s.world) s.deviceID_cache t.deviceID_cache tempID payload
        relay := by
  rcases deviceOf_cases tempID relay with ⟨base, hdev⟩ | hno
  · rw [joinIndifferent_iff hdev]
    have hends := joinBody_outcome hdb hcache hdev h
    have hends' := joinBody_outcome hdb' (hview ▸ hcache') hdev h'
    rw [← hview] at hends'
    rcases hends with ⟨k, hfits, hfirst, hrows⟩ | ⟨hdeep, ⟨e, rfl⟩, hw⟩ <;>
      rcases hends' with ⟨k', hfits', hfirst', hrows'⟩ | ⟨hdeep', ⟨e', rfl⟩, hw'⟩
    · -- both searches end at the first new candidate
      obtain rfl := hfirst.unique hfirst'
      obtain ⟨rfl, hw⟩ := Prod.mk.inj (hrows.symm.trans hrows')
      have hsame : ∀ r : Except Exc Message,
          SameAck (settle (fun _ => joinFailure tempID relay) r)
            (settle (fun _ => joinFailure tempID relay) r) := fun r => SameAck.refl _
      exact ⟨fun _ => Or.inl ⟨fun _ => hfits', fun _ => hfits⟩, fun _ => ⟨hsame _, hw⟩⟩
    · rw [hw', settle, joinRowsDb_same_iff hrows]
      exact refused_iff hfirst fun hiff => hdeep' (hiff.mp hfits)
    · rw [hw, eq_comm]
      have hswap : SameAck (settle (fun _ => joinFailure tempID relay) (.error e))
          (settle (fun _ => joinFailure tempID relay) r') ↔
            SameAck (settle (fun _ => joinFailure tempID relay) r') (joinFailure tempID relay) :=
        ⟨SameAck.symm, SameAck.symm⟩
      rw [hswap, joinRowsDb_same_iff hrows']
      exact refused_iff hfirst' fun hiff => hdeep (hiff.mpr hfits')
    · refine ⟨fun _ => Or.inl ⟨fun hf => absurd hf hdeep, fun hf => absurd hf hdeep'⟩, fun _ => ?_⟩
      exact ⟨SameAck.refl _, hw.trans hw'.symm⟩
  · obtain ⟨e, he⟩ := runs_joinBody_unnamed env limit payload hno s
    obtain ⟨e', he'⟩ := runs_joinBody_unnamed env' limit payload hno t
    obtain ⟨rfl, rfl⟩ := Prod.mk.inj (Option.some.inj (he.symm.trans h))
    obtain ⟨rfl, rfl⟩ := Prod.mk.inj (Option.some.inj (he'.symm.trans h'))
    exact ⟨fun _ base hdev => absurd hdev (hno base), fun _ => ⟨SameAck.refl _, hview⟩⟩

end Versatile.FlexIDMnger
