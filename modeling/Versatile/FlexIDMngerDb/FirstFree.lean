import Mathlib.Data.Set.Finite.Lattice
import Versatile.FlexIDMngerDb.GenID
import Versatile.FlexIDMngerDb.Rendering

/-!
# The first free candidate

`join_genID` passes over the candidates the cache knows, asks the database about each other
one, and writes every candidate it asks about into the cache. What it writes lies behind it, so
it returns the first candidate that was neither cached nor found when it was called, and the
cache gains exactly the candidates it asked about. With finitely many keys and rows there is a
candidate that is neither cached nor stored; what can keep the search from it is a selection
that the server refuses, or that does not find what is stored or finds what is not: the text it
pastes is read as another.
-/

namespace Versatile.FlexIDMngerDb

open Py

variable {srv : Server}

/-- The collation tells different numbers in front of a text apart. -/
def TellsNumbers (srv : Server) : Prop :=
  ∀ base m n, srv.same (newID m base) (newID n base) = true → m = n

/-- Candidate `i` is neither a key of the cache nor stored. -/
def FreeCandidate (srv : Server) (base : String) (flag : Nat) (s : Store) (i : Nat) : Prop :=
  Search.Free (cachedCandidate base flag s) (storedCandidate srv base flag s) i

/-- What a call of `join_genID` that returns candidate `k` leaves: the cache gains the candidates
up to `k` that it did not know, which were asked for one by one, and nothing else. -/
structure Marks (base : String) (flag : Nat) (s : Store) (k : Nat)
    (r : Except Exc String × Store) : Prop where
  result : r.1 = .ok (candidate base flag k)
  /-- What is added is `True`. -/
  added : ∀ i, i ≤ k → cachedCandidate base flag s i = false →
    Dict.get r.2.deviceID_cache (candidate base flag i) = some (.bool true)
  /-- Every other key has the value it had, or none still. -/
  kept : ∀ x, (∀ i, i ≤ k → cachedCandidate base flag s i = false → x ≠ candidate base flag i) →
    Dict.get r.2.deviceID_cache x = Dict.get s.deviceID_cache x
  log : r.2.db.log = s.db.log
  executed : r.2.db.executed = askedAt base flag s k + 1

/-- What `join_genID` is for: it returns the first free candidate `k`, and the cache gains the
candidates up to `k` that it did not know, which are the one returned and those that were stored
only in `Device`. -/
structure FoundFirst (srv : Server) (base : String) (flag : Nat) (s : Store) (k : Nat)
    (r : Except Exc String × Store) : Prop where
  least : IsLeast {i | FreeCandidate srv base flag s i} k
  marks : Marks base flag s k r

/-- Candidate `i` is neither a key of the cache nor found by its selection. -/
def UnfoundCandidate (srv : Server) (base : String) (flag : Nat) (s : Store) (i : Nat) : Prop :=
  Search.Free (cachedCandidate base flag s) (foundCandidate srv base flag s) i

/-- What it does: it goes by what its selections find. -/
structure Generated (srv : Server) (base : String) (flag : Nat) (s : Store) (k : Nat)
    (r : Except Exc String × Store) : Prop where
  least : IsLeast {i | UnfoundCandidate srv base flag s i} k
  marks : Marks base flag s k r

/-! ## What a search that ends leaves -/

/-- The candidates behind candidate `j` are candidates of a larger flag. -/
theorem candidate_add (base : String) (flag j i : Nat) :
    candidate base (flag + collision_inc * j) i = candidate base flag (j + i) := by
  rw [candidate, candidate, flag_add]

/-- Marking candidate `j` changes nothing for the candidates behind it. -/
theorem cachedCandidate_behind (base : String) (flag j i : Nat) (s : Store) (db : Database) :
    cachedCandidate base (flag + collision_inc * (j + 1))
        ⟨s.deviceID_cache.set (candidate base flag j) (.bool true), db⟩ i =
      cachedCandidate base flag s (j + 1 + i) := by
  have hne : candidate base flag (j + 1 + i) ≠ candidate base flag j := fun heq => by
    have := candidate_injective base flag heq
    omega
  rw [cachedCandidate, cachedCandidate, candidate_add, Dict.has_set, decide_eq_false hne,
    Bool.false_or]

section Pass

-- candidate `j` is the first that is not in the cache
variable {base : String} {flag j : Nat} {s : Store}
  (hskip : ∀ i, i < j → cachedCandidate base flag s i = true)

include hskip

theorem not_unfound_before {i : Nat} (hi : i < j) : ¬ UnfoundCandidate srv base flag s i := by
  intro hfree
  have hcached := hskip i hi
  rw [hfree.1] at hcached
  exact absurd hcached (by simp)

theorem eq_of_not_cached {i : Nat} (hi : i ≤ j) (hfresh : cachedCandidate base flag s i = false) :
    i = j := by
  rcases Nat.lt_or_eq_of_le hi with hlt | heq
  · have hcached := hskip i hlt
    rw [hfresh] at hcached
    exact absurd hcached (by simp)
  · exact heq

/-- Candidate `j` is the first that is asked for. -/
theorem askedAt_first : askedAt base flag s j = s.db.executed := by
  have hnone : Search.probes (cachedCandidate base flag s) (0 + j) =
      Search.probes (cachedCandidate base flag s) 0 :=
    Search.probes_skips fun i hi => by rw [Nat.zero_add]; exact hskip i hi
  rw [Nat.zero_add] at hnone
  rw [askedAt, hnone, Search.probes, Nat.count_zero, Nat.add_zero]

/-- The candidates behind it are asked for one statement later than from the next call on. -/
theorem askedAt_behind (hnot : cachedCandidate base flag s j = false) (i : Nat) :
    askedAt base (flag + collision_inc * (j + 1))
        ⟨s.deviceID_cache.set (candidate base flag j) (.bool true), s.db.tick⟩ i =
      askedAt base flag s (j + 1 + i) := by
  have hfirst := askedAt_first hskip
  have hcached : cachedCandidate base (flag + collision_inc * (j + 1))
      ⟨s.deviceID_cache.set (candidate base flag j) (.bool true), s.db.tick⟩ =
        fun i => cachedCandidate base flag s (j + 1 + i) := by
    funext i
    exact cachedCandidate_behind base flag j i s s.db.tick
  have hsplit : Search.probes (cachedCandidate base flag s) (j + 1 + i) =
      Search.probes (cachedCandidate base flag s) j + 1 +
        Search.probes (fun i => cachedCandidate base flag s (j + 1 + i)) i := by
    rw [← Search.probes_probe hnot, Search.probes, Search.probes, Search.probes, Nat.count_add]
  rw [askedAt] at hfirst
  rw [askedAt, askedAt, hcached, hsplit, Database.tick_executed]
  omega

theorem foundCandidate_behind (hnot : cachedCandidate base flag s j = false) (i : Nat) :
    foundCandidate srv base (flag + collision_inc * (j + 1))
        ⟨s.deviceID_cache.set (candidate base flag j) (.bool true), s.db.tick⟩ i =
      foundCandidate srv base flag s (j + 1 + i) := by
  rw [foundCandidate, foundCandidate, askedAt_behind hskip hnot, candidate_add]
  exact deviceFound_congr rfl _ _

/-- A candidate that is not found is returned. -/
theorem generated_here (hnot : cachedCandidate base flag s j = false)
    (hst : foundCandidate srv base flag s j = false) :
    Generated srv base flag s j (.ok (candidate base flag j),
      ⟨s.deviceID_cache.set (candidate base flag j) (.bool true), s.db.tick⟩) := by
  refine ⟨⟨⟨hnot, hst⟩, fun i hi => ?_⟩, rfl, fun i hi hfresh => ?_, fun x hx => ?_, rfl, ?_⟩
  · exact Nat.le_of_not_lt fun hlt => not_unfound_before hskip hlt hi
  · rw [eq_of_not_cached hskip hi hfresh, Dict.get_set, if_pos rfl]
  · rw [Dict.get_set, if_neg (hx j (Nat.le_refl j) hnot)]
  · rw [askedAt_first hskip, Database.tick_executed]

/-- A candidate that is found is marked, and the search goes on behind it. -/
theorem Generated.behind (hnot : cachedCandidate base flag s j = false)
    (hst : foundCandidate srv base flag s j = true) {k : Nat} {r : Except Exc String × Store}
    (h : Generated srv base (flag + collision_inc * (j + 1))
      ⟨s.deviceID_cache.set (candidate base flag j) (.bool true), s.db.tick⟩ k r) :
    Generated srv base flag s (j + 1 + k) r := by
  obtain ⟨hleast, hresult, hadded, hkept, hlog, hexecuted⟩ := h
  have hcached := fun i => cachedCandidate_behind base flag j i s s.db.tick
  have hfree : ∀ i, UnfoundCandidate srv base (flag + collision_inc * (j + 1))
      ⟨s.deviceID_cache.set (candidate base flag j) (.bool true), s.db.tick⟩ i ↔
        UnfoundCandidate srv base flag s (j + 1 + i) := by
    intro i
    rw [UnfoundCandidate, UnfoundCandidate, Search.Free, Search.Free, hcached,
      foundCandidate_behind hskip hnot]
  simp only [candidate_add] at hresult hadded hkept
  refine ⟨⟨(hfree k).mp hleast.1, fun i hi => ?_⟩, hresult, fun i hi hfresh => ?_,
    fun x hx => ?_, hlog, by rw [hexecuted, askedAt_behind hskip hnot]⟩
  · -- the candidates up to `j` are cached or found
    rcases Nat.lt_trichotomy i j with hlt | rfl | hgt
    · exact absurd hi (not_unfound_before hskip hlt)
    · exact absurd (hi.2.symm.trans hst) (by simp)
    · obtain ⟨i', rfl⟩ := Nat.exists_eq_add_of_le (Nat.succ_le_of_lt hgt)
      have hle := hleast.2 ((hfree i').mpr hi)
      omega
  · rcases Nat.lt_or_ge j i with hgt | hle
    · obtain ⟨i', rfl⟩ := Nat.exists_eq_add_of_le (Nat.succ_le_of_lt hgt)
      exact hadded i' (by omega) ((hcached i').trans hfresh)
    · -- the candidate marked here is none of those behind it
      obtain rfl := eq_of_not_cached hskip hle hfresh
      rw [hkept, Dict.get_set, if_pos rfl]
      intro i' _ _ heq
      have := candidate_injective base flag heq
      omega
  · rw [hkept, Dict.get_set, if_neg (hx j (by omega) hnot)]
    intro i' hi' hfresh'
    exact hx _ (by omega) ((hcached i').symm.trans hfresh')

end Pass

/-- **A call that returns returns the first candidate that is not found**, by induction on the
calls it makes: what a call marks lies behind the candidates of the next. -/
theorem generated_of_ok {limit flag : Nat} {base id : String} {s s' : Store}
    (h : join_genID srv limit base flag s = (.ok id, s')) :
    ∃ k, Generated srv base flag s k (.ok id, s') := by
  induction limit generalizing flag s with
  | zero => exact absurd (congrArg Prod.fst h) (by simp [join_genID, Proc.bind_apply, cacheSet,
      Proc.raise])
  | succ limit ih =>
    obtain ⟨j, hpass, hnot, hskip⟩ := passCached_spec s.deviceID_cache base flag
    have hcand : joinCandidate s base flag = candidate base flag j := by
      rw [joinCandidate, hpass, candidate]
    have hfound : deviceFound srv s.db s.db.executed (candidate base flag j) =
        foundCandidate srv base flag s j := by rw [foundCandidate, askedAt_first hskip]
    have hcases := join_genID_cases srv limit hcand
    rw [hfound] at hcases
    rcases hcases with ⟨code, _, hrun⟩ | ⟨_, hst, hrun⟩ | ⟨_, hst, hrun⟩
    · rw [hrun] at h
      exact absurd (congrArg Prod.fst h) (by simp)
    · rw [hrun] at h
      rw [← h]
      exact ⟨j, generated_here hskip hnot hst⟩
    · rw [hpass, flag_succ] at hrun
      rw [hrun] at h
      obtain ⟨k, hgenerated⟩ := ih h
      exact ⟨j + 1 + k, hgenerated.behind hskip hnot hst⟩

/-! ## When it returns -/

/-- There is a free candidate: the keys and the rows are finitely many, and no row is found
under two candidates. -/
theorem exists_freeCandidate (htells : TellsNumbers srv) (base : String) (flag : Nat) (s : Store) :
    ∃ k, IsLeast {i | FreeCandidate srv base flag s i} k := by
  have hinj := candidate_injective base flag
  refine Search.exists_free ?_ ?_
  · have hkeys : {i | cachedCandidate base flag s i = true} ⊆
        Set.preimage (candidate base flag) {x | x ∈ s.deviceID_cache.keys} := by
      intro i hi
      exact Dict.mem_keys.mpr hi
    exact ((List.finite_toSet _).preimage hinj.injOn).subset hkeys
  · have hrows : {i | storedCandidate srv base flag s i = true} ⊆
        ⋃ r ∈ {r | r ∈ s.db.rows .Device},
          {i | srv.hasCell .Device r "deviceId" (candidate base flag i) = true} := by
      intro i hi
      obtain ⟨r, hr, hcell⟩ := Server.finds_eq_true.mp hi
      exact Set.mem_biUnion hr hcell
    refine (Set.Finite.biUnion (List.finite_toSet _) fun r _ => ?_).subset hrows
    refine Set.Subsingleton.finite fun i hi i' hi' => ?_
    simp only [Set.mem_ofPred_eq, Server.hasCell] at hi hi'
    cases hcell : Tuple.cell .Device r "deviceId" with
    | none => rw [hcell] at hi; exact absurd hi (by simp)
    | some v =>
      rw [hcell] at hi hi'
      have hflag := htells base _ _ (srv.same_trans _ _ _ (srv.same_symm _ _ hi) hi')
      unfold collision_inc at hflag
      omega

/-- `join_genID` terminates with the first free candidate, once the interpreter allows it
enough calls. -/
def FindsFirstFree (srv : Server) (base : String) (flag : Nat) (s : Store) : Prop :=
  ∃ k enough, ∀ limit, enough ≤ limit →
    FoundFirst srv base flag s k (join_genID srv limit base flag s)

/-- The selection for every candidate that is reached is answered, and tells whether the
candidate is stored. A candidate is reached if none before it is free. -/
def ProbesTruthful (srv : Server) (base : String) (flag : Nat) (s : Store) : Prop :=
  ∀ i, cachedCandidate base flag s i = false →
    (∀ j, j < i → ¬ FreeCandidate srv base flag s j) →
    srv.refuses (askedAt base flag s i) (deviceProbe (candidate base flag i)) = none ∧
      foundCandidate srv base flag s i = storedCandidate srv base flag s i

/-- The selections for the candidates of a plain base tell what is stored. -/
theorem probesTruthful_plain {base : String} {flag : Nat} {s : Store} (hbase : Plain base)
    (h : ∀ i, srv.refuses (askedAt base flag s i) (deviceProbe (candidate base flag i)) = none) :
    ProbesTruthful srv base flag s := by
  intro i _ _
  exact ⟨h i, by rw [foundCandidate_plain hbase]⟩

/-- Where the selections tell what is stored, the first candidate that is not found is the
first free one. -/
theorem ProbesTruthful.unfound {base : String} {flag k : Nat} {s : Store}
    (h : ProbesTruthful srv base flag s) (hk : IsLeast {i | FreeCandidate srv base flag s i} k) :
    IsLeast {i | UnfoundCandidate srv base flag s i} k := by
  have hbefore : ∀ i, i ≤ k → ∀ j, j < i → ¬ FreeCandidate srv base flag s j :=
    fun i hi j hj hfree => absurd (hk.2 hfree) (by omega)
  refine ⟨⟨hk.1.1, ?_⟩, fun i hi => ?_⟩
  · rw [(h k hk.1.1 (hbefore k (Nat.le_refl k))).2]
    exact hk.1.2
  · refine Nat.le_of_not_lt fun hlt => ?_
    have htrue := (h i hi.1 (hbefore i (Nat.le_of_lt hlt))).2
    have hfree : FreeCandidate srv base flag s i := ⟨hi.1, htrue.symm.trans hi.2⟩
    exact absurd (hk.2 hfree) (Nat.not_le_of_lt hlt)

/-- Where the first free candidate is found, the selections up to it told what is stored. -/
theorem probesTruthful_of_found {base : String} {flag : Nat} {s : Store}
    (h : FindsFirstFree srv base flag s) : ProbesTruthful srv base flag s := by
  intro i hnew hnone
  obtain ⟨k, enough, h⟩ := h
  have hfirst := h enough (Nat.le_refl _)
  obtain ⟨o, hrun, hret⟩ := @join_genID_search srv base flag enough s
  have hsettled := hrun.settled (by simp [Search.probes])
  rw [hfirst.marks.result] at hret
  cases o with
  | failed k' =>
    obtain ⟨e, he⟩ := hret
    exact absurd he (by simp)
  | found k' =>
    obtain ⟨hscan, hfree, hok⟩ := hsettled
    obtain rfl : k = k' := candidate_injective base flag (Except.ok.inj hret)
    -- the candidate returned lies behind `i`, or is it
    have hle : i ≤ k := Nat.le_of_not_lt fun hlt => hnone k hlt hfirst.least.1
    have hanswered : ¬ Search.Broken (cachedCandidate base flag s)
        (joinFails srv base flag enough s) i := by
      rcases Nat.lt_or_eq_of_le hle with hlt | rfl
      · exact hscan.broken i (Nat.zero_le i) hlt
      · exact hok
    refine ⟨?_, ?_⟩
    · by_contra hrefused
      obtain ⟨code, hcode⟩ := Option.ne_none_iff_exists'.mp hrefused
      exact hanswered ⟨hnew, Or.inr ⟨code, hcode⟩⟩
    · rcases Nat.lt_or_eq_of_le hle with hlt | rfl
      · -- passed, so it was found; not free, so it is stored
        have hfound : foundCandidate srv base flag s i = true := by
          by_contra hno
          exact hscan.free i (Nat.zero_le i) hlt ⟨hnew, Bool.eq_false_iff.mpr hno⟩
        have hstored : storedCandidate srv base flag s i = true := by
          by_contra hno
          have hleast := hfirst.least.2 (⟨hnew, Bool.eq_false_iff.mpr hno⟩ :
            FreeCandidate srv base flag s i)
          omega
        rw [hfound, hstored]
      · rw [hfree.2, hfirst.least.1.2]

/-- Where the selections tell what is stored, the first free candidate is found. -/
theorem found_of_probesTruthful (htells : TellsNumbers srv) {base : String} {flag : Nat}
    {s : Store} (h : ProbesTruthful srv base flag s) : FindsFirstFree srv base flag s := by
  obtain ⟨k, hk⟩ := exists_freeCandidate htells base flag s
  have hunfound := h.unfound hk
  refine ⟨k, k + 1, fun limit hlimit => ?_⟩
  obtain ⟨o, hrun, hret⟩ := @join_genID_search srv base flag limit s
  have hsettled := hrun.settled (by simp [Search.probes])
  cases o with
  | failed k' =>
    exfalso
    obtain ⟨hscan, hnew, hfails⟩ := hsettled
    have hle : k' ≤ k := Nat.le_of_not_lt fun hlt =>
      hscan.free k (Nat.zero_le k) hlt hunfound.1
    rcases hfails with hdepth | ⟨code, hcode⟩
    · -- there are fewer probes than candidates
      have hprobes : Search.probes (cachedCandidate base flag s) k' ≤ k' := Nat.count_le _
      omega
    · have hnone : ∀ j, j < k' → ¬ FreeCandidate srv base flag s j := fun j hj hfree =>
        absurd (hk.2 hfree) (by omega)
      have hanswered := (h k' hnew hnone).1
      rw [askedAt, hcode] at hanswered
      exact absurd hanswered (by simp)
  | found k' =>
    rcases hres : join_genID srv limit base flag s with ⟨r, s'⟩
    obtain rfl : r = .ok (candidate base flag k') := by rw [hres] at hret; exact hret
    obtain ⟨k'', hgenerated⟩ := generated_of_ok hres
    obtain rfl := hgenerated.least.unique hunfound
    exact ⟨hk, hgenerated.marks⟩

/-- **When `join_genID` finds the first free candidate**: exactly if the selections up to it are
answered, and tell what is stored. -/
theorem findsFirstFree_iff (htells : TellsNumbers srv) (base : String) (flag : Nat) (s : Store) :
    FindsFirstFree srv base flag s ↔ ProbesTruthful srv base flag s :=
  ⟨probesTruthful_of_found, found_of_probesTruthful htells⟩

/-- A call of `join_genID` reaches candidate `k`: it is the first free one, no selection up to it
is refused, and the interpreter allows that many calls. -/
structure Reaches (srv : Server) (base : String) (flag limit : Nat) (s : Store) (k : Nat) :
    Prop where
  least : IsLeast {i | FreeCandidate srv base flag s i} k
  answered : ∀ i, i ≤ k → cachedCandidate base flag s i = false →
    srv.refuses (askedAt base flag s i) (deviceProbe (candidate base flag i)) = none
  room : Search.probes (cachedCandidate base flag s) k < limit

/-- For a plain base, unfound candidates are the free ones. -/
theorem unfound_plain {base : String} (hbase : Plain base) (flag : Nat) (s : Store) :
    UnfoundCandidate srv base flag s = FreeCandidate srv base flag s := by
  funext i
  rw [UnfoundCandidate, foundCandidate_plain hbase, FreeCandidate]

/-- **When `join_genID` generates an identifier** from a plain base: exactly if it reaches a
candidate, and then it is that one. -/
theorem generates_iff {base : String} (hbase : Plain base) {flag limit : Nat} {s : Store}
    {d : String} :
    (join_genID srv limit base flag s).1 = .ok d ↔
      ∃ k, Reaches srv base flag limit s k ∧ d = candidate base flag k := by
  obtain ⟨o, hrun, hret⟩ := @join_genID_search srv base flag limit s
  have hsettled := hrun.settled (by simp [Search.probes])
  have hunfound := @unfound_plain srv base hbase flag s
  refine ⟨?_, ?_⟩
  · intro h
    rw [h] at hret
    cases o with
    | failed k =>
      obtain ⟨e, he⟩ := hret
      exact absurd he (by simp)
    | found k =>
      obtain ⟨hscan, hfree, hok⟩ := hsettled
      have hunbroken : ∀ i, i ≤ k → ¬ Search.Broken (cachedCandidate base flag s)
          (joinFails srv base flag limit s) i := by
        intro i hi
        rcases Nat.lt_or_eq_of_le hi with hlt | rfl
        · exact hscan.broken i (Nat.zero_le i) hlt
        · exact hok
      refine ⟨k, ⟨⟨?_, fun i hi => ?_⟩, fun i hi hnew => ?_, ?_⟩, Except.ok.inj hret⟩
      · rw [Set.mem_ofPred_eq, ← hunfound]
        exact hfree
      · rw [Set.mem_ofPred_eq, ← hunfound] at hi
        exact Nat.le_of_not_lt fun hlt => hscan.free i (Nat.zero_le i) hlt hi
      · by_contra hrefused
        obtain ⟨code, hcode⟩ := Option.ne_none_iff_exists'.mp hrefused
        exact hunbroken i hi ⟨hnew, Or.inr ⟨code, hcode⟩⟩
      · exact Nat.lt_of_not_le fun hle => hok ⟨hfree.1, Or.inl hle⟩
  · intro h
    obtain ⟨k, hreaches, rfl⟩ := h
    have hleast := hreaches.least
    rw [← hunfound] at hleast
    cases o with
    | failed k' =>
      -- the search would have broken in front of `k`
      exfalso
      obtain ⟨hscan, hnew, hfails⟩ := hsettled
      have hle : k' ≤ k := Nat.le_of_not_lt fun hlt => hscan.free k (Nat.zero_le k) hlt hleast.1
      rcases hfails with hdepth | ⟨code, hcode⟩
      · have hmono : Search.probes (cachedCandidate base flag s) k' ≤
            Search.probes (cachedCandidate base flag s) k := Nat.count_monotone _ hle
        have := hreaches.room
        omega
      · have hanswered := hreaches.answered k' hle hnew
        rw [askedAt, hcode] at hanswered
        exact absurd hanswered (by simp)
    | found k' =>
      have hleast' : IsLeast {i | UnfoundCandidate srv base flag s i} k' :=
        ⟨hsettled.2.1, fun i hi => Nat.le_of_not_lt fun hlt =>
          hsettled.1.free i (Nat.zero_le i) hlt hi⟩
      rw [hleast'.unique hleast] at hret
      exact hret

/-- What is known of an identifier that was generated from a plain base. -/
theorem generated_marks {base : String} (hbase : Plain base) {flag limit k : Nat} {s s1 : Store}
    (hreaches : Reaches srv base flag limit s k)
    (h : join_genID srv limit base flag s = (.ok (candidate base flag k), s1)) :
    Marks base flag s k (.ok (candidate base flag k), s1) := by
  obtain ⟨k', hleast, hmarks⟩ := generated_of_ok h
  rw [unfound_plain hbase] at hleast
  rwa [hleast.unique hreaches.least] at hmarks

/-- A server that takes the statements it can read, answers the others with a syntax error, and
compares values exactly. -/
def readingServer : Server where
  same := (· == ·)
  same_refl := Server.exact.same_refl
  same_symm := Server.exact.same_symm
  same_trans := Server.exact.same_trans
  refuses := fun _ text =>
    if (readStatement "INSERT INTO " " SET " ", " text).isSome ||
      (readStatement "SELECT * FROM " " WHERE " " and " text).isSome then none else some 1064
  brokenRow := fun _ _ => []
  brokenRows := fun _ _ => []

theorem tellsNumbers_exact {srv : Server} (h : ∀ a b, srv.same a b = true → a = b) :
    TellsNumbers srv := fun base _ _ heq => newID_injective base (h _ _ heq)

/-- With the first candidate cached and the second stored, the third is found. -/
theorem findsFirstFree_third :
    FindsFirstFree readingServer "d" 0
      ⟨[("0d", .bool true)], ⟨⟨[(.Device, [("deviceId", "4d")])], []⟩, 0⟩⟩ := by
  refine (findsFirstFree_iff (tellsNumbers_exact fun _ _ h => beq_iff_eq.mp h) _ _ _).mpr ?_
  intro i hnew hnone
  rcases i with _ | _ | _ | i
  · exact absurd hnew (by decide)
  · exact ⟨by decide, by decide⟩
  · exact ⟨by decide, by decide⟩
  · exact absurd (show FreeCandidate _ _ _ _ 2 from ⟨by decide, by decide⟩)
      (hnone 2 (by omega))

/-- A base with an apostrophe breaks the literal of its first candidate: the selection is
refused, and `join_genID` raises. -/
theorem not_findsFirstFree :
    ¬ FindsFirstFree readingServer "'" 0 ⟨[], ⟨⟨[], []⟩, 0⟩⟩ := by
  intro h
  obtain ⟨k, enough, h⟩ := h
  have hresult := (h (enough + 1) (Nat.le_succ _)).marks.result
  have hcand : joinCandidate ⟨[], ⟨⟨[], []⟩, 0⟩⟩ "'" 0 = "0'" := by decide
  rcases join_genID_cases readingServer enough hcand with
    ⟨code, _, hrun⟩ | ⟨hnone, _⟩ | ⟨hnone, _⟩
  · rw [hrun] at hresult
    exact absurd hresult (by simp)
  · exact absurd hnone (by decide)
  · exact absurd hnone (by decide)

end Versatile.FlexIDMngerDb
