import Versatile.FlexIDMnger.Unique

/-!
# The identifiers `flexIDMnger.py` generates

`join_genID` and `register_genID` ask the remote database about each candidate. Where it
answers selections by what it contains (`Truthful`), both are runs of `Search`: over the
candidates the cache does not know, and over all of them.
-/

namespace Versatile.FlexIDMnger

open Py

variable {ω : Type} {env : Env ω}

/-! ## A database that answers by its contents -/

/-- The selection of a device by its identifier. -/
def deviceByID (id : String) : DbQuery := deviceQuery (.str id)

/-- The selection of a registration by its identifier. -/
def providingByID (id : String) : DbQuery := providingQuery (.str id)

/-- The database answers a selection by identifier with `data` that is true for what it
contains, and a selection changes nothing. -/
structure Truthful (env : Env ω) (byID : String → DbQuery) (contents : ω → String → Bool) :
    Prop where
  data : ∀ {w w' taken id n a}, env.exchange w taken (byID id) .select = some (n, a, w') →
    ∃ exist, a.get "data" = .ok exist ∧ exist.truthy = contents w id
  keeps : ∀ {w w' taken q n a}, env.exchange w taken q .select = some (n, a, w') →
    contents w' = contents w

/-- A database that contains nothing. -/
theorem emptyDb_truthful (byID : String → DbQuery) : Truthful emptyDb byID fun _ _ => false where
  data := by
    intro w w' taken id n a h
    obtain ⟨_, h⟩ := Option.ite_none_left_eq_some.mp h
    obtain ⟨rfl, rfl, rfl⟩ : _ = n ∧ _ = a ∧ _ = w' := by simpa using h
    exact ⟨_, rfl, rfl⟩
  keeps := fun _ => rfl

/-- The identifier a selection asks for. -/
def askedID : DbQuery → Option String
  | .onTable _ [[(_, .str id)]] => some id
  | _ => none

/-- A database of some identifiers, where every statement succeeds and changes nothing. The
identifiers of the queries count up. -/
def fixedDb (ids : List String) : Env (BitVec 32) where
  exchange w taken q _ :=
    if queryID w ∈ taken then none
    else
      let data := ((askedID q).toList.filter (· ∈ ids)).map Value.str
      some (w, .dict [("error", .int 0), ("data", .list data)], w + 1)
  fresh := by
    intro w w' taken q t n a h
    obtain ⟨hfree, h⟩ := Option.ite_none_left_eq_some.mp h
    obtain ⟨rfl, _⟩ : w = n ∧ _ := by simpa using h
    exact hfree

/-- It contains the identifiers it answers for. -/
theorem fixedDb_truthful (ids : List String) {byID : String → DbQuery}
    (hasked : ∀ id, askedID (byID id) = some id) :
    Truthful (fixedDb ids) byID fun _ id => id ∈ ids where
  data := by
    intro w w' taken id n a h
    obtain ⟨_, h⟩ := Option.ite_none_left_eq_some.mp h
    obtain ⟨rfl, rfl, rfl⟩ : _ = n ∧ _ = a ∧ _ = w' := by simpa using h
    refine ⟨.list _, rfl, ?_⟩
    rw [hasked, Option.toList_some]
    by_cases hid : id ∈ ids
    · simp [hid, Value.truthy]
    · simp [hid, Value.truthy]
  keeps := fun _ => rfl

/-- A selection that comes back gives `data`, and leaves the contents alone. -/
theorem runs_askData_truthful {byID : String → DbQuery} {contents : ω → String → Bool}
    (htruth : Truthful env byID contents) {id : String} {s : State ω}
    {res : Except Exc Value × State ω} (h : runs env (askData (byID id)) s = some res) :
    ∃ exist w, res = (.ok exist, { s with world := w }) ∧
      exist.truthy = contents s.world id ∧ contents w = contents s.world := by
  rw [runs_askData] at h
  rcases hexchange : env.exchange s.world s.dbQuery_cache.keys (byID id) .select with
    _ | ⟨n, a, w⟩
  · rw [hexchange] at h; exact absurd h (by simp)
  · obtain ⟨exist, hget, htruthy⟩ := htruth.data hexchange
    simp only [hexchange, hget] at h
    split at h
    · exact absurd h (by simp)
    · exact ⟨exist, w, (Option.some.inj h).symm, htruthy, htruth.keeps hexchange⟩

/-! ## Candidates -/

/-- Candidate `i` of an identifier. -/
def candidate (base : String) (flag i : Nat) : String := newID (flag + collision_inc * i) base

theorem candidate_injective (base : String) (flag : Nat) :
    Function.Injective (candidate base flag) := candidates_injective (newID_injective base) flag

section Search

variable (contents : String → Bool) (base : String) (flag limit : Nat) (s : State ω)

/-- Candidate `i` is in the cache. -/
def cachedCandidate (i : Nat) : Bool := s.deviceID_cache.has (.str (candidate base flag i))

/-- The database contains candidate `i`. -/
def storedCandidate (i : Nat) : Bool := contents (candidate base flag i)

/-- The interpreter allows no further call after `u` probes. -/
def tooDeep (u _i : Nat) : Prop := limit ≤ u

end Search

variable {device providing : ω → String → Bool}

/-! ## `join_genID` -/

/-- **One call of `join_genID`** that comes back: the candidate is free, or it is stored and
the search goes on behind it. -/
theorem join_genID_cases (htruth : Truthful env deviceByID device) {limit flag : Nat}
    {base id : String} {t : State ω} {res : Except Exc String × State ω}
    (hid : newID (passCached t.deviceID_cache base flag) base = id)
    (h : runs env (join_genID (limit + 1) base flag) t = some res) :
    (device t.world id = false ∧ res.1 = .ok id) ∨
      (device t.world id = true ∧ ∃ w, device w = device t.world ∧
        runs env (join_genID limit base (passCached t.deviceID_cache base flag + collision_inc))
          { t with deviceID_cache := t.deviceID_cache.set (.str id) (.bool true), world := w } =
            some res) := by
  have hstart : runs env (join_genID (limit + 1) base flag) t =
      runs env (do
        let exist ← askData (deviceQuery (.str id))
        cacheTrue (.str id)
        if ¬ exist.truthy then return id
        else join_genID limit base (passCached t.deviceID_cache base flag + collision_inc))
        { t with deviceID_cache := t.deviceID_cache.set (.str id) (.str "None") } := by
    rw [← hid]; rfl
  -- the mark `"None"` is overwritten before the next candidate is passed
  rw [hstart, runs, Prog.exec_bind] at h
  rcases hask : Prog.exec (perform env) (askData (deviceQuery (.str id)))
    { t with deviceID_cache := t.deviceID_cache.set (.str id) (.str "None") } with _ | res'
  · rw [hask] at h; exact absurd h (by simp)
  · obtain ⟨exist, w, rfl, htruthy, hkeep⟩ := runs_askData_truthful htruth hask
    rw [hask] at h
    have hmark := runs_cacheTrue_str env { t with
      deviceID_cache := t.deviceID_cache.set (.str id) (.str "None"), world := w } id
    rw [runs] at hmark
    simp only [Prog.exec_bind, hmark, Dict.set_set] at h
    cases hst : device t.world id with
    | false =>
      have hfree : exist.truthy = false := htruthy.trans hst
      simp only [hfree] at h
      exact Or.inl ⟨rfl, (congrArg Prod.fst (Option.some.inj h)).symm⟩
    | true =>
      have htaken : exist.truthy = true := htruthy.trans hst
      simp only [htaken] at h
      exact Or.inr ⟨rfl, w, hkeep, h⟩

/-- A call of `join_genID` at candidate `i`, in a state that differs from the first one by
what passing the candidates below `i` left. -/
structure JoinAt (env : Env ω) (device : ω → String → Bool) (base : String) (flag limit : Nat)
    (s : State ω) (res : Except Exc String × State ω) (l i u : Nat) (t : State ω) : Prop where
  depth : l + u = limit
  device : device t.world = device s.world
  cache : ∀ j, i ≤ j →
    t.deviceID_cache.has (.str (candidate base flag j)) = cachedCandidate base flag s j
  runs : runs env (join_genID l base (flag + collision_inc * i)) t = some res

/-- **`join_genID` is a search over its candidates**: those in the cache cost nothing. -/
theorem join_genID_search (htruth : Truthful env deviceByID device) {base : String}
    {flag limit : Nat} {s : State ω} {res : Except Exc String × State ω}
    (h : runs env (join_genID limit base flag) s = some res) :
    ∃ o, Search.Run (cachedCandidate base flag s) (storedCandidate (device s.world) base flag)
        (tooDeep limit) 0 0 o ∧ Returns (candidate base flag) o res.1 := by
  refine Search.Run.of_steps (P := JoinAt env device base flag limit s res) ?_
    ⟨Nat.add_zero limit, rfl, fun _ _ => rfl, h⟩
  intro l i u t ⟨hdepth, hdevice, hcache, hrun⟩
  -- candidates in the cache are passed without a question
  obtain ⟨j, hpass, hnot, hskip⟩ := passCached_spec t.deviceID_cache base (flag + collision_inc * i)
  simp only [flag_add] at hpass hnot hskip
  refine ⟨j, fun m hm => (hcache _ (Nat.le_add_right i m)).symm.trans (hskip m hm),
    (hcache _ (Nat.le_add_right i j)).symm.trans hnot, ?_⟩
  cases l with
  | zero =>
    have hraise : runs env (join_genID 0 base (flag + collision_inc * i)) t =
      some (.error .recursionError, _) := rfl
    refine Or.inl ⟨by unfold tooDeep; omega, .recursionError, ?_⟩
    exact (congrArg Prod.fst (Option.some.inj (hraise.symm.trans hrun))).symm
  | succ l =>
    have hroom : ¬ tooDeep limit u (i + j) := by unfold tooDeep; omega
    rcases join_genID_cases htruth (by rw [hpass]) hrun with
      ⟨hfree, hres⟩ | ⟨htaken, w, hkeep, hrest⟩
    · rw [hdevice] at hfree
      exact Or.inr (Or.inl ⟨hroom, hfree, hres⟩)
    · rw [hdevice] at htaken
      rw [hpass, flag_succ] at hrest
      refine Or.inr (Or.inr ⟨hroom, htaken, l, _, Nat.lt_succ_self l, by omega,
        hkeep.trans hdevice, fun m hm => ?_, hrest⟩)
      -- the candidate that was marked is none of the later ones
      have hne : candidate base flag m ≠ candidate base flag (i + j) := fun heq => by
        have := candidate_injective base flag heq
        omega
      have hkey : Key.str (candidate base flag m) ≠ Key.str (candidate base flag (i + j)) :=
        fun heq => hne (by simpa using heq)
      show (t.deviceID_cache.set (.str (candidate base flag (i + j))) (.bool true)).has _ = _
      rw [Dict.has_set, decide_eq_false hkey, Bool.false_or, hcache m (by omega)]

/-! ## `register_genID` -/

/-- **One call of `register_genID`** that comes back. -/
theorem register_genID_cases (htruth : Truthful env providingByID providing) {limit flag : Nat}
    {hash_val : String} {t : State ω} {res : Except Exc String × State ω}
    (h : runs env (register_genID (limit + 1) hash_val flag) t = some res) :
    (providing t.world (newID flag hash_val) = false ∧ res.1 = .ok (newID flag hash_val)) ∨
      (providing t.world (newID flag hash_val) = true ∧ ∃ w, providing w = providing t.world ∧
        runs env (register_genID limit hash_val (flag + collision_inc)) { t with world := w } =
          some res) := by
  have hstart : runs env (register_genID (limit + 1) hash_val flag) t =
      runs env (do
        let exist ← askData (providingQuery (.str (newID flag hash_val)))
        if ¬ exist.truthy then return newID flag hash_val
        else register_genID limit hash_val (flag + collision_inc)) t := rfl
  rw [hstart, runs, Prog.exec_bind] at h
  rcases hask : Prog.exec (perform env) (askData (providingQuery (.str (newID flag hash_val)))) t
    with _ | res'
  · rw [hask] at h; exact absurd h (by simp)
  · obtain ⟨exist, w, rfl, htruthy, hkeep⟩ := runs_askData_truthful htruth hask
    rw [hask] at h
    cases hst : providing t.world (newID flag hash_val) with
    | false =>
      have hfree : exist.truthy = false := htruthy.trans hst
      simp only [hfree] at h
      exact Or.inl ⟨rfl, (congrArg Prod.fst (Option.some.inj h)).symm⟩
    | true =>
      have htaken : exist.truthy = true := htruthy.trans hst
      simp only [htaken] at h
      exact Or.inr ⟨rfl, w, hkeep, h⟩

/-- A call of `register_genID` at candidate `i`. -/
structure RegisterAt (env : Env ω) (providing : ω → String → Bool) (hash_val : String)
    (flag limit : Nat) (s : State ω) (res : Except Exc String × State ω) (l i u : Nat)
    (t : State ω) : Prop where
  depth : l + u = limit
  providing : providing t.world = providing s.world
  runs : runs env (register_genID l hash_val (flag + collision_inc * i)) t = some res

/-- **`register_genID` is a search over its candidates**: every one is probed. -/
theorem register_genID_search (htruth : Truthful env providingByID providing) {hash_val : String}
    {flag limit : Nat} {s : State ω} {res : Except Exc String × State ω}
    (h : runs env (register_genID limit hash_val flag) s = some res) :
    ∃ o, Search.Run (fun _ => false) (storedCandidate (providing s.world) hash_val flag)
        (tooDeep limit) 0 0 o ∧ Returns (candidate hash_val flag) o res.1 := by
  refine Search.Run.of_steps (P := RegisterAt env providing hash_val flag limit s res) ?_
    ⟨Nat.add_zero limit, rfl, h⟩
  intro l i u t ⟨hdepth, hproviding, hrun⟩
  refine ⟨0, fun m hm => absurd hm (Nat.not_lt_zero m), rfl, ?_⟩
  cases l with
  | zero =>
    have hraise : runs env (register_genID 0 hash_val (flag + collision_inc * i)) t =
      some (.error .recursionError, _) := rfl
    refine Or.inl ⟨by unfold tooDeep; omega, .recursionError, ?_⟩
    exact (congrArg Prod.fst (Option.some.inj (hraise.symm.trans hrun))).symm
  | succ l =>
    have hroom : ¬ tooDeep limit u i := by unfold tooDeep; omega
    rcases register_genID_cases htruth hrun with ⟨hfree, hres⟩ | ⟨htaken, w, hkeep, hrest⟩
    · rw [hproviding] at hfree
      exact Or.inr (Or.inl ⟨hroom, hfree, hres⟩)
    · rw [hproviding] at htaken
      rw [flag_succ] at hrest
      exact Or.inr (Or.inr ⟨hroom, htaken, l, _, Nat.lt_succ_self l, by omega,
        hkeep.trans hproviding, hrest⟩)

end Versatile.FlexIDMnger
