import Versatile.FlexIDMngerDb.Manager
import Versatile.FlexIDMngerDb.DbSpec

/-!
# The identifiers `flexIDMnger_db.py` generates

`join_genID` and `register_genID` look for a free identifier. Each is described twice: by
its effect on the globals, which is all the invariants need, and as a run of `Search`, from
which everything about the identifier found is read off. The searches go by what the selections
fetch; for plain texts that is what is stored.
-/

namespace Versatile.FlexIDMngerDb

open Py

variable {srv : Server}

/-! ## One probe -/

/-- Is a device with this identifier stored, as the connection sees it? -/
def deviceStored (srv : Server) (db : Database) (id : String) : Bool :=
  srv.finds db .Device "deviceId" id

/-- Is something registered under this identifier, as the connection sees it? -/
def providingStored (srv : Server) (db : Database) (id : String) : Bool :=
  srv.finds db .RegisterList "providingId" id

/-- Does the selection for a device fetch one, as the `n`-th statement on these tables? -/
def deviceFound (srv : Server) (db : Database) (n : Nat) (id : String) : Bool :=
  srv.selects { db with executed := n } .Device "deviceId" id

/-- Does the selection for a registration fetch one, as the `n`-th statement on these tables? -/
def providingFound (srv : Server) (db : Database) (n : Nat) (id : String) : Bool :=
  srv.selects { db with executed := n } .RegisterList "providingId" id

/-- The text of the selection for a device. -/
def deviceProbe (id : String) : String := Server.probeText .Device "deviceId" id

/-- The text of the selection for a registration. -/
def providingProbe (id : String) : String := Server.probeText .RegisterList "providingId" id

theorem deviceStored_congr {db db' : Database} (h : db'.log = db.log) (id : String) :
    deviceStored srv db' id = deviceStored srv db id := by
  unfold deviceStored Server.finds Database.rows
  rw [h]

theorem deviceFound_congr {db db' : Database} (h : db'.log = db.log) (n : Nat) (id : String) :
    deviceFound srv db' n id = deviceFound srv db n id := by
  unfold deviceFound
  rw [h]

theorem providingFound_congr {db db' : Database} (h : db'.log = db.log) (n : Nat) (id : String) :
    providingFound srv db' n id = providingFound srv db n id := by
  unfold providingFound
  rw [h]

/-- A plain identifier is found exactly if it is stored. -/
theorem deviceFound_plain {id : String} (h : Plain id) (db : Database) (n : Nat) :
    deviceFound srv db n id = deviceStored srv db id := Server.selects_plain h

theorem providingFound_plain {id : String} (h : Plain id) (db : Database) (n : Nat) :
    providingFound srv db n id = providingStored srv db id := Server.selects_plain h

/-! ## `join_genID`, one call -/

/-- The candidate a call of `join_genID` checks: the first one the cache does not know. -/
def joinCandidate (s : Store) (base : String) (flag : Nat) : String :=
  newID (passCached s.deviceID_cache base flag) base

/-- **One call of `join_genID`**: the server refuses the selection, or the candidate is
not found, or it is found and the search goes on behind it. -/
theorem join_genID_cases (srv : Server) (limit : Nat) {base id : String} {flag : Nat} {s : Store}
    (hid : joinCandidate s base flag = id) :
    (∃ code, srv.refuses s.db.executed (deviceProbe id) = some code ∧
        join_genID srv (limit + 1) base flag s =
          (.error (.sqlError code), ⟨s.deviceID_cache.set id (.str "None"), s.db.tick⟩)) ∨
      (srv.refuses s.db.executed (deviceProbe id) = none ∧
        deviceFound srv s.db s.db.executed id = false ∧
        join_genID srv (limit + 1) base flag s =
          (.ok id, ⟨s.deviceID_cache.set id (.bool true), s.db.tick⟩)) ∨
      (srv.refuses s.db.executed (deviceProbe id) = none ∧
        deviceFound srv s.db s.db.executed id = true ∧
        join_genID srv (limit + 1) base flag s =
          join_genID srv limit base (passCached s.deviceID_cache base flag + collision_inc)
            ⟨s.deviceID_cache.set id (.bool true), s.db.tick⟩) := by
  have hprobe := db_proc_probe srv (t := .Device) (x := id)
    (by decide : "deviceId" ∈ Table.columns .Device) (by decide) s.db
  rcases hprobe with ⟨code, hrefused, hsel⟩ | ⟨hrefused, exist, htruthy, hsel⟩
  · refine Or.inl ⟨code, hrefused, ?_⟩
    rw [join_genID]
    simp only [Proc.bind_apply, Proc.read_apply, cacheSet, Proc.modify_apply, database,
      Proc.zoom_apply]
    rw [show newID (passCached s.deviceID_cache base flag) base = id from hid, deviceQuery, hsel]
  · have hrun : join_genID srv (limit + 1) base flag s =
        (if ¬ exist.truthy then (pure id : Proc Exc Store String)
          else join_genID srv limit base
            (passCached s.deviceID_cache base flag + collision_inc))
          ⟨s.deviceID_cache.set id (.bool true), s.db.tick⟩ := by
      rw [join_genID]
      simp only [Proc.bind_apply, Proc.read_apply, cacheSet, Proc.modify_apply, database,
        Proc.zoom_apply]
      rw [show newID (passCached s.deviceID_cache base flag) base = id from hid, deviceQuery, hsel]
      simp only [Proc.liftM_apply, Value.get_dict, Dict.set_set]
      rfl
    cases hst : deviceFound srv s.db s.db.executed id with
    | false =>
      have : exist.truthy = false := htruthy.trans hst
      exact Or.inr (Or.inl ⟨hrefused, rfl, by rw [hrun, this]; rfl⟩)
    | true =>
      have : exist.truthy = true := htruthy.trans hst
      exact Or.inr (Or.inr ⟨hrefused, rfl, by rw [hrun, this]; rfl⟩)

/-! ## The effect of `join_genID` -/

/-- What passing over candidates does to the globals: the log stays, and the cache gains only
identifiers that were asked for and found. -/
structure Marked (srv : Server) (asked : String → Prop) (s s' : Store) : Prop where
  log : s'.db.log = s.db.log
  grows : ∀ x, s.deviceID_cache.has x = true → s'.deviceID_cache.has x = true
  only : ∀ x, s'.deviceID_cache.has x = true →
    s.deviceID_cache.has x = true ∨ (asked x ∧ ∃ n, deviceFound srv s.db n x = true)

variable {asked : String → Prop}

theorem Marked.refl (srv : Server) (asked : String → Prop) (s : Store) : Marked srv asked s s :=
  ⟨rfl, fun _ h => h, fun _ h => Or.inl h⟩

theorem Marked.trans {a b c : Store} (h1 : Marked srv asked a b) (h2 : Marked srv asked b c) :
    Marked srv asked a c where
  log := h2.log.trans h1.log
  grows := fun x h => h2.grows x (h1.grows x h)
  only := by
    intro x h
    rcases h2.only x h with h | ⟨hasked, n, h⟩
    · exact h1.only x h
    · exact Or.inr ⟨hasked, n, by rwa [deviceFound_congr h1.log] at h⟩

theorem Marked.mono {asked' : String → Prop} {s s' : Store} (h : Marked srv asked s s')
    (himp : ∀ x, asked x → asked' x) : Marked srv asked' s s' :=
  ⟨h.log, h.grows, fun x hx => (h.only x hx).imp_right (And.imp_left (himp x))⟩

theorem marked_frame (srv : Server) (asked : String → Prop) : Proc.Frame (Marked srv asked) :=
  ⟨Marked.refl srv asked, Marked.trans⟩

/-- Marking one candidate that was found. -/
theorem marked_set {s : Store} {id : String} (hasked : asked id)
    (h : deviceFound srv s.db s.db.executed id = true) :
    Marked srv asked s ⟨s.deviceID_cache.set id (.bool true), s.db.tick⟩ where
  log := rfl
  grows := fun x hx => by rw [Dict.has_set, hx, Bool.or_true]
  only := by
    intro x hx
    rw [Dict.has_set, Bool.or_eq_true, decide_eq_true_eq] at hx
    rcases hx with rfl | hx
    · exact Or.inr ⟨hasked, _, h⟩
    · exact Or.inl hx

/-- The candidates of a base. -/
def CandidateOf (base x : String) : Prop := ∃ flag, x = newID flag base

/-- How `join_genID` ends, after passing over some candidates: with a new identifier in the
cache, or with a candidate in it whose selection was refused or did not fit the stack. -/
def GenEnds (srv : Server) (base : String) (s s1 : Store) : Except Exc String × Store → Prop
  | (.ok id, s') => CandidateOf base id ∧ s1.deviceID_cache.has id = false ∧
      (∃ n, deviceFound srv s.db n id = false) ∧
      s' = ⟨s1.deviceID_cache.set id (.bool true), s1.db.tick⟩
  | (.error _, s') => ∃ id db, db.log = s1.db.log ∧
      s' = ⟨s1.deviceID_cache.set id (.str "None"), db⟩

theorem newID_injective (base : String) : Function.Injective (newID · base) := by
  intro m n h
  exact Decimal.toString_nat_injective ((String.append_left_inj base).mp h)

/-- The loop over the cache ends at the first candidate the cache does not know. -/
theorem passCached_spec (cache : Dict String Value) (base : String) (flag : Nat) :
    ∃ j, passCached cache base flag = flag + collision_inc * j ∧
      cache.has (newID (flag + collision_inc * j) base) = false ∧
      ∀ i, i < j → cache.has (newID (flag + collision_inc * i) base) = true :=
  Search.countUp_dict cache (newID_injective base) (by decide) flag

theorem joinCandidate_not_cached (s : Store) (base : String) (flag : Nat) :
    s.deviceID_cache.has (joinCandidate s base flag) = false := by
  obtain ⟨j, hj, hnot, _⟩ := passCached_spec s.deviceID_cache base flag
  rw [joinCandidate, hj]
  exact hnot

theorem candidateOf_joinCandidate (s : Store) (base : String) (flag : Nat) :
    CandidateOf base (joinCandidate s base flag) := ⟨_, rfl⟩

/-- **The effect of `join_genID`**, by induction on the calls it makes. -/
theorem join_genID_ends (srv : Server) (base : String) :
    ∀ (limit flag : Nat) (s : Store),
      ∃ s1, Marked srv (CandidateOf base) s s1 ∧
        GenEnds srv base s s1 (join_genID srv limit base flag s)
  | 0, _, s => ⟨s, Marked.refl srv _ s, _, s.db, rfl, rfl⟩
  | limit + 1, flag, s => by
      have hnew := joinCandidate_not_cached s base flag
      have hcand := candidateOf_joinCandidate s base flag
      rcases join_genID_cases srv limit (rfl : joinCandidate s base flag = _) with
        ⟨code, _, h⟩ | ⟨_, hst, h⟩ | ⟨_, hst, h⟩
      · exact ⟨s, Marked.refl srv _ s, by rw [h]; exact ⟨_, s.db.tick, rfl, rfl⟩⟩
      · exact ⟨s, Marked.refl srv _ s, by rw [h]; exact ⟨hcand, hnew, ⟨_, hst⟩, rfl⟩⟩
      · have hmark := marked_set hcand hst
        obtain ⟨s1, h1, h2⟩ := join_genID_ends srv base limit _
          (⟨s.deviceID_cache.set (joinCandidate s base flag) (.bool true), s.db.tick⟩ : Store)
        refine ⟨s1, hmark.trans h1, ?_⟩
        rw [h]
        -- what is found after the first candidate was found before it
        rcases hres : join_genID srv limit base _ _ with ⟨r, s'⟩
        rw [hres] at h2
        cases r with
        | ok id => exact h2
        | error e => exact h2

/-- The log is never touched. -/
theorem join_genID_log (srv : Server) (limit : Nat) (base : String) (flag : Nat) (s : Store) :
    (join_genID srv limit base flag s).2.db.log = s.db.log := by
  obtain ⟨s1, hmark, hends⟩ := join_genID_ends srv base limit flag s
  rcases hres : join_genID srv limit base flag s with ⟨r, s'⟩
  rw [hres] at hends
  cases r with
  | ok id =>
    obtain ⟨_, _, _, rfl⟩ := hends
    exact hmark.log
  | error e =>
    obtain ⟨id, db, hlog, rfl⟩ := hends
    exact hlog.trans hmark.log

/-- A generated identifier is a candidate of its base, cached from then on, and was not found. -/
theorem join_genID_ok {limit flag : Nat} {base id : String} {s s' : Store}
    (h : join_genID srv limit base flag s = (.ok id, s')) :
    CandidateOf base id ∧ (∃ n, deviceFound srv s.db n id = false) ∧
      s'.deviceID_cache.has id = true ∧ s'.db.log = s.db.log ∧
      ∀ x, s'.deviceID_cache.has x = true → x = id ∨ s.deviceID_cache.has x = true ∨
        (CandidateOf base x ∧ ∃ n, deviceFound srv s.db n x = true) := by
  obtain ⟨s1, hmark, hends⟩ := join_genID_ends srv base limit flag s
  rw [h] at hends
  obtain ⟨hcand, _, hst, rfl⟩ := hends
  refine ⟨hcand, hst, by simp, hmark.log, ?_⟩
  intro x hx
  rw [Dict.has_set, Bool.or_eq_true, decide_eq_true_eq] at hx
  exact hx.imp (fun h => h) (hmark.only x)

/-- The candidates of a plain base are plain. -/
theorem plain_newID {base : String} (h : Plain base) (flag : Nat) : Plain (newID flag base) :=
  (plain_toString_nat flag).append h

theorem CandidateOf.plain {base x : String} (h : CandidateOf base x) (hbase : Plain base) :
    Plain x := by
  obtain ⟨flag, rfl⟩ := h
  exact plain_newID hbase flag

/-- **The identifier generated from a plain base** was not stored, and the cache gains stored
identifiers besides. -/
theorem join_genID_plain {limit flag : Nat} {base id : String} {s s' : Store} (hbase : Plain base)
    (h : join_genID srv limit base flag s = (.ok id, s')) :
    Plain id ∧ deviceStored srv s.db id = false ∧ s'.deviceID_cache.has id = true ∧
      s'.db.log = s.db.log ∧
      ∀ x, s'.deviceID_cache.has x = true →
        x = id ∨ s.deviceID_cache.has x = true ∨ deviceStored srv s.db x = true := by
  obtain ⟨hcand, ⟨n, hst⟩, hcached, hlog, honly⟩ := join_genID_ok h
  have hid := hcand.plain hbase
  rw [deviceFound_plain hid] at hst
  refine ⟨hid, hst, hcached, hlog, fun x hx => ?_⟩
  rcases honly x hx with hx | hx | ⟨hx, n, hfound⟩
  · exact Or.inl hx
  · exact Or.inr (Or.inl hx)
  · rw [deviceFound_plain (hx.plain hbase)] at hfound
    exact Or.inr (Or.inr hfound)

/-! ## `join_genID` as a search -/

section Search

variable (srv) (base : String) (flag limit : Nat) (s : Store)

/-- Candidate `i` of a device identifier. -/
def candidate (i : Nat) : String := newID (flag + collision_inc * i) base

/-- Candidate `i` is in the cache. -/
def cachedCandidate (i : Nat) : Bool := s.deviceID_cache.has (candidate base flag i)

/-- Candidate `i` is stored in `Device`. -/
def storedCandidate (i : Nat) : Bool := deviceStored srv s.db (candidate base flag i)

/-- The number of the statement that asks for candidate `i`: those in the cache are not asked
for. -/
def askedAt (i : Nat) : Nat := s.db.executed + Search.probes (cachedCandidate base flag s) i

/-- The selection for candidate `i` finds a device. -/
def foundCandidate (i : Nat) : Bool :=
  deviceFound srv s.db (askedAt base flag s i) (candidate base flag i)

/-- The probe of candidate `i` after `u` others: the interpreter allows no further call, or
the server refuses the selection. -/
def joinFails (u i : Nat) : Prop :=
  limit ≤ u ∨
    ∃ code, srv.refuses (s.db.executed + u) (deviceProbe (candidate base flag i)) = some code

end Search

theorem candidate_injective (base : String) (flag : Nat) :
    Function.Injective (candidate base flag) := candidates_injective (newID_injective base) flag

/-- A call of `join_genID` at candidate `i`, in a state that differs from the first one by
the selections made and the candidates passed: those lie below `i`. -/
structure JoinAt (srv : Server) (base : String) (flag limit : Nat) (s : Store)
    (r : Except Exc String) (l i u : Nat) (t : Store) : Prop where
  depth : l + u = limit
  probes : u = Search.probes (cachedCandidate base flag s) i
  log : t.db.log = s.db.log
  executed : t.db.executed = s.db.executed + u
  cache : ∀ j, i ≤ j → t.deviceID_cache.has (candidate base flag j) = cachedCandidate base flag s j
  result : (join_genID srv l base (flag + collision_inc * i) t).1 = r

/-- **`join_genID` is a search over its candidates**: those in the cache cost nothing. -/
theorem join_genID_search (base : String) (flag limit : Nat) (s : Store) :
    ∃ o, Search.Run (cachedCandidate base flag s) (foundCandidate srv base flag s)
        (joinFails srv base flag limit s) 0 0 o ∧
      Returns (candidate base flag) o (join_genID srv limit base flag s).1 := by
  generalize hr : (join_genID srv limit base flag s).1 = r
  refine Search.Run.of_steps (P := JoinAt srv base flag limit s r) ?_
    ⟨Nat.add_zero limit, by simp [Search.probes], rfl, rfl, fun _ _ => rfl, hr⟩
  intro l i u t hat
  obtain ⟨hdepth, hprobes, hlog, hexec, hcache, hres⟩ := hat
  obtain ⟨j, hpass, hnot, hskip⟩ :=
    passCached_spec t.deviceID_cache base (flag + collision_inc * i)
  simp only [flag_add] at hpass hnot hskip
  have hcached : ∀ m, m < j → cachedCandidate base flag s (i + m) = true :=
    fun m hm => (hcache _ (Nat.le_add_right i m)).symm.trans (hskip m hm)
  have hfresh : cachedCandidate base flag s (i + j) = false :=
    (hcache _ (Nat.le_add_right i j)).symm.trans hnot
  -- nothing is asked about the candidates that are passed
  have hasked : u = Search.probes (cachedCandidate base flag s) (i + j) :=
    hprobes.trans (Search.probes_skips hcached).symm
  refine ⟨j, hcached, hfresh, ?_⟩
  cases l with
  | zero => exact Or.inl ⟨Or.inl (by omega), .recursionError, hres.symm⟩
  | succ l =>
    -- the candidate of this call is the one `passCached` stops at
    have hcand : joinCandidate t base (flag + collision_inc * i) = candidate base flag (i + j) := by
      rw [joinCandidate, hpass, candidate]
    have hcases := join_genID_cases srv l hcand
    have hfound : deviceFound srv t.db t.db.executed (candidate base flag (i + j)) =
        foundCandidate srv base flag s (i + j) := by
      rw [deviceFound_congr hlog, hexec, foundCandidate, askedAt, ← hasked]
    rw [hfound, hexec] at hcases
    have hnofail :
        srv.refuses (s.db.executed + u) (deviceProbe (candidate base flag (i + j))) = none →
        ¬ joinFails srv base flag limit s u (i + j) := by
      intro hnone hcase
      rcases hcase with hle | ⟨code, hcode⟩
      · omega
      · rw [hnone] at hcode; exact absurd hcode (by simp)
    rcases hcases with ⟨code, hrefused, h⟩ | ⟨hrefused, hst, h⟩ | ⟨hrefused, hst, h⟩
    · exact Or.inl ⟨Or.inr ⟨code, hrefused⟩, _, by rw [← hres, h]⟩
    · exact Or.inr (Or.inl ⟨hnofail hrefused, hst, by rw [← hres, h, Returns]⟩)
    · rw [hpass, flag_succ] at h
      refine Or.inr (Or.inr ⟨hnofail hrefused, hst, l,
        ⟨t.deviceID_cache.set (candidate base flag (i + j)) (.bool true), t.db.tick⟩,
        Nat.lt_succ_self l, by omega, ?_, hlog, ?_, fun m hm => ?_, by rw [← hres, h]⟩)
      · rw [Search.probes_probe hfresh, ← hasked]
      · rw [Database.tick_executed, hexec, Nat.add_assoc]
      · -- the candidate that was marked is none of the later ones
        have hne : candidate base flag m ≠ candidate base flag (i + j) := fun heq => by
          have := candidate_injective base flag heq
          omega
        rw [Dict.has_set, decide_eq_false hne, Bool.false_or, hcache m (by omega)]

/-- The candidates of a plain base are found exactly if they are stored. -/
theorem foundCandidate_plain {base : String} (h : Plain base) (flag : Nat) (s : Store) :
    foundCandidate srv base flag s = storedCandidate srv base flag s := by
  funext i
  exact deviceFound_plain (plain_newID h _) _ _

/-! ## `register_genID` -/

/-- **One call of `register_genID`**: it keeps no cache. -/
theorem register_genID_cases (srv : Server) (limit : Nat) {hash_val id : String} {flag : Nat}
    {s : Store} (hid : newID flag hash_val = id) :
    (∃ code, srv.refuses s.db.executed (providingProbe id) = some code ∧
        register_genID srv (limit + 1) hash_val flag s =
          (.error (.sqlError code), ⟨s.deviceID_cache, s.db.tick⟩)) ∨
      (srv.refuses s.db.executed (providingProbe id) = none ∧
        providingFound srv s.db s.db.executed id = false ∧
        register_genID srv (limit + 1) hash_val flag s =
          (.ok id, ⟨s.deviceID_cache, s.db.tick⟩)) ∨
      (srv.refuses s.db.executed (providingProbe id) = none ∧
        providingFound srv s.db s.db.executed id = true ∧
        register_genID srv (limit + 1) hash_val flag s =
          register_genID srv limit hash_val (flag + collision_inc)
            ⟨s.deviceID_cache, s.db.tick⟩) := by
  have hprobe := db_proc_probe srv (t := .RegisterList) (x := id)
    (by decide : "providingId" ∈ Table.columns .RegisterList) (by decide) s.db
  rcases hprobe with ⟨code, hrefused, hsel⟩ | ⟨hrefused, exist, htruthy, hsel⟩
  · refine Or.inl ⟨code, hrefused, ?_⟩
    rw [register_genID]
    simp only [Proc.bind_apply, send_DBquery, database, Proc.zoom_apply]
    rw [hid, providingQuery, hsel]
  · have hrun : register_genID srv (limit + 1) hash_val flag s =
        (if ¬ exist.truthy then (pure id : Proc Exc Store String)
          else register_genID srv limit hash_val (flag + collision_inc))
          ⟨s.deviceID_cache, s.db.tick⟩ := by
      rw [register_genID]
      simp only [Proc.bind_apply, send_DBquery, database, Proc.zoom_apply]
      rw [hid, providingQuery, hsel]
      simp only [Proc.liftM_apply, Value.get_dict]
      rfl
    cases hst : providingFound srv s.db s.db.executed id with
    | false =>
      have : exist.truthy = false := htruthy.trans hst
      exact Or.inr (Or.inl ⟨hrefused, rfl, by rw [hrun, this]; rfl⟩)
    | true =>
      have : exist.truthy = true := htruthy.trans hst
      exact Or.inr (Or.inr ⟨hrefused, rfl, by rw [hrun, this]; rfl⟩)

/-- What selections alone do to the globals: the log and the cache stay. -/
structure Selected (s s' : Store) : Prop where
  log : s'.db.log = s.db.log
  cache : s'.deviceID_cache = s.deviceID_cache

theorem Selected.refl (s : Store) : Selected s s := ⟨rfl, rfl⟩

theorem Selected.trans {a b c : Store} (h1 : Selected a b) (h2 : Selected b c) : Selected a c :=
  ⟨h2.log.trans h1.log, h2.cache.trans h1.cache⟩

theorem selected_frame : Proc.Frame Selected := ⟨Selected.refl, Selected.trans⟩

theorem Selected.marked {s s' : Store} (h : Selected s s') : Marked srv asked s s' :=
  ⟨h.log, fun _ hx => h.cache ▸ hx, fun _ hx => Or.inl (h.cache ▸ hx)⟩

/-- `register_genID` only selects. -/
theorem register_genID_selected (hash_val : String) :
    ∀ limit flag : Nat, Proc.Keeps Selected (register_genID srv limit hash_val flag)
  | 0, _ => fun s => Selected.refl s
  | limit + 1, flag => by
      intro s
      rcases register_genID_cases srv limit (s := s) (rfl : newID flag hash_val = _) with
        ⟨code, _, h⟩ | ⟨_, _, h⟩ | ⟨_, _, h⟩
      · rw [h]; exact ⟨rfl, rfl⟩
      · rw [h]; exact ⟨rfl, rfl⟩
      · rw [h]
        have hrest := register_genID_selected hash_val limit (flag + collision_inc)
          (⟨s.deviceID_cache, s.db.tick⟩ : Store)
        exact ⟨hrest.log, hrest.cache⟩

section Search

variable (srv) (hash_val : String) (flag limit : Nat) (s : Store)

/-- The selection for candidate `i` finds a registration: each candidate is asked for. -/
def foundRegistered (i : Nat) : Bool :=
  providingFound srv s.db (s.db.executed + i) (candidate hash_val flag i)

/-- The probe of candidate `i` after `u` others fails. -/
def registerFails (u i : Nat) : Prop :=
  limit ≤ u ∨ ∃ code,
    srv.refuses (s.db.executed + u) (providingProbe (candidate hash_val flag i)) = some code

end Search

/-- A call of `register_genID` at candidate `i`. -/
structure RegisterAt (srv : Server) (hash_val : String) (flag limit : Nat) (s : Store)
    (r : Except Exc String) (l i u : Nat) (t : Store) : Prop where
  depth : l + u = limit
  probes : u = i
  log : t.db.log = s.db.log
  executed : t.db.executed = s.db.executed + u
  result : (register_genID srv l hash_val (flag + collision_inc * i) t).1 = r

/-- **`register_genID` is a search over its candidates**: every one is probed. -/
theorem register_genID_search (hash_val : String) (flag limit : Nat) (s : Store) :
    ∃ o, Search.Run (fun _ => false) (foundRegistered srv hash_val flag s)
        (registerFails srv hash_val flag limit s) 0 0 o ∧
      Returns (candidate hash_val flag) o (register_genID srv limit hash_val flag s).1 := by
  generalize hr : (register_genID srv limit hash_val flag s).1 = r
  refine Search.Run.of_steps (P := RegisterAt srv hash_val flag limit s r) ?_
    ⟨Nat.add_zero limit, rfl, rfl, rfl, hr⟩
  intro l i u t ⟨hdepth, hprobes, hlog, hexec, hres⟩
  obtain rfl := hprobes
  refine ⟨0, fun m hm => absurd hm (Nat.not_lt_zero m), rfl, ?_⟩
  cases l with
  | zero => exact Or.inl ⟨Or.inl (by omega), .recursionError, hres.symm⟩
  | succ l =>
    -- one call, seen from the state the search started in
    have hcand : newID (flag + collision_inc * u) hash_val = candidate hash_val flag u := rfl
    have hcases := register_genID_cases srv l (s := t) hcand
    have hfound : providingFound srv t.db t.db.executed (candidate hash_val flag u) =
        foundRegistered srv hash_val flag s u := by
      rw [providingFound_congr hlog, hexec, foundRegistered]
    rw [hfound, hexec] at hcases
    have hnofail :
        srv.refuses (s.db.executed + u) (providingProbe (candidate hash_val flag u)) = none →
        ¬ registerFails srv hash_val flag limit s u u := by
      intro hnone hcase
      rcases hcase with hle | ⟨code, hcode⟩
      · omega
      · rw [hnone] at hcode; exact absurd hcode (by simp)
    rcases hcases with ⟨code, hrefused, h⟩ | ⟨hrefused, hst, h⟩ | ⟨hrefused, hst, h⟩
    · exact Or.inl ⟨Or.inr ⟨code, hrefused⟩, _, by rw [← hres, h]⟩
    · exact Or.inr (Or.inl ⟨hnofail hrefused, hst, by rw [← hres, h]; rfl⟩)
    · rw [flag_succ] at h
      exact Or.inr (Or.inr ⟨hnofail hrefused, hst, l, ⟨t.deviceID_cache, t.db.tick⟩,
        Nat.lt_succ_self l, by omega, rfl, hlog,
        by rw [Database.tick_executed, hexec, Nat.add_assoc], by rw [← hres, h]⟩)

end Versatile.FlexIDMngerDb
