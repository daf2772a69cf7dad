import Versatile.FlexIDMnger.Manager

/-!
# Running the handlers of `flexIDMnger.py`

One process, handling one request after the other, against an environment: the random query
identifiers, the broker and the remote database. A handler that sends a query gets the
identifier and the answer it waited for, or waits forever: an answer that is lost, one that
does not decode, and the answer `"None"`, which the loop takes for the missing one, all leave it
waiting.
-/

namespace Versatile.FlexIDMnger

open Py

/-- A query identifier: the text of 32 random bits. -/
def queryID (n : BitVec 32) : String := "0x" ++ String.ofList (hex 8 n.toNat)

/-- The environment of a process, with a state of its own. -/
structure Env (ω : Type) where
  /-- A query is sent while some identifiers are taken: the bits its identifier is made of,
  the answer, and the state after; `none` if no answer arrives, or one that `on_db_message`
  cannot decode. -/
  exchange : ω → List String → DbQuery → DbTopic → Option (BitVec 32 × Value × ω)
  /-- Identifiers are drawn until one is not taken. -/
  fresh : ∀ {w w' : ω} {taken : List String} {q : DbQuery} {t : DbTopic} {n : BitVec 32}
    {a : Value}, exchange w taken q t = some (n, a, w') → queryID n ∉ taken

/-- The globals of the process, what it published, and the state of its environment. Of the
entries of `dbQuery_cache` that a `send_DBquery` left behind when it broke off only the number
is kept: nobody knows their identifiers, which are never read, deleted or drawn again. -/
structure State (ω : Type) where
  deviceID_cache : Dict Key Value
  dbQuery_cache : Dict String Value
  stranded : Nat
  published : List Message
  world : ω

variable {ω : Type}

/-- What an operation does, when the process runs alone. -/
def perform (env : Env ω) : (o : Act) → State ω → Option (o.Res × State ω)
  | .cache, s => some (s.deviceID_cache, s)
  | .cacheSet k v, s => some ((), { s with deviceID_cache := s.deviceID_cache.set k v })
  | .cacheDel k, s =>
    some (s.deviceID_cache.has k, { s with deviceID_cache := s.deviceID_cache.erase k })
  | .send q t, s =>
    match env.exchange s.world s.dbQuery_cache.keys q t with
    | some (n, a, w) =>
      if a.isStr "None" then none
      else some (queryID n,
        { s with dbQuery_cache := s.dbQuery_cache.set (queryID n) a, world := w })
    | none => none
  | .strand, s => some ((), { s with stranded := s.stranded + 1 })
  | .reply id, s => some (s.dbQuery_cache.get id, s)
  | .drop id, s =>
    some (s.dbQuery_cache.has id, { s with dbQuery_cache := s.dbQuery_cache.erase id })
  | .publish msg, s => some ((), { s with published := s.published ++ [msg] })

/-- The one operation that may not come back is a query: no answer arrives, or the answer is
the text the loop waits to see replaced. -/
theorem perform_eq_none_iff {env : Env ω} {o : Act} {s : State ω} :
    perform env o s = none ↔ ∃ q t, o = .send q t ∧
      ∀ n a w, env.exchange s.world s.dbQuery_cache.keys q t = some (n, a, w) →
        a.isStr "None" = true := by
  cases o with
  | send q t =>
    rw [perform]
    cases hexchange : env.exchange s.world s.dbQuery_cache.keys q t with
    | none => exact ⟨fun _ => ⟨q, t, rfl, by rw [hexchange]; simp⟩, fun _ => rfl⟩
    | some answer =>
      obtain ⟨n, a, w⟩ := answer
      refine ⟨?_, ?_⟩
      · intro h
        refine ⟨q, t, rfl, fun n' a' w' h' => ?_⟩
        obtain ⟨_, rfl, _⟩ : n = n' ∧ a = a' ∧ w = w' := by simpa [hexchange] using h'
        simpa using h
      · intro h
        obtain ⟨_, _, heq, h⟩ := h
        cases heq
        exact if_pos (h n a w hexchange)
  | _ =>
    refine iff_of_false (by simp [perform]) ?_
    intro hsome
    obtain ⟨_, _, heq, _⟩ := hsome
    cases heq

/-- Run a program of a handler. -/
abbrev runs {ε α : Type} (env : Env ω) (p : Prog Act Act.Res ε α) (s : State ω) :
    Option (Except ε α × State ω) := Prog.exec (perform env) p s

/-- One request handled: an exception that leaves the handler keeps the state it left, and a
handler that waits forever leaves none. -/
def step (env : Env ω) (limit : Nat) (s : State ω) (r : Request) : Option (State ω) :=
  (runs env (handle limit r) s).map Prod.snd

/-- The state after a run of requests, `none` if one of them is never done. -/
def run (env : Env ω) (limit : Nat) (s : State ω) (rs : List Request) : Option (State ω) :=
  rs.foldlM (step env limit) s

/-- A process that was just started. -/
def start (w : ω) : State ω := ⟨[], [], 0, [], w⟩

/-- A database without rows, where every statement succeeds. The identifiers count up. -/
def emptyDb : Env (BitVec 32) where
  exchange w taken _ _ :=
    if queryID w ∈ taken then none
    else some (w, .dict [("error", .int 0), ("data", .list [])], w + 1)
  fresh := by
    intro w w' taken q t n a h
    split at h
    · exact absurd h (by simp)
    · rename_i hfree
      obtain ⟨rfl, _⟩ : w = n ∧ _ := by simpa using h
      exact hfree

/-! ## The operations, one by one -/

section Operations

variable {env : Env ω} {s : State ω}

@[simp] theorem runs_deviceCache : runs env deviceCache s = some (.ok s.deviceID_cache, s) := rfl

/-- `s` with one more message published. -/
def State.publish (s : State ω) (msg : Message) : State ω :=
  { s with published := s.published ++ [msg] }

/-- **`answer` never raises, and publishes exactly one message**, unless it waits forever. -/
theorem runs_answer {ε : Type} (body : Prog Act Act.Res ε Message) (failure : ε → Message) :
    runs env (answer body failure) s = match runs env body s with
      | some (.ok msg, s') => some (.ok (), s'.publish msg)
      | some (.error e, s') => some (.ok (), s'.publish (failure e))
      | none => none := by
  rw [answer, runs, Prog.exec_tryExcept, Prog.exec_bind, runs]
  cases Prog.exec (perform env) body s with
  | none => rfl
  | some r =>
    obtain ⟨r, s'⟩ := r
    cases r <;> rfl

/-- A key of the cache, or a value that cannot be one. -/
theorem runs_isCached (v : Value) :
    runs env (isCached v) s = match v.key with
      | .ok k => some (.ok (s.deviceID_cache.has k), s)
      | .error e => some (.error e, s) := by
  rw [isCached, runs, Prog.exec_bind, Prog.exec_lift]
  cases v.key <;> rfl

theorem runs_cacheTrue_str (env : Env ω) (s : State ω) (d : String) :
    runs env (cacheTrue (.str d)) s =
      some (.ok (), { s with deviceID_cache := s.deviceID_cache.set (.str d) (.bool true) }) := rfl

theorem runs_cacheDel (env : Env ω) (s : State ω) (d : String) :
    runs env (cacheDel d) s =
      some (if s.deviceID_cache.has (.str d) then .ok () else .error .keyError,
        { s with deviceID_cache := s.deviceID_cache.erase (.str d) }) := by
  have hstart : runs env (cacheDel d) s =
      runs env
        (if s.deviceID_cache.has (.str d) then pure () else Prog.raise .keyError : Handler Unit)
        { s with deviceID_cache := s.deviceID_cache.erase (.str d) } := rfl
  rw [hstart]
  cases s.deviceID_cache.has (.str d) <;> rfl

/-- An answer that the handler waited for is read as it is. -/
theorem runs_dbReply {id : String} {a : Value} (h : s.dbQuery_cache.get id = some a) :
    runs env (dbReply id) s = some (.ok a, s) := by
  have hread : runs env (act (.reply id) : Handler (Option Value)) s =
      some (Except.ok (some a), s) := by
    rw [← h]
    rfl
  exact (Prog.exec_bind_ok hread).trans rfl

theorem runs_dbDrop {id : String} (h : s.dbQuery_cache.has id = true) :
    runs env (dbDrop id) s =
      some (.ok (), { s with dbQuery_cache := s.dbQuery_cache.erase id }) := by
  have hstart : runs env (dbDrop id) s =
      runs env (if s.dbQuery_cache.has id then pure () else Prog.raise .keyError : Handler Unit)
        { s with dbQuery_cache := s.dbQuery_cache.erase id } := rfl
  rw [hstart, h]
  rfl

/-- `s` after a query with the bits `n` was answered with `a`. -/
def State.told (s : State ω) (n : BitVec 32) (a : Value) (w : ω) : State ω :=
  { s with dbQuery_cache := s.dbQuery_cache.set (queryID n) a, world := w }

/-- **A query that comes back** was answered, and not with the text `None`. -/
theorem perform_send_eq_some {env : Env ω} {q : DbQuery} {t : DbTopic} {s s' : State ω}
    {id : String} : perform env (.send q t) s = some (id, s') ↔ ∃ n a w,
      env.exchange s.world s.dbQuery_cache.keys q t = some (n, a, w) ∧
        a.isStr "None" = false ∧ id = queryID n ∧ s' = s.told n a w := by
  rw [perform]
  cases hexchange : env.exchange s.world s.dbQuery_cache.keys q t with
  | none => simp
  | some answer =>
    obtain ⟨n, a, w⟩ := answer
    cases hnone : a.isStr "None" with
    | true =>
      refine iff_of_false (by simp [hnone]) ?_
      intro hsome
      obtain ⟨_, _, _, heq, hother, _⟩ := hsome
      obtain ⟨_, rfl, _⟩ : n = _ ∧ a = _ ∧ w = _ := by simpa using heq
      exact absurd (hnone.symm.trans hother) (by simp)
    | false =>
      simp only [hnone, Bool.false_eq_true, if_false]
      refine ⟨?_, ?_⟩
      · intro h
        obtain ⟨rfl, rfl⟩ := Prod.mk.inj (Option.some.inj h)
        exact ⟨n, a, w, rfl, hnone, rfl, rfl⟩
      · intro hsome
        obtain ⟨_, _, _, heq, _, rfl, rfl⟩ := hsome
        obtain ⟨rfl, rfl, rfl⟩ : n = _ ∧ a = _ ∧ w = _ := by simpa using heq
        rfl

/-- A query, and its answer read. -/
theorem runs_ask (env : Env ω) (q : DbQuery) (t : DbTopic) (s : State ω) :
    runs env (ask q t) s = match env.exchange s.world s.dbQuery_cache.keys q t with
      | some (n, a, w) =>
        if a.isStr "None" then none else some (.ok (queryID n, a), s.told n a w)
      | none => none := by
  rw [ask, runs, Prog.exec_bind]
  simp only [send_DBquery, act, Prog.exec_perform, perform]
  rcases env.exchange s.world s.dbQuery_cache.keys q t with _ | ⟨n, a, w⟩
  · rfl
  · cases hready : a.isStr "None" with
    | true => simp [hready]
    | false =>
      have hreply : runs env (dbReply (queryID n)) (s.told n a w) = some (.ok a, s.told n a w) :=
        runs_dbReply (Dict.get_set_self _ _ _)
      simp only [hready, Bool.false_eq_true, if_false, Option.map_some]
      exact Prog.exec_bind_ok hreply

/-- Dropping the entry of an answer leaves the entries from before the query. -/
theorem runs_dbDrop_told {q : DbQuery} {t : DbTopic} {n : BitVec 32} {a' : Value} {w' : ω}
    (hexchange : env.exchange s.world s.dbQuery_cache.keys q t = some (n, a', w')) (a : Value)
    (w : ω) :
    runs env (dbDrop (queryID n)) (s.told n a w) = some (.ok (), { s with world := w }) := by
  -- the identifier was new, so dropping its entry restores the others
  have hback : (s.told n a w).dbQuery_cache.erase (queryID n) = s.dbQuery_cache :=
    Dict.erase_set_new (env.fresh hexchange) a
  rw [runs_dbDrop (by simp [State.told]), hback]
  rfl

/-- A selection leaves no entry behind, unless its answer cannot be read. -/
theorem runs_askData (env : Env ω) (q : DbQuery) (s : State ω) :
    runs env (askData q) s = match env.exchange s.world s.dbQuery_cache.keys q .select with
      | some (n, a, w) =>
        if a.isStr "None" then none
        else match a.get "data" with
          | .ok exist => some (.ok exist, { s with world := w })
          | .error e => some (.error e, s.told n a w)
      | none => none := by
  rw [askData, runs, Prog.exec_bind]
  have hask := runs_ask env q .select s
  rw [runs] at hask
  rw [hask]
  rcases hexchange : env.exchange s.world s.dbQuery_cache.keys q .select with _ | ⟨n, a, w⟩
  · rfl
  · cases hready : a.isStr "None" with
    | true => simp only [hready, if_true]
    | false =>
      simp only [hready, Bool.false_eq_true, if_false, Prog.exec_bind, Prog.exec_lift]
      cases a.get "data" with
      | error e => rfl
      | ok exist =>
        have hdrop := runs_dbDrop_told hexchange a w
        rw [runs] at hdrop
        simp only [hdrop]
        rfl

/-- An insertion whose answer stays. -/
theorem runs_askInsert (env : Env ω) (q : DbQuery) (msg : String) (s : State ω) :
    runs env (askInsert q msg) s = match env.exchange s.world s.dbQuery_cache.keys q .insert with
      | some (n, a, w) =>
        if a.isStr "None" then none else some (checkError a msg, s.told n a w)
      | none => none := by
  have hask := runs_ask env q .insert s
  rw [runs] at hask
  rw [askInsert, runs, Prog.exec_bind, hask]
  rcases env.exchange s.world s.dbQuery_cache.keys q .insert with _ | ⟨n, a, w⟩
  · rfl
  · cases hready : a.isStr "None" with
    | true => simp only [hready, if_true]
    | false => simp only [hready, Bool.false_eq_true, if_false, Prog.exec_lift]

/-- A statement leaves no entry behind, unless it was refused. -/
theorem runs_askError (env : Env ω) (q : DbQuery) (t : DbTopic) (msg : String) (s : State ω) :
    runs env (askError q t msg) s = match env.exchange s.world s.dbQuery_cache.keys q t with
      | some (n, a, w) =>
        if a.isStr "None" then none
        else match checkError a msg with
          | .ok _ => some (.ok (), { s with world := w })
          | .error e => some (.error e, s.told n a w)
      | none => none := by
  have hask := runs_ask env q t s
  rw [runs] at hask
  rw [askError, runs, Prog.exec_bind, hask]
  rcases hexchange : env.exchange s.world s.dbQuery_cache.keys q t with _ | ⟨n, a, w⟩
  · rfl
  · cases hready : a.isStr "None" with
    | true => simp only [hready, if_true]
    | false =>
      simp only [hready, Bool.false_eq_true, if_false, Prog.exec_bind, Prog.exec_lift]
      cases checkError a msg with
      | error e => rfl
      | ok _ => exact runs_dbDrop_told hexchange a w

end Operations

end Versatile.FlexIDMnger
