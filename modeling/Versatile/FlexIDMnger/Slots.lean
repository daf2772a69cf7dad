import Versatile.FlexIDMnger.Matching
import Versatile.FlexIDMnger.RemoteDb

/-!
# Do the handlers of `flexIDMnger.py` give their query slots back?

Every query takes a slot of `dbQuery_cache`, where its answer is put. A slot is given back by
the `del` after the answer was read: `join` has none for its insertions, everywhere else an
answer that raises when it is read skips it, and so does the `RecursionError` that breaks a query
off once its slot is taken. No other operation touches the slots, so the slots after a handler
are those before it exactly when none of its queries left one behind.
-/

namespace Versatile.FlexIDMnger

open Py

variable {ω ε ε' α β : Type} {env : Env ω} {op : Op}

/-! ## The answers of a run -/

/-- The statement of a query and the answer it got, `none` where the query was broken off. -/
def Act.answered : (o : Act) → o.Res → State ω → List (DbTopic × Option Value)
  | .send _ t, id, s => [(t, some ((s.dbQuery_cache.get id).getD .none))]
  -- the searches for an identifier ask nothing else
  | .strand, _, _ => [(.select, none)]
  | _, _, _ => []

/-- The answers a program gets from the database, in their order. -/
abbrev answers (env : Env ω) (p : Prog Act Act.Res ε α) (s : State ω) :
    List (DbTopic × Option Value) :=
  Prog.trace (perform env) Act.answered p s

/-- The answer of a statement gives its slot back: a selection can be read if its answer is an
object, and any other statement, outside of `join`, if the object reports no error. -/
def Settles (op : Op) (e : DbTopic × Option Value) : Prop :=
  match e with
  | (_, none) => False
  | (.select, some a) => a.IsDict
  | (_, some a) => op ≠ .join ∧ ∃ kvs, a = .dict kvs ∧ (field kvs "error").isZero = true

theorem data_isDict {a : Value} : a.IsDict ↔ ∃ exist, a.get "data" = .ok exist :=
  (Value.get_isOk_iff a "data").symm

/-- The check of an answer passes on an object that reports no error. -/
theorem checkError_ok_iff (a : Value) (msg : String) :
    checkError a msg = .ok () ↔ ∃ kvs, a = .dict kvs ∧ (field kvs "error").isZero = true := by
  refine ⟨?_, ?_⟩
  · intro h
    obtain ⟨error, hget, h⟩ := Except.bind_eq_ok.mp h
    obtain ⟨kvs, rfl⟩ := (Value.get_isOk_iff a "error").mp ⟨error, hget⟩
    obtain rfl : field kvs "error" = error := Except.ok.inj hget
    refine ⟨kvs, rfl, ?_⟩
    by_contra hne
    rw [if_pos hne] at h
    cases h
  · intro h
    obtain ⟨kvs, rfl, hzero⟩ := h
    rw [checkError, get_field]
    exact if_neg (not_not.mpr hzero)

/-! ## Parts that leave no slot behind -/

/-- Every slot that is taken before is taken after. -/
structure KeptSlots (s s' : State ω) : Prop where
  known : Grown s s'
  stranded : s.stranded ≤ s'.stranded

theorem KeptSlots.refl (s : State ω) : KeptSlots s s := ⟨fun _ hid => hid, Nat.le_refl _⟩

theorem KeptSlots.trans {a b c : State ω} (h1 : KeptSlots a b) (h2 : KeptSlots b c) :
    KeptSlots a c :=
  ⟨fun id hid => h2.known id (h1.known id hid), Nat.le_trans h1.stranded h2.stranded⟩

/-- A part takes no slot away, and leaves none behind exactly when its answers all settle. -/
def Tidy (env : Env ω) (op : Op) (p : Prog Act Act.Res ε α) : Prop :=
  ∀ s r s', runs env p s = some (r, s') →
    KeptSlots s s' ∧ (KeptSlots s' s ↔ ∀ e ∈ answers env p s, Settles op e)

/-- The same entries of `dbQuery_cache`, and as many that were left behind. -/
def SlotsEq (s s' : State ω) : Prop :=
  s'.dbQuery_cache = s.dbQuery_cache ∧ s'.stranded = s.stranded

theorem SlotsEq.kept {s s' : State ω} (h : SlotsEq s s') : KeptSlots s s' :=
  ⟨fun _ hid => by rw [h.1]; exact hid, Nat.le_of_eq h.2.symm⟩

theorem SlotsEq.symm {s s' : State ω} (h : SlotsEq s s') : SlotsEq s' s := ⟨h.1.symm, h.2.symm⟩

theorem SlotsEq.trans {a b c : State ω} (h1 : SlotsEq a b) (h2 : SlotsEq b c) : SlotsEq a c :=
  ⟨h2.1.trans h1.1, h2.2.trans h1.2⟩

/-- A slot that is new is one left behind. -/
theorem not_kept_told {s : State ω} {q : DbQuery} {t : DbTopic} {n : BitVec 32} {a : Value}
    {w : ω} (h : env.exchange s.world s.dbQuery_cache.keys q t = some (n, a, w)) :
    ¬ KeptSlots (s.told n a w) s := fun hback =>
  env.fresh h (Dict.mem_keys.mpr (hback.known _ (by simp [State.told])))

theorem kept_told (s : State ω) (n : BitVec 32) (a : Value) (w : ω) :
    KeptSlots s (s.told n a w) :=
  ⟨fun _ hid => by simp [State.told, hid], Nat.le_refl s.stranded⟩

/-- The operations that neither take a slot nor give one back. -/
def Act.KeepsSlots : Act → Prop
  | send _ _ => False
  | strand => False
  | drop _ => False
  | _ => True

theorem tidy_of_keepsSlots {p : Prog Act Act.Res ε α} (hp : Prog.Only Act.KeepsSlots p) :
    Tidy env op p := by
  have hkeeps : Prog.Keeps (perform env) SlotsEq p := by
    refine hp.keeps (R := SlotsEq) (fun _ => ⟨rfl, rfl⟩) SlotsEq.trans ?_
    intro o s b s' ho h
    cases o with
    | send q t => exact ho.elim
    | strand => exact ho.elim
    | drop id => exact ho.elim
    | _ =>
      obtain ⟨_, rfl⟩ := Prod.mk.inj (Option.some.inj h)
      exact ⟨rfl, rfl⟩
  intro s r s' h
  have hsame := hkeeps s r s' h
  have hnone : answers env p s = [] := by
    refine hp.trace_eq_nil (fun o b s ho => ?_) s
    cases o <;> first | rfl | exact ho.elim
  rw [hnone]
  exact ⟨hsame.kept, fun _ => by simp, fun _ => hsame.symm.kept⟩

theorem tidy_pure (a : α) : Tidy env op (pure a : Prog Act Act.Res ε α) :=
  tidy_of_keepsSlots trivial

theorem tidy_raise (e : ε) : Tidy env op (Prog.raise e : Prog Act Act.Res ε α) :=
  tidy_of_keepsSlots trivial

theorem tidy_lift (x : Except ε α) : Tidy env op (liftM x : Prog Act Act.Res ε α) :=
  tidy_of_keepsSlots (Prog.only_lift x)

/-- Slots that were left behind by one of two parts stay. -/
theorem kept_back_iff {a b c : State ω} (h1 : KeptSlots a b) (h2 : KeptSlots b c) :
    KeptSlots c a ↔ KeptSlots b a ∧ KeptSlots c b :=
  ⟨fun h => ⟨h2.trans h, h.trans h1⟩, fun h => h.2.trans h.1⟩

/-- The rule of sequencing. -/
theorem tidy_bind {p : Prog Act Act.Res ε α} {f : α → Prog Act Act.Res ε β}
    (hp : Tidy env op p) (hf : ∀ a, Tidy env op (f a)) : Tidy env op (p >>= f) := by
  intro s r s'' h
  rw [runs, Prog.exec_bind] at h
  rw [answers, Prog.trace_bind]
  rcases hexec : Prog.exec (perform env) p s with _ | ⟨e | a, s'⟩
  · rw [hexec] at h; exact absurd h (by simp)
  · rw [hexec] at h
    obtain ⟨rfl, rfl⟩ := Prod.mk.inj (Option.some.inj h)
    simp only [List.append_nil]
    exact hp s _ _ hexec
  · rw [hexec] at h
    obtain ⟨hkept1, hiff1⟩ := hp s _ _ hexec
    obtain ⟨hkept2, hiff2⟩ := hf a s' r s'' h
    refine ⟨hkept1.trans hkept2, ?_⟩
    simp only [List.forall_mem_append]
    rw [kept_back_iff hkept1 hkept2, hiff1, hiff2]

/-- The rule of `try`. -/
theorem tidy_tryExcept {p : Prog Act Act.Res ε α} {handler : ε → Prog Act Act.Res ε' α}
    (hp : Tidy env op p) (hh : ∀ e, Tidy env op (handler e)) :
    Tidy env op (Prog.tryExcept p handler) := by
  intro s r s'' h
  rw [runs, Prog.exec_tryExcept] at h
  rw [answers, Prog.trace_tryExcept]
  rcases hexec : Prog.exec (perform env) p s with _ | ⟨e | a, s'⟩
  · rw [hexec] at h; exact absurd h (by simp)
  · rw [hexec] at h
    obtain ⟨hkept1, hiff1⟩ := hp s _ _ hexec
    obtain ⟨hkept2, hiff2⟩ := hh e s' r s'' h
    refine ⟨hkept1.trans hkept2, ?_⟩
    simp only [List.forall_mem_append]
    rw [kept_back_iff hkept1 hkept2, hiff1, hiff2]
  · rw [hexec] at h
    obtain ⟨rfl, rfl⟩ := Prod.mk.inj (Option.some.inj h)
    simp only [List.append_nil]
    exact hp s _ _ hexec

/-! ## Questions to the database -/

/-- The operations that get no answer from the database. -/
def Act.Unanswered : Act → Prop
  | send _ _ => False
  | strand => False
  | _ => True

theorem answers_unanswered {p : Prog Act Act.Res ε α} (hp : Prog.Only Act.Unanswered p)
    (s : State ω) : answers env p s = [] := by
  refine hp.trace_eq_nil (fun o b s ho => ?_) s
  cases o <;> first | rfl | exact ho.elim

/-- What follows the last question adds no answer. -/
theorem answers_bind {p : Prog Act Act.Res ε α} {f : α → Prog Act Act.Res ε β}
    (hf : ∀ a, Prog.Only Act.Unanswered (f a)) (s : State ω) :
    answers env (p >>= f) s = answers env p s := by
  rw [answers, Prog.trace_bind]
  rcases Prog.exec (perform env) p s with _ | ⟨e | a, s'⟩
  · exact List.append_nil _
  · exact List.append_nil _
  · have hrest : answers env (f a) s' = [] := answers_unanswered (hf a) s'
    simp only [hrest, List.append_nil]

theorem dbReply_unanswered (id : String) : Prog.Only Act.Unanswered (dbReply id) := by
  refine Prog.only_bind (Prog.only_perform trivial) fun payload => ?_
  cases payload <;> trivial

theorem dbDrop_unanswered (id : String) : Prog.Only Act.Unanswered (dbDrop id) := by
  refine Prog.only_bind (Prog.only_perform trivial) fun present => ?_
  cases present <;> trivial

/-- The answer to a query, when it arrives. -/
theorem answers_send (q : DbQuery) (t : DbTopic) (s : State ω) {n : BitVec 32} {a : Value} {w : ω}
    (h : env.exchange s.world s.dbQuery_cache.keys q t = some (n, a, w))
    (hready : a.isStr "None" = false) : answers env (send_DBquery q t) s = [(t, some a)] := by
  have hsend : perform env (.send q t) s = some (queryID n, s.told n a w) := by
    simp only [perform, h, hready, Bool.false_eq_true, if_false]
    rfl
  have hget : (s.told n a w).dbQuery_cache.get (queryID n) = some a := Dict.get_set_self _ _ _
  rw [send_DBquery, act, Prog.perform, answers, Prog.trace, hsend]
  simp only [Act.answered, hget, Option.getD_some]
  rfl

/-- The answer to a question, when nothing else is asked behind it. -/
theorem answers_ask {q : DbQuery} {t : DbTopic} {s : State ω} {n : BitVec 32} {a : Value} {w : ω}
    (h : env.exchange s.world s.dbQuery_cache.keys q t = some (n, a, w))
    (hready : a.isStr "None" = false) {f : String × Value → Handler β}
    (hf : ∀ r, Prog.Only Act.Unanswered (f r)) : answers env (ask q t >>= f) s = [(t, some a)] := by
  have hreply : ∀ id, Prog.Only Act.Unanswered (do
      let payload ← dbReply id
      return (id, payload) : Handler (String × Value)) :=
    fun id => Prog.only_bind (dbReply_unanswered id) fun _ => trivial
  calc answers env (ask q t >>= f) s = answers env (ask q t) s := answers_bind hf s
    _ = answers env (send_DBquery q t) s := answers_bind hreply s
    _ = [(t, some a)] := answers_send q t s h hready

/-- A part asks the database one question of a topic: it gets the answer, and the slot is given
back if the answer settles, and stays if not. -/
def AsksOnce (env : Env ω) (op : Op) (t : DbTopic) (p : Prog Act Act.Res ε α) : Prop :=
  ∀ s r s', runs env p s = some (r, s') → ∃ q n a w,
    env.exchange s.world s.dbQuery_cache.keys q t = some (n, a, w) ∧
      answers env p s = [(t, some a)] ∧
      ((Settles op (t, some a) ∧ SlotsEq s s') ∨
        (¬ Settles op (t, some a) ∧ SlotsEq (s.told n a w) s'))

theorem AsksOnce.tidy {t : DbTopic} {p : Prog Act Act.Res ε α} (hp : AsksOnce env op t p) :
    Tidy env op p := by
  intro s r s' h
  obtain ⟨q, n, a, w, hexchange, hanswers, hslots⟩ := hp s r s' h
  rw [hanswers, List.forall_mem_singleton]
  rcases hslots with ⟨hsettles, hsame⟩ | ⟨hleft, hsame⟩
  · exact ⟨hsame.kept, fun _ => hsettles, fun _ => hsame.symm.kept⟩
  · refine ⟨(kept_told s n a w).trans hsame.kept, fun hback => ?_, fun hsettles => ?_⟩
    · exact absurd (hsame.kept.trans hback) (not_kept_told hexchange)
    · exact absurd hsettles hleft

/-- A selection gives its slot back exactly when `data` can be read from the answer. -/
theorem asksOnce_select {p : Prog Act Act.Res ε α} {q : DbQuery} {value : BitVec 32 → Value → α}
    {failure : BitVec 32 → Exc → ε}
    (hruns : ∀ s, runs env p s = match env.exchange s.world s.dbQuery_cache.keys q .select with
      | some (n, a, w) =>
        if a.isStr "None" then none
        else match a.get "data" with
          | .ok exist => some (.ok (value n exist), { s with world := w })
          | .error e => some (.error (failure n e), s.told n a w)
      | none => none)
    (hanswers : ∀ s n a w, env.exchange s.world s.dbQuery_cache.keys q .select = some (n, a, w) →
      a.isStr "None" = false → answers env p s = [(.select, some a)]) :
    AsksOnce env op .select p := by
  intro s r s' h
  rw [hruns] at h
  rcases hexchange : env.exchange s.world s.dbQuery_cache.keys q .select with _ | ⟨n, a, w⟩
  · rw [hexchange] at h; exact absurd h (by simp)
  · cases hready : a.isStr "None" with
    | true => simp [hexchange, hready] at h
    | false =>
      simp only [hexchange, hready, Bool.false_eq_true, if_false] at h
      refine ⟨q, n, a, w, hexchange, hanswers s n a w hexchange hready, ?_⟩
      cases hget : a.get "data" with
      | ok exist =>
        rw [hget] at h
        obtain ⟨_, rfl⟩ := Prod.mk.inj (Option.some.inj h)
        exact Or.inl ⟨data_isDict.mpr ⟨exist, hget⟩, rfl, rfl⟩
      | error e =>
        rw [hget] at h
        obtain ⟨_, rfl⟩ := Prod.mk.inj (Option.some.inj h)
        refine Or.inr ⟨fun hdict => ?_, rfl, rfl⟩
        obtain ⟨exist, hok⟩ := data_isDict.mp hdict
        rw [hget] at hok
        exact absurd hok (by simp)

theorem askData_asksOnce (q : DbQuery) : AsksOnce env op .select (askData q) := by
  refine asksOnce_select (runs_askData env q) ?_
  intro s n a w hexchange hready
  exact answers_ask hexchange hready fun _ => Prog.only_bind (Prog.only_lift _) fun _ =>
    Prog.only_bind (dbDrop_unanswered _) fun _ => trivial

/-- A statement whose answer is checked and dropped, outside of `join`. -/
theorem askError_asksOnce (hop : op ≠ .join) (q : DbQuery) {t : DbTopic} (ht : t ≠ .select)
    (msg : String) : AsksOnce env op t (askError q t msg) := by
  intro s r s' h
  have hsettles : ∀ a, Settles op (t, some a) ↔ checkError a msg = .ok () := by
    intro a
    rw [checkError_ok_iff]
    cases t with
    | select => exact absurd rfl ht
    | _ => exact ⟨fun h => h.2, fun h => ⟨hop, h⟩⟩
  rw [runs_askError] at h
  rcases hexchange : env.exchange s.world s.dbQuery_cache.keys q t with _ | ⟨n, a, w⟩
  · rw [hexchange] at h; exact absurd h (by simp)
  · cases hready : a.isStr "None" with
    | true => simp [hexchange, hready] at h
    | false =>
      simp only [hexchange, hready, Bool.false_eq_true, if_false] at h
      refine ⟨q, n, a, w, hexchange, ?_, ?_⟩
      · exact answers_ask hexchange hready fun _ => Prog.only_bind (Prog.only_lift _) fun _ =>
          dbDrop_unanswered _
      · rw [hsettles]
        cases hcheck : checkError a msg with
        | ok _ =>
          rw [hcheck] at h
          obtain ⟨_, rfl⟩ := Prod.mk.inj (Option.some.inj h)
          exact Or.inl ⟨rfl, rfl, rfl⟩
        | error e =>
          rw [hcheck] at h
          obtain ⟨_, rfl⟩ := Prod.mk.inj (Option.some.inj h)
          exact Or.inr ⟨by simp, rfl, rfl⟩

/-- An insertion of `join`, whose slot is never given back. -/
theorem askInsert_asksOnce (q : DbQuery) (msg : String) :
    AsksOnce env .join .insert (askInsert q msg) := by
  intro s r s' h
  rw [runs_askInsert] at h
  rcases hexchange : env.exchange s.world s.dbQuery_cache.keys q .insert with _ | ⟨n, a, w⟩
  · rw [hexchange] at h; exact absurd h (by simp)
  · cases hready : a.isStr "None" with
    | true => simp [hexchange, hready] at h
    | false =>
      simp only [hexchange, hready, Bool.false_eq_true, if_false] at h
      obtain ⟨_, rfl⟩ := Prod.mk.inj (Option.some.inj h)
      exact ⟨q, n, a, w, hexchange, answers_ask hexchange hready fun _ => Prog.only_lift _,
        Or.inr ⟨fun hsettles => hsettles.1 rfl, rfl, rfl⟩⟩

/-- A query that is broken off leaves its slot behind. -/
theorem tidy_breakOff : Tidy env op (breakOff : Handler α) := by
  intro s r s' h
  have hruns : runs env (breakOff : Handler α) s =
      some (.error .recursionError, { s with stranded := s.stranded + 1 }) := rfl
  obtain ⟨_, rfl⟩ := Prod.mk.inj (Option.some.inj (hruns.symm.trans h))
  have hanswers : answers env (breakOff : Handler α) s = [(.select, none)] := rfl
  rw [hanswers, List.forall_mem_singleton]
  refine ⟨⟨fun _ hid => hid, Nat.le_succ _⟩, fun hback => ?_, fun hsettles => hsettles.elim⟩
  exact absurd hback.stranded (Nat.not_succ_le_self s.stranded)

/-! ## The handlers -/

theorem tidy_cacheSet (k : Key) (v : Value) : Tidy env op (cacheSet k v) :=
  tidy_of_keepsSlots (Prog.only_perform trivial)

theorem tidy_cacheTrue (v : Value) : Tidy env op (cacheTrue v) :=
  tidy_bind (tidy_lift _) fun _ => tidy_cacheSet _ _

theorem tidy_isCached (v : Value) : Tidy env op (isCached v) :=
  tidy_bind (tidy_lift _) fun _ => tidy_of_keepsSlots ⟨trivial, fun _ => trivial⟩

theorem tidy_cacheDel (d : String) : Tidy env op (cacheDel d) := by
  refine tidy_of_keepsSlots (Prog.only_bind (Prog.only_perform trivial) fun present => ?_)
  cases present <;> trivial

theorem tidy_askData (q : DbQuery) : Tidy env op (askData q) := (askData_asksOnce q).tidy

theorem tidy_join_genID (base : String) :
    ∀ limit flag : Nat, Tidy env op (join_genID limit base flag)
  | 0, _ => tidy_bind (tidy_of_keepsSlots (Prog.only_perform trivial)) fun _ =>
      tidy_bind (tidy_cacheSet _ _) fun _ => tidy_breakOff
  | limit + 1, flag => by
      refine tidy_bind (tidy_of_keepsSlots (Prog.only_perform trivial)) fun cache => ?_
      refine tidy_bind (tidy_cacheSet _ _) fun _ => tidy_bind (tidy_askData _) fun exist => ?_
      refine tidy_bind (tidy_cacheTrue _) fun _ => ?_
      split
      · exact tidy_pure _
      · exact tidy_join_genID base limit _

theorem tidy_register_genID (hash_val : String) :
    ∀ limit flag : Nat, Tidy env op (register_genID limit hash_val flag)
  | 0, _ => tidy_breakOff
  | limit + 1, flag => by
      refine tidy_bind (tidy_askData _) fun exist => ?_
      split
      · exact tidy_pure _
      · exact tidy_register_genID hash_val limit _

theorem tidy_registerItem (limit : Nat) (d : String) (attrList : List Value) (item : Value) :
    Tidy env op (registerItem limit d attrList item) := by
  refine tidy_bind (tidy_lift _) fun it => tidy_bind (tidy_lift _) fun flag => ?_
  refine tidy_bind (tidy_lift _) fun hash_val => tidy_bind ?_ fun id => ?_
  · unfold itemID
    split
    · exact tidy_register_genID _ _ _
    · exact tidy_pure _
  · exact tidy_bind (tidy_lift _) fun _ => tidy_pure _

theorem tidy_registerItems (limit : Nat) (d : String) :
    ∀ attrList items : List Value, Tidy env op (registerItems limit d attrList items)
  | _, [] => tidy_pure _
  | attrList, item :: items =>
      tidy_bind (tidy_registerItem limit d attrList item) fun r =>
        tidy_bind (tidy_registerItems limit d r.2.2 items) fun _ => tidy_pure _

theorem tidy_joinBody (limit : Nat) (tempID : String) (payload relay : Value) :
    Tidy env .join (joinBody limit tempID payload relay) := by
  refine tidy_bind (tidy_lift _) fun _ => tidy_bind (tidy_lift _) fun base => ?_
  refine tidy_bind (tidy_join_genID base limit 0) fun d => ?_
  refine tidy_bind (tidy_lift _) fun _ => tidy_bind (askInsert_asksOnce _ _).tidy fun _ => ?_
  refine tidy_bind (tidy_lift _) fun _ => tidy_bind (askInsert_asksOnce _ _).tidy fun _ => ?_
  exact tidy_pure _

theorem tidy_leaveBody (tempID : String) (relay : Value) :
    Tidy env .leave (leaveBody tempID relay) := by
  refine tidy_bind (tidy_lift _) fun _ => tidy_bind (tidy_lift _) fun d => ?_
  refine tidy_bind (askError_asksOnce (by decide) _ (by decide) _).tidy fun _ => ?_
  exact tidy_bind (tidy_cacheDel d) fun _ => tidy_pure _

theorem tidy_checkDevice (v : Value) : Tidy env op (checkDevice v) := by
  refine tidy_bind (tidy_isCached v) fun cached => ?_
  split
  · exact tidy_pure _
  · rw [send_deviceExists]
    refine tidy_bind (tidy_askData _) fun exist => ?_
    split
    · exact tidy_raise _
    · exact tidy_cacheTrue v

theorem tidy_speaker (tempID : String) (relay : Value) : Tidy env op (speaker tempID relay) :=
  tidy_bind (tidy_lift _) fun _ => tidy_bind (tidy_lift _) fun _ =>
    tidy_bind (tidy_checkDevice _) fun _ => tidy_pure _

theorem tidy_registerBody (limit : Nat) (tempID : String) (payload relay registerID : Value) :
    Tidy env .register (registerBody limit tempID payload relay registerID) := by
  refine tidy_bind (tidy_speaker _ _) fun d => tidy_bind (tidy_lift _) fun _ => ?_
  refine tidy_bind (tidy_lift _) fun items => tidy_bind (tidy_registerItems limit d [] items) ?_
  intro entries
  exact tidy_bind (askError_asksOnce (by decide) _ (by decide) _).tidy fun _ => tidy_pure _

theorem tidy_updateChange (payload providingID : Value) :
    Tidy env .update (updateChange payload providingID) := by
  refine tidy_bind (tidy_lift _) fun deregister => ?_
  split
  · exact (askError_asksOnce (by decide) _ (by decide) _).tidy
  · refine tidy_bind (tidy_lift _) fun _ => tidy_bind (tidy_lift _) fun _ => ?_
    exact (askError_asksOnce (by decide) _ (by decide) _).tidy

theorem tidy_updateBody (tempID : String) (payload relay updateID : Value) :
    Tidy env .update (updateBody tempID payload relay updateID) := by
  refine tidy_bind (tidy_speaker _ _) fun _ => tidy_bind (tidy_lift _) fun _ => ?_
  refine tidy_bind (tidy_askData _) fun exist => ?_
  split
  · exact tidy_raise _
  · exact tidy_bind (tidy_updateChange _ _) fun _ => tidy_pure _

/-! ### `query` -/

/-- A part of `query` that raises keeps the name it raises under, wherever it is cut. -/
theorem withID_bind (queryID : Value) (p : Handler α) (f : α → Handler β) :
    withID queryID (p >>= f) = withID queryID p >>= fun a => withID queryID (f a) := by
  induction p with
  | ret a => rfl
  | raise e => rfl
  | call o k ih => exact congrArg (Prog.call o) (funext ih)

theorem tidy_withID (queryID : Value) {part : Handler α} (h : Tidy env op part) :
    Tidy env op (withID queryID part) := tidy_tryExcept h fun _ => tidy_raise _

/-- The `data` of an answer, which is dropped: `askData` without its query. -/
def readData (id : String) : Handler Value := do
  let payload ← dbReply id
  let exist ← payload.get "data"
  dbDrop id
  return exist

theorem runs_send (env : Env ω) (q : DbQuery) (t : DbTopic) (s : State ω) :
    runs env (send_DBquery q t) s = match env.exchange s.world s.dbQuery_cache.keys q t with
      | some (n, a, w) => if a.isStr "None" then none else some (.ok (queryID n), s.told n a w)
      | none => none := by
  simp only [runs, send_DBquery, act, Prog.exec_perform, perform]
  rcases env.exchange s.world s.dbQuery_cache.keys q t with _ | ⟨n, a, w⟩
  · rfl
  · cases hready : a.isStr "None" with
    | true => simp [hready]
    | false => simp only [hready, Bool.false_eq_true, if_false, Option.map_some]; rfl

theorem runs_readData {q : DbQuery} {t : DbTopic} {s : State ω} {n : BitVec 32} {a : Value}
    {w : ω} (h : env.exchange s.world s.dbQuery_cache.keys q t = some (n, a, w)) :
    runs env (readData (queryID n)) (s.told n a w) = match a.get "data" with
      | .ok exist => some (.ok exist, { s with world := w })
      | .error e => some (.error e, s.told n a w) := by
  have hreply : runs env (dbReply (queryID n)) (s.told n a w) = some (.ok a, s.told n a w) :=
    runs_dbReply (Dict.get_set_self _ _ _)
  rw [readData, runs, Prog.exec_bind_ok hreply, Prog.exec_bind, Prog.exec_lift]
  cases a.get "data" with
  | error e => rfl
  | ok exist => exact Prog.exec_bind_ok (runs_dbDrop_told h a w)

/-- A selection of `query`: the exceptions before its answer is there carry one identifier, and
those after it the one it was sent under. -/
def selecting (q : DbQuery) (own : Value) : QueryPart (String × Value) := do
  let id ← withID own (send_DBquery q .select)
  let exist ← withID (.str id) (readData id)
  return (id, exist)

theorem answers_withID (queryID : Value) (part : Handler α) (s : State ω) :
    answers env (withID queryID part) s = answers env part s := by
  rw [answers, withID, Prog.trace_tryExcept]
  rcases Prog.exec (perform env) part s with _ | ⟨e | a, s'⟩ <;> exact List.append_nil _

theorem readData_unanswered (id : String) : Prog.Only Act.Unanswered (readData id) :=
  Prog.only_bind (dbReply_unanswered _) fun _ => Prog.only_bind (Prog.only_lift _) fun _ =>
    Prog.only_bind (dbDrop_unanswered _) fun _ => trivial

theorem runs_selecting (env : Env ω) (q : DbQuery) (own : Value) (s : State ω) :
    runs env (selecting q own) s =
      match env.exchange s.world s.dbQuery_cache.keys q .select with
      | some (n, a, w) =>
        if a.isStr "None" then none
        else match a.get "data" with
          | .ok exist => some (.ok (queryID n, exist), { s with world := w })
          | .error e => some (.error (e, .str (queryID n)), s.told n a w)
      | none => none := by
  have hsend := runs_send env q .select s
  rw [selecting, runs, Prog.exec_bind, withID, Prog.exec_tryExcept]
  rw [runs] at hsend
  rw [hsend]
  rcases hexchange : env.exchange s.world s.dbQuery_cache.keys q .select with _ | ⟨n, a, w⟩
  · rfl
  · cases hready : a.isStr "None" with
    | true => simp only [hready, if_true]
    | false =>
      simp only [hready, Bool.false_eq_true, if_false]
      have hread := runs_readData hexchange
      cases hget : a.get "data" with
      | ok exist =>
        rw [hget] at hread
        exact Prog.exec_bind_ok (runs_withID_ok hread)
      | error e =>
        rw [hget] at hread
        exact Prog.exec_bind_error (runs_withID_error hread)

theorem selecting_asksOnce (q : DbQuery) (own : Value) :
    AsksOnce env op .select (selecting q own) := by
  refine asksOnce_select (runs_selecting env q own) ?_
  intro s n a w hexchange hready
  have hread : ∀ id, Prog.Only Act.Unanswered (do
      let exist ← withID (.str id) (readData id)
      return (id, exist) : QueryPart (String × Value)) :=
    fun id => Prog.only_bind (withID_only _ (readData_unanswered id)) fun _ => trivial
  calc answers env (selecting q own) s
      = answers env (withID own (send_DBquery q .select)) s := answers_bind hread s
    _ = answers env (send_DBquery q .select) s := answers_withID _ _ s
    _ = [(.select, some a)] := answers_send q .select s hexchange hready

/-- A query and what is done with its answer, as one selection. -/
theorem send_withID (q : DbQuery) (own : Value) {rest : String → Handler α}
    {k : String → Value → Handler α} (hrest : ∀ id, rest id = readData id >>= k id)
    (f : String → α → QueryPart β) :
    (withID own (send_DBquery q .select) >>= fun id => withID (.str id) (rest id) >>= f id) =
      selecting q own >>= fun r => withID (.str r.1) (k r.1 r.2) >>= f r.1 := by
  simp only [selecting, Prog.bind_assoc, Prog.pure_bind, hrest, withID_bind]

theorem tidy_queryCheck (deviceID queryID : Value) :
    Tidy env op (queryCheck deviceID queryID) := by
  refine tidy_bind (tidy_withID _ (tidy_isCached _)) fun cached => ?_
  split
  · exact tidy_pure _
  · have hexists : ∀ id, deviceExists deviceID id = readData id >>= fun exist =>
        (if ¬ exist.truthy then Prog.raise (.raised "No Device Error")
          else cacheTrue deviceID : Handler Unit) := by
      intro id
      simp only [deviceExists, readData, Prog.bind_assoc, Prog.pure_bind]
    rw [send_withID _ _ hexists]
    refine tidy_bind (selecting_asksOnce _ _).tidy fun r => ?_
    refine tidy_bind (tidy_withID _ ?_) fun _ => tidy_pure _
    split
    · exact tidy_raise _
    · exact tidy_cacheTrue _

theorem tidy_queryRest (tempID : String) (payload relay deviceID queryID : Value) :
    Tidy env op (queryRest tempID payload relay deviceID queryID) := by
  refine tidy_bind (tidy_withID _ (tidy_lift _)) fun desc => ?_
  refine tidy_bind (tidy_withID _ (tidy_lift _)) fun qosRequirements => ?_
  refine tidy_bind (tidy_withID _ (tidy_lift _)) fun _ => ?_
  -- the selection ends with its `del`, which returns nothing
  have hdrop : ∀ id, (do
      let payload ← dbReply id
      let _ ← payload.get "data"
      dbDrop id : Handler Unit) = readData id >>= fun _ => pure () := by
    intro id
    simp only [readData, Prog.bind_assoc, Prog.pure_bind]
    have hunit : (dbDrop id >>= fun _ => pure ()) = dbDrop id := Prog.bind_pure (dbDrop id)
    rw [hunit]
  rw [send_withID _ _ hdrop]
  exact tidy_bind (selecting_asksOnce _ _).tidy fun r =>
    tidy_bind (tidy_withID _ (tidy_pure _)) fun _ => tidy_pure _

theorem tidy_queryBody (tempID : String) (payload relay queryID : Value) :
    Tidy env op (queryBody tempID payload relay queryID) :=
  tidy_bind (tidy_withID _ (tidy_lift _)) fun _ => tidy_bind (tidy_queryCheck _ _) fun _ =>
    tidy_queryRest _ _ _ _ _

/-! ## All of them -/

theorem tidy_answer {body : Prog Act Act.Res ε Message} (h : Tidy env op body)
    (failure : ε → Message) : Tidy env op (answer body failure) :=
  tidy_tryExcept (tidy_bind h fun _ => tidy_of_keepsSlots (Prog.only_perform trivial)) fun _ =>
    tidy_of_keepsSlots (Prog.only_perform trivial)

theorem tidy_handle (env : Env ω) (limit : Nat) (r : Request) :
    Tidy env r.op (handle limit r) := by
  obtain ⟨op, tempID, payload⟩ := r
  cases op with
  | join => exact tidy_bind (tidy_lift _) fun _ => tidy_answer (tidy_joinBody _ _ _ _) _
  | leave => exact tidy_bind (tidy_lift _) fun _ => tidy_answer (tidy_leaveBody _ _) _
  | register =>
    exact tidy_bind (tidy_lift _) fun _ => tidy_bind (tidy_lift _) fun _ =>
      tidy_answer (tidy_registerBody _ _ _ _ _) _
  | update =>
    exact tidy_bind (tidy_lift _) fun _ => tidy_bind (tidy_lift _) fun _ =>
      tidy_answer (tidy_updateBody _ _ _ _) _
  | query =>
    exact tidy_bind (tidy_lift _) fun _ => tidy_bind (tidy_lift _) fun _ =>
      tidy_answer (tidy_queryBody _ _ _ _) _

/-- The same slots are taken: the identifiers that are known, and as many that are not. -/
def SameSlots (s s' : State ω) : Prop :=
  (∀ id, s'.dbQuery_cache.has id = s.dbQuery_cache.has id) ∧ s'.stranded = s.stranded

/-- Where no slot is given back, the same slots are taken exactly when none is new. -/
theorem KeptSlots.same_iff {s s' : State ω} (h : KeptSlots s s') :
    SameSlots s s' ↔ KeptSlots s' s := by
  refine ⟨fun hsame => ?_, fun hback => ?_⟩
  · exact ⟨fun id hid => by rw [← hsame.1 id]; exact hid, Nat.le_of_eq hsame.2⟩
  · refine ⟨fun id => ?_, Nat.le_antisymm hback.stranded h.stranded⟩
    by_cases hid : s.dbQuery_cache.has id = true
    · rw [hid]; exact h.known id hid
    · have hnot : ¬ s'.dbQuery_cache.has id = true := fun hid' => hid (hback.known id hid')
      rw [Bool.not_eq_true] at hid hnot
      rw [hid]; exact hnot

/--
**When a handler gives its query slots back.**

For every handler, payload and state, and whatever the database answers: exactly when every
query it made got an answer that settles. An answer to an insertion of `join` never does, and a
query that the recursion limit broke off got none.
-/
theorem sameSlots_iff {limit : Nat} {s s' : State ω} {r : Request}
    (h : step env limit s r = some s') :
    SameSlots s s' ↔ ∀ e ∈ answers env (handle limit r) s, Settles r.op e := by
  rw [step] at h
  obtain ⟨⟨res, s1⟩, hrun, rfl⟩ := Option.map_eq_some_iff.mp h
  obtain ⟨hkept, hiff⟩ := tidy_handle env limit r s res s1 hrun
  exact hkept.same_iff.trans hiff

/-- The join of a first device. -/
theorem sameSlots_joinOfT :
    SameSlots (start 0) afterJoin ↔
      ∀ e ∈ answers emptyDb (handle 10 joinOfT) (start 0), Settles .join e :=
  sameSlots_iff (r := joinOfT) rfl

/-- **A join that keeps its slots**: the answers to its two insertions stay. -/
theorem not_sameSlots :
    ¬ ∀ (env : Env (BitVec 32)) (limit : Nat) (s s' : State (BitVec 32)) (r : Request),
      step env limit s r = some s' → SameSlots s s' := by
  intro h
  have hsame := h emptyDb 10 (start 0) afterJoin joinOfT rfl
  have hfirst : afterJoin.dbQuery_cache.has "0x00000001" = true := rfl
  have hnone : (start (0 : BitVec 32)).dbQuery_cache.has "0x00000001" = false := rfl
  rw [← hsame.1, hfirst] at hnone
  exact absurd hnone (by simp)

end Versatile.FlexIDMnger
