import Versatile.FlexIDMnger.RemoteDb

/-!
# One request, taken twice

Two processes of `flexIDMnger.py` take one request on one database, with different caches of
its devices. They take it alike when they publish the same, up to the identifiers of their
queries, and leave the same database. A selection leaves it as it is, so the part of a handler
that only selects (`Act.Selects`) decides about the messages alone.
-/

namespace Versatile.FlexIDMnger

open Py

/-! ## The same outcome -/

/-- Equal, or both the identifier of a query. -/
def SameID (v w : Value) : Prop := v = w ∨ ∃ m n, v = .str (queryID m) ∧ w = .str (queryID n)

/-- Equal up to the identifiers of queries among the fields. -/
def SamePayload : Value → Value → Prop
  | .dict kvs, .dict kvs' => List.Forall₂ (fun e e' => e.1 = e'.1 ∧ SameID e.2 e'.2) kvs kvs'
  | v, w => v = w

/-- The same message, up to the identifiers of queries. -/
structure SameAck (a b : Message) : Prop where
  topic : a.topic = b.topic
  payload : SamePayload a.payload b.payload

variable {ω ω' δ : Type} {env : Env ω} {env' : Env ω'} {rdb : RemoteDb δ} {view : ω → δ}
  {view' : ω' → δ}

/-- Two requests taken alike: the same messages, and the same database after them. -/
structure SameOutcome (view : ω → δ) (view' : ω' → δ) (s s1 : State ω) (t t1 : State ω') :
    Prop where
  acks : ∃ l l', s1.published = s.published ++ l ∧ t1.published = t.published ++ l' ∧
    List.Forall₂ SameAck l l'
  db : view s1.world = view' t1.world

theorem SameAck.refl (a : Message) : SameAck a a := by
  refine ⟨rfl, ?_⟩
  cases a.payload with
  | dict kvs => exact List.forall₂_same.mpr fun e _ => ⟨rfl, Or.inl rfl⟩
  | _ => rfl

/-- Requests that published one message each are taken alike when the messages are. -/
theorem SameOutcome.sameAck {s s1 : State ω} {t t1 : State ω'} {a b : Message}
    (h : SameOutcome view view' s s1 t t1) (hs : s1.published = s.published ++ [a])
    (ht : t1.published = t.published ++ [b]) : SameAck a b := by
  obtain ⟨⟨l, l', hl, hl', hacks⟩, _⟩ := h
  obtain rfl := List.append_cancel_left (hs.symm.trans hl)
  obtain rfl := List.append_cancel_left (ht.symm.trans hl')
  exact (List.forall₂_cons.mp hacks).1

/-- What two handlers publish, compared by the messages they end with. -/
theorem sameOutcome_publish {s s1 : State ω} {t t1 : State ω'} {a b : Message}
    (hs : s1.published = s.published) (ht : t1.published = t.published) :
    SameOutcome view view' s (s1.publish a) t (t1.publish b) ↔
      SameAck a b ∧ view s1.world = view' t1.world := by
  refine ⟨?_, ?_⟩
  · intro h
    exact ⟨h.sameAck (by rw [publish_published, hs]) (by rw [publish_published, ht]), h.db⟩
  · intro hboth
    obtain ⟨hack, hdb⟩ := hboth
    refine ⟨⟨[a], [b], ?_, ?_, .cons hack .nil⟩, hdb⟩
    · rw [publish_published, hs]
    · rw [publish_published, ht]

theorem SameID.symm {v w : Value} (h : SameID v w) : SameID w v := by
  rcases h with rfl | ⟨m, n, rfl, rfl⟩
  · exact Or.inl rfl
  · exact Or.inr ⟨n, m, rfl, rfl⟩

theorem SameAck.symm {a b : Message} (h : SameAck a b) : SameAck b a := by
  obtain ⟨atopic, apayload⟩ := a
  obtain ⟨btopic, bpayload⟩ := b
  refine ⟨h.topic.symm, ?_⟩
  have hpayload := h.payload
  cases apayload <;> cases bpayload <;> try exact hpayload.symm
  exact hpayload.flip.imp fun _ _ h => ⟨h.1.symm, h.2.symm⟩

/-- A success is told from a failure. -/
theorem not_sameAck {topic topic' : String} {rest rest' : List (String × Value)} {k : String} :
    ¬ SameAck ⟨topic, .dict (("error:", .int 0) :: rest)⟩
      ⟨topic', .dict ((k, .int 1) :: rest')⟩ := by
  intro h
  obtain ⟨_, h⟩ := h
  rcases (List.forall₂_cons.mp h).1.2 with heq | ⟨m, n, heq, _⟩
  · exact absurd heq (by simp)
  · exact absurd heq (by simp)

/-! ## Selections leave the database alone -/

/-- The operations that change nothing in the database. -/
def Act.Selects : Act → Prop
  | send _ t => t = .select
  | _ => True

/-- What no selection changes, no program of such operations changes. -/
theorem selects_keep {γ : Type} {f : ω → γ} (hkeep : ∀ {w w' taken q n a},
    env.exchange w taken q .select = some (n, a, w') → f w' = f w) {ε α : Type}
    {p : Prog Act Act.Res ε α} (hp : Prog.Only Act.Selects p) {s s' : State ω} {r : Except ε α}
    (h : runs env p s = some (r, s')) : f s'.world = f s.world := by
  have hkeeps : Prog.Keeps (perform env) (fun s s' => f s'.world = f s.world) p := by
    refine hp.keeps (R := fun s s' : State ω => f s'.world = f s.world) (fun _ => rfl)
      (fun h1 h2 => h2.trans h1) ?_
    intro o s b s' ho h
    cases o with
    | send q t =>
      obtain rfl : t = .select := ho
      obtain ⟨n, a, w, hexchange, _, _, rfl⟩ := perform_send_eq_some.mp h
      exact hkeep hexchange
    | _ =>
      obtain ⟨_, rfl⟩ := Prod.mk.inj (Option.some.inj h)
      rfl
  exact hkeeps s r s' h

theorem selects_view (hdb : Backed env rdb view) {ε α : Type} {p : Prog Act Act.Res ε α}
    (hp : Prog.Only Act.Selects p) {s s' : State ω} {r : Except ε α}
    (h : runs env p s = some (r, s')) : view s'.world = view s.world :=
  selects_keep (fun hexchange => (hdb.moves hexchange).trans (rdb.select_keeps _ _)) hp h

theorem dbReply_selects (id : String) : Prog.Only Act.Selects (dbReply id) := by
  refine Prog.only_bind (Prog.only_perform trivial) fun payload => ?_
  cases payload <;> trivial

theorem dbDrop_selects (id : String) : Prog.Only Act.Selects (dbDrop id) := by
  refine Prog.only_bind (Prog.only_perform trivial) fun present => ?_
  cases present <;> trivial

theorem askData_selects (q : DbQuery) : Prog.Only Act.Selects (askData q) := by
  refine Prog.only_bind (Prog.only_bind (Prog.only_perform rfl) fun id => ?_) fun _ =>
    Prog.only_bind (Prog.only_lift _) fun _ => Prog.only_bind (dbDrop_selects _) fun _ => trivial
  exact Prog.only_bind (dbReply_selects id) fun _ => trivial

theorem join_genID_selects (base : String) :
    ∀ limit flag : Nat, Prog.Only Act.Selects (join_genID limit base flag)
  | 0, _ => Prog.only_bind (Prog.only_perform trivial) fun _ =>
      Prog.only_bind (Prog.only_perform trivial) fun _ => breakOff_only trivial
  | limit + 1, flag => by
      refine Prog.only_bind (Prog.only_perform trivial) fun cache => ?_
      refine Prog.only_bind (Prog.only_perform trivial) fun _ => ?_
      refine Prog.only_bind (askData_selects _) fun exist => ?_
      refine Prog.only_bind (Prog.only_bind (Prog.only_lift _) fun _ =>
        Prog.only_perform trivial) fun _ => ?_
      split
      · trivial
      · exact join_genID_selects base limit _

end Versatile.FlexIDMnger
