import Versatile.FlexIDMngerDb.Handlers
import Versatile.FlexIDMnger.Matching

/-!
# Which messages are answered

In both managers the dispatcher reads the level after the filter and decodes the payload, and
each handler reads its first fields, before any `try` block: there an exception leaves
`on_message`, and nothing is published. Inside the `try` block every way out publishes one
message. What is left is a handler of `flexIDMnger.py` that waits for the database.
-/

namespace Versatile

open Py

/-- A message is answered as its operation: on the topic of the requester it names. -/
def AnswersTo (op : Op) (topic : String) (msg : Message) : Prop :=
  ∃ id, requester topic = some id ∧ msg.topic = op.ackTopic ++ id

namespace FlexIDMngerDb

variable {srv : Server} {limit : Nat} {op : Op} {topic : String} {m : Manager}
  {loads : List UInt8 → Except Exc Value} {bytes : List UInt8}

/-- `on_message` raises nothing, and publishes one message, the answer. -/
def AnswersOnce (srv : Server) (limit : Nat) (loads : List UInt8 → Except Exc Value) (op : Op)
    (topic : String) (bytes : List UInt8) (m : Manager) : Prop :=
  ∃ m' msg, on_message srv limit loads topic bytes m = (.ok (), m') ∧
    m'.published = m.published ++ [msg] ∧ AnswersTo op topic msg

/-- The message a handler ends with is on the topic of its operation. -/
theorem bodyOf_topic (op : Op) (tempID : String) (kvs : List (String × Value)) :
    Proc.Yields (fun msg => msg.topic = op.ackTopic ++ tempID)
      (bodyOf srv limit op tempID kvs) := by
  cases op with
  | join =>
    refine Proc.yields_bind fun _ => Proc.yields_bind fun _ => Proc.yields_bind fun d => ?_
    refine Proc.yields_bind fun _ => Proc.yields_bind fun _ => Proc.yields_bind fun _ => ?_
    refine Proc.yields_bind fun _ => Proc.yields_bind fun _ => Proc.yields_bind fun _ => ?_
    exact Proc.yields_pure rfl
  | leave =>
    refine Proc.yields_bind fun _ => Proc.yields_bind fun _ => Proc.yields_bind fun _ => ?_
    exact Proc.yields_bind fun _ => Proc.yields_bind fun _ => Proc.yields_pure rfl
  | register =>
    refine Proc.yields_bind fun _ => Proc.yields_bind fun _ => Proc.yields_bind fun _ => ?_
    exact Proc.yields_pure rfl
  | update =>
    intro s msg s' h
    obtain ⟨e, s1, herr, _⟩ := updateBody_error srv tempID (.dict kvs) (field kvs "relay")
      (field kvs "updateID") s
    exact absurd (herr.symm.trans h) (by simp)
  | query =>
    refine Proc.yields_bind fun _ => Proc.yields_bind fun _ => Proc.yields_bind fun _ => ?_
    refine Proc.yields_bind fun _ => Proc.yields_bind fun _ => Proc.yields_bind fun _ => ?_
    refine Proc.yields_bind fun _ => Proc.yields_bind fun _ => Proc.yields_bind fun _ => ?_
    exact Proc.yields_bind fun _ => Proc.yields_pure rfl

theorem failureOf_topic (op : Op) (tempID : String) (kvs : List (String × Value)) :
    (failureOf op tempID kvs).topic = op.ackTopic ++ tempID := by cases op <;> rfl

theorem reply_topic (op : Op) (tempID : String) (kvs : List (String × Value)) (s : Store) :
    (reply (bodyOf srv limit op tempID kvs) (failureOf op tempID kvs) s).topic =
      op.ackTopic ++ tempID := by
  rw [reply]
  rcases hbody : bodyOf srv limit op tempID kvs s with ⟨r, s'⟩
  cases r with
  | ok msg => exact bodyOf_topic op tempID kvs s msg s' hbody
  | error e => exact failureOf_topic op tempID kvs

/-- **A subscribed message** is decoded, and then routed. -/
theorem on_message_apply (h : Subscribed op topic) (m : Manager) :
    on_message srv limit loads topic bytes m = match loads bytes, requester topic with
      | .ok payload, some id => handle srv limit ⟨op, id, payload⟩ m
      | .ok _, none => (.error .indexError, m)
      | .error e, _ => (.error e, m) := by
  rw [on_message, Proc.bind_apply, Proc.liftM_apply]
  cases loads bytes with
  | error e => rfl
  | ok payload =>
    simp only [Proc.bind_apply, Proc.liftM_apply, route_subscribed h]
    cases requester topic <;> rfl

/-- **When the manager with the local database answers**: the topic names a requester, and
the payload is an object. -/
theorem answersOnce_iff (h : Subscribed op topic) (m : Manager) :
    AnswersOnce srv limit loads op topic bytes m ↔
      ∃ id kvs, requester topic = some id ∧ loads bytes = .ok (.dict kvs) := by
  refine ⟨?_, ?_⟩
  · intro hsome
    obtain ⟨m', msg, hrun, _, id, hid, _⟩ := hsome
    rw [on_message_apply h] at hrun
    cases hpayload : loads bytes with
    | error e => rw [hpayload] at hrun; exact absurd (congrArg Prod.fst hrun) (by simp)
    | ok payload =>
      simp only [hpayload, hid] at hrun
      by_cases hdict : payload.IsDict
      · obtain ⟨kvs, rfl⟩ := hdict
        exact ⟨id, kvs, hid, rfl⟩
      · have hbad : handle srv limit ⟨op, id, payload⟩ m = _ := handle_not_dict hdict m
        exact absurd (congrArg Prod.fst (hbad.symm.trans hrun)) (by simp)
  · intro hsome
    obtain ⟨id, kvs, hid, hpayload⟩ := hsome
    have htopic := @reply_topic srv limit op id kvs m.store
    refine ⟨⟨(bodyOf srv limit op id kvs m.store).2, _⟩, _, ?_, rfl, id, hid, htopic⟩
    rw [on_message_apply h, hpayload, hid]
    exact (congrFun (handle_dict op id kvs) m).trans (answer_apply _ _ _)

end FlexIDMngerDb

namespace FlexIDMnger

variable {ω : Type} {env : Env ω} {limit : Nat} {op : Op} {topic : String} {s : State ω}
  {loads : List UInt8 → Except Exc Value} {bytes : List UInt8}

/-- `on_message` ends without an exception, and publishes one message, the answer. -/
def AnswersOnce (env : Env ω) (limit : Nat) (loads : List UInt8 → Except Exc Value) (op : Op)
    (topic : String) (bytes : List UInt8) (s : State ω) : Prop :=
  ∃ s' msg, runs env (on_message limit loads topic bytes) s = some (.ok (), s') ∧
    s'.published = s.published ++ [msg] ∧ AnswersTo op topic msg

theorem runs_on_message (h : Subscribed op topic) (s : State ω) :
    runs env (on_message limit loads topic bytes) s = match loads bytes, requester topic with
      | .ok payload, some id => runs env (handle limit ⟨op, id, payload⟩) s
      | .ok _, none => some (.error .indexError, s)
      | .error e, _ => some (.error e, s) := by
  rw [on_message, runs, Prog.exec_bind, Prog.exec_lift]
  cases loads bytes with
  | error e => rfl
  | ok payload =>
    simp only [Prog.exec_bind, Prog.exec_lift, route_subscribed h]
    cases requester topic <;> rfl

/-- A handler that comes back raises nothing. -/
theorem handle_ok {id : String} {kvs : List (String × Value)} {r : Except Exc Unit}
    {s' : State ω} (h : runs env (handle limit ⟨op, id, .dict kvs⟩) s = some (r, s')) :
    r = .ok () := by
  have hanswer : ∀ {ε : Type} (body : Prog Act Act.Res ε Message) (failure : ε → Message),
      runs env (answer body failure) s = some (r, s') → r = .ok () := by
    intro ε body failure hrun
    rw [runs_answer] at hrun
    split at hrun
    · exact (congrArg Prod.fst (Option.some.inj hrun)).symm
    · exact (congrArg Prod.fst (Option.some.inj hrun)).symm
    · exact absurd hrun (by simp)
  cases op with
  | join => exact hanswer _ _ h
  | leave => exact hanswer _ _ h
  | register => exact hanswer _ _ h
  | update => exact hanswer _ _ h
  | query => exact hanswer _ _ h

/-- A handler that comes back publishes one message, on the topic of its operation. -/
theorem handle_publishes {id : String} {kvs : List (String × Value)} {r : Except Exc Unit}
    {s' : State ω} (h : runs env (handle limit ⟨op, id, .dict kvs⟩) s = some (r, s')) :
    ∃ msg, s'.published = s.published ++ [msg] ∧ msg.topic = op.ackTopic ++ id := by
  have hstep : step env limit s ⟨op, id, .dict kvs⟩ = some s' := by rw [step, h]; rfl
  have hmatched : Matched env limit s op id kvs →
      ∃ msg, s'.published = s.published ++ [msg] ∧ msg.topic = op.ackTopic ++ id := by
    intro hm
    obtain ⟨msg, hpub, hmatch⟩ := hm s' hstep
    exact ⟨msg, hpub, hmatch.topic⟩
  cases op with
  | join => exact hmatched join_matched
  | leave => exact hmatched leave_matched
  | register => exact hmatched register_matched
  | update => exact hmatched update_matched
  | query =>
    obtain ⟨_, _, _, msg, _, hpub, _, _, htopic, _⟩ := query_ends hstep
    exact ⟨msg, hpub, htopic⟩

/-- **When the manager with the remote database answers**: the topic names a requester, the
payload is an object, and no query of the handler is left without an answer. -/
theorem answersOnce_iff (h : Subscribed op topic) (s : State ω) :
    AnswersOnce env limit loads op topic bytes s ↔
      ∃ id kvs, requester topic = some id ∧ loads bytes = .ok (.dict kvs) ∧
        Prog.Returns (perform env) (handle limit ⟨op, id, .dict kvs⟩) s := by
  refine ⟨?_, ?_⟩
  · intro hsome
    obtain ⟨s', msg, hrun, _, id, hid, _⟩ := hsome
    rw [runs_on_message h] at hrun
    cases hpayload : loads bytes with
    | error e => rw [hpayload] at hrun; exact absurd hrun (by simp)
    | ok payload =>
      simp only [hpayload, hid] at hrun
      by_cases hdict : payload.IsDict
      · obtain ⟨kvs, rfl⟩ := hdict
        exact ⟨id, kvs, hid, rfl, Prog.returns_iff.mpr ⟨_, _, hrun⟩⟩
      · -- the handler raises on its first access
        have hbad : runs env (handle limit ⟨op, id, payload⟩) s = _ := runs_handle_not_dict hdict s
        exact absurd (hbad.symm.trans hrun) (by simp)
  · intro hsome
    obtain ⟨id, kvs, hid, hpayload, hreturns⟩ := hsome
    obtain ⟨r, s', hrun⟩ := Prog.returns_iff.mp hreturns
    obtain rfl := handle_ok hrun
    obtain ⟨msg, hpub, htopic⟩ := handle_publishes hrun
    refine ⟨s', msg, ?_, hpub, id, hid, htopic⟩
    rw [runs_on_message h, hpayload, hid]
    exact hrun

end FlexIDMnger

/--
**When a message is answered exactly once**, in either manager: when its topic goes on below
the filter, and its payload is an object. The manager with the remote database also needs
every query it sends to be answered.
-/
theorem answered_once_iff {ω : Type} {op : Op} {topic : String} (h : Subscribed op topic)
    (limit : Nat) (loads : List UInt8 → Except Exc Value) (bytes : List UInt8) (srv : Server)
    (m : FlexIDMngerDb.Manager) (env : FlexIDMnger.Env ω) (s : FlexIDMnger.State ω) :
    (FlexIDMngerDb.AnswersOnce srv limit loads op topic bytes m ↔
        ∃ id kvs, requester topic = some id ∧ loads bytes = .ok (.dict kvs)) ∧
      (FlexIDMnger.AnswersOnce env limit loads op topic bytes s ↔
        ∃ id kvs, requester topic = some id ∧ loads bytes = .ok (.dict kvs) ∧
          Prog.Returns (FlexIDMnger.perform env)
            (FlexIDMnger.handle limit ⟨op, id, .dict kvs⟩) s) :=
  ⟨FlexIDMngerDb.answersOnce_iff h m, FlexIDMnger.answersOnce_iff h s⟩

/-- What a leave decodes to. -/
def loadsLeave (_ : List UInt8) : Except Exc Value := .ok (.dict [("relay", .str "none")])

/-- A leave of `t` is answered by both managers. -/
theorem answered_once_leave :
    FlexIDMngerDb.AnswersOnce Server.exact 10 loadsLeave .leave "/configuration/leave/t" []
        (FlexIDMngerDb.start [] 0) ∧
      FlexIDMnger.AnswersOnce FlexIDMnger.emptyDb 10 loadsLeave .leave "/configuration/leave/t" []
        (FlexIDMnger.start 0) := by
  have hsub : Subscribed .leave "/configuration/leave/t" := ⟨["t"], rfl⟩
  have hiff := answered_once_iff hsub 10 loadsLeave [] Server.exact (FlexIDMngerDb.start [] 0)
    FlexIDMnger.emptyDb (FlexIDMnger.start 0)
  exact ⟨hiff.1.mpr ⟨"t", _, rfl, rfl⟩, hiff.2.mpr ⟨"t", _, rfl, rfl, trivial⟩⟩

/-- A leave on the parent level of its filter is answered by neither. -/
theorem not_answered_once :
    Subscribed .leave "/configuration/leave" ∧
      ¬ FlexIDMngerDb.AnswersOnce Server.exact 10 loadsLeave .leave "/configuration/leave" []
        (FlexIDMngerDb.start [] 0) ∧
      ¬ FlexIDMnger.AnswersOnce FlexIDMnger.emptyDb 10 loadsLeave .leave "/configuration/leave" []
        (FlexIDMnger.start 0) := by
  refine ⟨⟨[], rfl⟩, ?_, ?_⟩
  · intro h
    obtain ⟨m', msg, hrun, _⟩ := h
    have hraise : FlexIDMngerDb.on_message Server.exact 10 loadsLeave "/configuration/leave" []
        (FlexIDMngerDb.start [] 0) = (.error .indexError, FlexIDMngerDb.start [] 0) := rfl
    exact absurd (congrArg Prod.fst (hraise.symm.trans hrun)) (by simp)
  · intro h
    obtain ⟨s', msg, hrun, _⟩ := h
    have hraise : FlexIDMnger.runs FlexIDMnger.emptyDb
        (FlexIDMnger.on_message 10 loadsLeave "/configuration/leave" []) (FlexIDMnger.start 0) =
          some (.error .indexError, FlexIDMnger.start 0) := rfl
    exact absurd (hraise.symm.trans hrun) (by simp)

end Versatile
