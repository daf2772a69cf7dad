import Versatile.FlexIDMnger.Frames
import Versatile.FlexIDMnger.Progress

/-!
# Interleavings of the two threads are sequential runs

What `flexIDMnger.py` does between its two threads, request after request, is what `run` says
of one process that asks a database and has the answer at once. In one direction every
interleaving that handles some requests is such a run, for some script of draws and answers
(`handles_alone`); in the other, every such run is one of the interleavings (`handles_of_run`).
So what holds of all sequential runs holds of all interleavings, and nothing less would do.
-/

namespace Versatile.FlexIDMnger

open Py Relation

variable {limit : Nat} {sys sys' : System} {rs : List Request}

/-- The requests of a run were taken up one after another, and some interleaving of the threads
leads here. -/
inductive Handles (limit : Nat) : List Request → System → Prop where
  | start : Handles limit [] System.start
  | accept {rs : List Request} {sys : System} (r : Request) : Handles limit rs sys →
      sys.thread = .idle →
      Handles limit (rs ++ [r]) { sys with thread := .running (handle limit r) }
  | done {rs : List Request} {sys : System} : Handles limit rs sys →
      sys.thread = .running (.ret ()) → Handles limit rs { sys with thread := .idle }
  | raised {rs : List Request} {sys : System} {e : Exc} : Handles limit rs sys →
      sys.thread = .running (.raise e) → Handles limit rs { sys with thread := .idle }
  | move {rs : List Request} {sys sys' : System} : Handles limit rs sys → Move sys sys' →
      Handles limit rs sys'

theorem Handles.reachable (h : Handles limit rs sys) : Reachable sys := by
  induction h with
  | start => exact .refl
  | accept r _ hthread ih => exact ih.tail (.accept _ hthread)
  | done _ hthread ih => exact ih.tail (.done hthread)
  | raised _ hthread ih => exact ih.tail (.raised hthread)
  | move _ hm ih => exact ih.tail (.move hm)

theorem Handles.moves (h : Handles limit rs sys) (hms : ReflTransGen Move sys sys') :
    Handles limit rs sys' := by
  induction hms with
  | refl => exact h
  | tail _ hm ih => exact .move ih hm

/-! ## An interleaving is a sequential run -/

/-- One request more. -/
theorem run_append {ω : Type} (env : Env ω) (limit : Nat) (s : State ω) (rs : List Request)
    (r : Request) :
    run env limit s (rs ++ [r]) = (run env limit s rs).bind fun s' => step env limit s' r := by
  rw [run, run, List.foldlM_append]
  cases List.foldlM (step env limit) s rs with
  | none => rfl
  | some s' => exact bind_pure (step env limit s' r)

/-- The thread is idle where the sequential run has come, for some script. -/
def AtRest (limit : Nat) (rs : List Request) (sys : System) : Prop :=
  ∃ script, ∀ rest, run scripted limit (start (script ++ rest)) rs = some (sys.process.before rest)

/-- The thread is in a request that ends as what is left of it does. -/
def Midway (limit : Nat) (rs : List Request) (sys : System) : Prop :=
  ∃ script p s, Left sys.thread sys.process p s ∧
    ∀ rest, run scripted limit (start (script ++ rest)) rs =
      (runs scripted p (s.before rest)).map Prod.snd

/-- **The simulation**, between the two. -/
def Simulates (limit : Nat) (rs : List Request) (sys : System) : Prop :=
  match sys.thread with
  | .idle => AtRest limit rs sys
  | _ => Midway limit rs sys

theorem simulates_idle (hidle : sys.thread = .idle) :
    Simulates limit rs sys ↔ AtRest limit rs sys := by
  unfold Simulates
  rw [hidle]

theorem simulates_busy (hbusy : sys.thread ≠ .idle) :
    Simulates limit rs sys ↔ Midway limit rs sys := by
  unfold Simulates
  split
  · rename_i hidle
    exact absurd hidle hbusy
  · exact Iff.rfl

/-- A request is taken up where the last one ended. -/
theorem simulates_accept (h : AtRest limit rs sys) (r : Request) :
    Midway limit (rs ++ [r]) { sys with thread := .running (handle limit r) } := by
  obtain ⟨script, hrun⟩ := h
  refine ⟨script, handle limit r, sys.process, .running, fun rest => ?_⟩
  rw [run_append, hrun rest]
  rfl

/-- A request ends where its program does. -/
theorem simulates_end {r : Except Exc Unit} (h : Midway limit rs sys)
    (hthread : sys.thread = .running (liftM r)) : AtRest limit rs { sys with thread := .idle } := by
  obtain ⟨script, p, s, hleft, hrun⟩ := h
  rw [hthread] at hleft
  cases hleft
  refine ⟨script, fun rest => ?_⟩
  rw [hrun rest, runs, Prog.exec_lift]
  rfl

/-- A move is one of the program that is left, or none. -/
theorem simulates_move (hinv : Inv sys) (h : Midway limit rs sys) (hm : Move sys sys') :
    Midway limit rs sys' := by
  obtain ⟨script, p, s, hleft, hrun⟩ := h
  obtain ⟨script', p', s', hleft', hred⟩ := move_reduces hinv hm hleft
  refine ⟨script ++ script', p', s', hleft', fun rest => ?_⟩
  rw [List.append_assoc, hrun, hred]

/-- Only a request moves the threads: between two of them nothing is in flight. -/
theorem move_busy (hinv : Inv sys) (hm : Move sys sys') :
    sys.thread ≠ .idle ∧ sys'.thread ≠ .idle := by
  have hwaits : ∀ {n : Nat} {q : Query} {k : String → Handler Unit},
      sys.thread = .waiting n q k → sys.thread ≠ .idle := by
    intro n q k hthread
    rw [hthread]
    simp
  cases hm with
  | operation hthread _ => exact ⟨by rw [hthread]; simp, by simp⟩
  | draw hthread _ => exact ⟨by rw [hthread]; simp, by simp⟩
  | reserve hthread => exact ⟨by rw [hthread]; simp, by simp⟩
  | publish hthread => exact ⟨by rw [hthread]; simp, by simp⟩
  | wake hthread _ _ => exact ⟨by rw [hthread]; simp, by simp⟩
  | respond before a hq =>
    obtain ⟨⟨k, hthread⟩, _⟩ := hinv.query_inFlight hq
    exact ⟨hwaits hthread, hwaits hthread⟩
  | loseQuery before hq =>
    obtain ⟨⟨k, hthread⟩, _⟩ := hinv.query_inFlight hq
    exact ⟨hwaits hthread, hwaits hthread⟩
  | deliver before ha =>
    obtain ⟨⟨q, k, hthread, _⟩, _⟩ := hinv.answer_inFlight ha
    exact ⟨hwaits hthread, hwaits hthread⟩
  | loseAnswer before ha =>
    obtain ⟨⟨q, k, hthread, _⟩, _⟩ := hinv.answer_inFlight ha
    exact ⟨hwaits hthread, hwaits hthread⟩

theorem handles_simulates (h : Handles limit rs sys) : Simulates limit rs sys := by
  induction h with
  | start => exact ⟨[], fun rest => rfl⟩
  | accept r _ hidle ih => exact simulates_accept ((simulates_idle hidle).mp ih) r
  | done _ hthread ih =>
    refine simulates_end (r := .ok ()) ?_ hthread
    exact (simulates_busy (by rw [hthread]; simp)).mp ih
  | @raised rs sys e _ hthread ih =>
    refine simulates_end (r := .error e) ?_ hthread
    exact (simulates_busy (by rw [hthread]; simp)).mp ih
  | move hpre hm ih =>
    have hinv := inv_reachable hpre.reachable
    obtain ⟨hbusy, hbusy'⟩ := move_busy hinv hm
    exact (simulates_busy hbusy').mpr (simulates_move hinv ((simulates_busy hbusy).mp ih) hm)

/-- **An interleaving that has handled some requests ends as a run alone.** -/
theorem handles_alone (h : Handles limit rs sys) (hidle : sys.thread = .idle) :
    ∃ script, run scripted limit (start script) rs = some (sys.process.before []) := by
  obtain ⟨script, hrun⟩ := (simulates_idle hidle).mp (handles_simulates h)
  refine ⟨script, ?_⟩
  have hall := hrun []
  rwa [List.append_nil] at hall

/-! ## A sequential run is an interleaving -/

/-- The process of a sequential run, without the script. -/
def State.forget (s : State Script) : State Unit :=
  ⟨s.deviceID_cache, s.dbQuery_cache, s.stranded, s.published, ()⟩

/-- An operation that is not a query does the same in both. -/
theorem perform_forget {o : Act} (h : ∀ q t, o ≠ .send q t) {s s' : State Script} {b : o.Res}
    (hop : perform scripted o s = some (b, s')) :
    perform silent o s.forget = some (b, s'.forget) ∧ s'.world = s.world := by
  cases o with
  | send q t => exact absurd rfl (h q t)
  | _ =>
    obtain ⟨rfl, rfl⟩ := Prod.mk.inj (Option.some.inj hop)
    exact ⟨rfl, rfl⟩

/-- A query that comes back took the next draw and answer of the script. -/
theorem perform_send_script {q : DbQuery} {t : DbTopic} {s s' : State Script} {id : String}
    (hop : perform scripted (.send q t) s = some (id, s')) :
    ∃ n a script, s.world = (n, a) :: script ∧ queryID n ∉ s.dbQuery_cache.keys ∧
      a.isStr "None" = false ∧ id = queryID n ∧
      s' = (on_db_message (queryID n) a s.forget).before script := by
  obtain ⟨n, a, w, hexchange, hready, hid, hs⟩ := perform_send_eq_some.mp hop
  have hnew := scripted.fresh hexchange
  have hworld : s.world = (n, a) :: w := by
    cases hscript : s.world with
    | nil => rw [hscript] at hexchange; exact absurd hexchange (by simp [scripted])
    | cons e script =>
      rw [hscript] at hexchange
      obtain ⟨_, heq⟩ := Option.ite_none_left_eq_some.mp hexchange
      obtain ⟨rfl, hrest⟩ := Prod.mk.inj (Option.some.inj heq)
      obtain ⟨rfl, rfl⟩ := Prod.mk.inj hrest
      rfl
  exact ⟨n, a, w, hworld, hnew, hready, hid, hs⟩

/-- **A query, move by move**: drawn, reserved, published, answered, received, returned. -/
theorem moves_of_send {q : DbQuery} {t : DbTopic} {k : String → Handler Unit} {n : BitVec 32}
    {a : Value} (hthread : sys.thread = .running (.call (.send q t) k)) (hquiet : Quiet sys)
    (hnew : queryID n ∉ sys.process.dbQuery_cache.keys) (hready : a.isStr "None" = false) :
    ∃ sys', ReflTransGen Move sys sys' ∧ sys'.thread = .running (k (queryID n)) ∧ Quiet sys' ∧
      sys'.process = on_db_message (queryID n) a sys.process := by
  obtain ⟨hqs, has⟩ := hquiet
  have hset : on_db_message (queryID n) a
      (on_db_message (queryID n) (.str "None") sys.process) =
        on_db_message (queryID n) a sys.process := by simp [on_db_message]
  have h1 : ReflTransGen Move sys { sys with thread := .drawn ⟨n, q, t⟩ k } :=
    .single (.draw (q := ⟨n, q, t⟩) hthread hnew)
  have h2 := (h1.tail (.reserve rfl)).tail (.publish rfl)
  have h3 := h2.tail (.respond [] a (by rw [hqs]; rfl))
  have h4 := h3.tail (.deliver [] (by rw [has]; rfl))
  have h5 := h4.tail (.wake rfl (Dict.get_set_self _ _ _) hready)
  exact ⟨_, h5, rfl, ⟨rfl, rfl⟩, hset⟩

/-- A program, operation by operation. -/
theorem moves_of_runs (p : Handler Unit) : ∀ (sys : System) {script : Script}
    {r : Except Exc Unit} {t : State Script}, sys.thread = .running p → Quiet sys →
    runs scripted p (sys.process.before script) = some (r, t) →
    ∃ sys', ReflTransGen Move sys sys' ∧ sys'.thread = .running (liftM r) ∧ Quiet sys' ∧
      sys'.process.before t.world = t := by
  induction p with
  | ret a =>
    intro sys script r t hthread hquiet h
    obtain ⟨rfl, rfl⟩ := Prod.mk.inj (Option.some.inj h)
    exact ⟨sys, .refl, hthread, hquiet, rfl⟩
  | raise e =>
    intro sys script r t hthread hquiet h
    obtain ⟨rfl, rfl⟩ := Prod.mk.inj (Option.some.inj h)
    exact ⟨sys, .refl, hthread, hquiet, rfl⟩
  | call o k ih =>
    intro sys script r t hthread hquiet h
    rw [runs, Prog.exec] at h
    rcases hop : perform scripted o (sys.process.before script) with _ | ⟨b, s1⟩
    · rw [hop] at h
      exact absurd h (by simp)
    · rw [hop] at h
      by_cases hsend : ∃ q topic, o = .send q topic
      · obtain ⟨q, topic, rfl⟩ := hsend
        obtain ⟨n, a, script', hworld, hnew, hready, rfl, rfl⟩ := perform_send_script hop
        obtain ⟨sys1, hms, hthread1, hquiet1, hprocess1⟩ :=
          moves_of_send hthread hquiet hnew hready
        have hrest : runs scripted (k (queryID n)) (sys1.process.before script') = some (r, t) := by
          rw [hprocess1]
          exact h
        obtain ⟨sys', hms', hend, hquiet', ht⟩ := ih (queryID n) sys1 hthread1 hquiet1 hrest
        exact ⟨sys', hms.trans hms', hend, hquiet', ht⟩
      · have hother : ∀ q topic, o ≠ .send q topic := fun q topic heq => hsend ⟨q, topic, heq⟩
        obtain ⟨hsilent, hworld⟩ := perform_forget hother hop
        obtain ⟨sys', hms', hend, hquiet', ht⟩ :=
          ih b { sys with process := s1.forget, thread := .running (k b) } rfl hquiet h
        exact ⟨sys', .head (.operation hthread hsilent) hms', hend, hquiet', ht⟩

/-- **A sequential run is one of the interleavings.** -/
theorem handles_of_run (rs : List Request) : ∀ {script : Script} {t : State Script},
    run scripted limit (start script) rs = some t →
    ∃ sys, Handles limit rs sys ∧ sys.thread = .idle ∧ sys.process.before t.world = t := by
  induction rs using List.reverseRecOn with
  | nil =>
    intro script t h
    obtain rfl := Option.some.inj h
    exact ⟨System.start, .start, rfl, rfl⟩
  | append_singleton rs r ih =>
    intro script t h
    rw [run_append] at h
    obtain ⟨t1, h1, hstep⟩ := Option.bind_eq_some_iff.mp h
    obtain ⟨sys1, hhandles, hidle, ht1⟩ := ih h1
    obtain ⟨⟨result, t'⟩, hruns, rfl⟩ := Option.map_eq_some_iff.mp hstep
    have hquiet := (inv_reachable hhandles.reachable).quiet (by rw [hidle]; rfl)
    rw [← ht1] at hruns
    obtain ⟨sys2, hms, hend, _, ht⟩ :=
      moves_of_runs _ { sys1 with thread := .running (handle limit r) } rfl hquiet hruns
    have hhandles2 := (Handles.accept r hhandles hidle).moves hms
    cases result with
    | ok u => exact ⟨_, .done hhandles2 hend, rfl, ht⟩
    | error e => exact ⟨_, .raised hhandles2 hend, rfl, ht⟩

/--
**The interleavings are the sequential runs.**

The processes that the two threads can have reached when some requests are handled, whatever
the order in which they, the broker and the database moved, are exactly those a single thread
reaches that asks each query and has its answer at once, over all draws and answers.
-/
theorem interleavings_sequential (limit : Nat) (rs : List Request) (s : State Unit) :
    (∃ sys, Handles limit rs sys ∧ sys.thread = .idle ∧ sys.process = s) ↔
      ∃ script, run scripted limit (start script) rs = some (s.before []) := by
  refine ⟨?_, ?_⟩
  · intro hsome
    obtain ⟨sys, hhandles, hidle, rfl⟩ := hsome
    exact handles_alone hhandles hidle
  · intro hsome
    obtain ⟨script, hrun⟩ := hsome
    obtain ⟨sys, hhandles, hidle, ht⟩ := handles_of_run rs hrun
    exact ⟨sys, hhandles, hidle, congrArg State.forget ht⟩

/-! ## The answers of an interleaving -/

/-- The topic a request is answered on. -/
def answerTopic (r : Request) : String := r.op.ackTopic ++ r.tempID

/-- A payload that is an object. -/
def isObject : Value → Bool
  | .dict _ => true
  | _ => false

/-- The topics that the answers to some requests are due on, in order. -/
def due (rs : List Request) : List String :=
  (rs.filter fun r => isObject r.payload).map answerTopic

theorem due_append (rs : List Request) (r : Request) :
    due (rs ++ [r]) = due rs ++ if isObject r.payload then [answerTopic r] else [] := by
  unfold due
  rw [List.filter_append, List.map_append]
  cases hobject : isObject r.payload <;> simp [hobject]

/-- The operation publishes. -/
def Act.publishes : Act → Bool
  | publish _ => true
  | _ => false

/-- The program publishes one message, on the topic, and then it is done. -/
def PublishesOn (topic : String) : Handler Unit → Prop
  | .ret _ => False
  | .raise _ => False
  | .call o k => (∀ msg, o = .publish msg → msg.topic = topic) ∧
      ∀ b, if o.publishes then k b = .ret () else PublishesOn topic (k b)

/-- **The `try` block around a handler publishes once**, if neither the block nor what it
catches does anything else on the broker. -/
theorem publishesOn_answer {ε : Type} {topic : String} (body : Prog Act Act.Res ε Message)
    {failure : ε → Message} (hmute : Prog.Only Act.Mute body)
    (hbody : Prog.Yields (fun msg => msg.topic = topic) body)
    (hfail : ∀ e, (failure e).topic = topic) : PublishesOn topic (answer body failure) := by
  have hpublish : ∀ msg : Message, msg.topic = topic → PublishesOn topic (publish msg) := by
    intro msg hmsg
    refine ⟨?_, fun b => rfl⟩
    intro msg' heq
    obtain rfl := Act.publish.inj heq
    exact hmsg
  induction body with
  | ret msg => exact hpublish msg hbody
  | raise e => exact hpublish _ (hfail e)
  | call o k ih =>
    have hsilent : o.publishes = false := by
      cases o with
      | publish msg => exact hmute.1.elim
      | _ => rfl
    refine ⟨?_, fun b => ?_⟩
    · intro msg heq
      obtain rfl := heq
      exact hmute.1.elim
    · rw [if_neg (by rw [hsilent]; decide)]
      exact ih b (hmute.2 b) (hbody b)

/-- A handler with an object publishes its answer. -/
theorem handle_publishesOn (limit : Nat) (r : Request) (h : isObject r.payload = true) :
    PublishesOn (answerTopic r) (handle limit r) := by
  obtain ⟨op, tempID, payload⟩ := r
  cases payload with
  | dict kvs =>
    cases op with
    | join =>
      refine publishesOn_answer (joinBody limit tempID (.dict kvs) (field kvs "relay"))
        ((joinBody_marks _ _ _ _).mono fun _ => Act.Marks.mute) ?_ fun _ => rfl
      refine Prog.yields_rest fun _ => Prog.yields_rest fun _ => Prog.yields_rest fun d => ?_
      refine Prog.yields_rest fun _ => Prog.yields_rest fun _ => Prog.yields_rest fun _ => ?_
      exact Prog.yields_rest fun _ => rfl
    | leave =>
      refine publishesOn_answer (leaveBody tempID (field kvs "relay"))
        (leaveBody_mute _ _) ?_ fun _ => rfl
      refine Prog.yields_rest fun _ => Prog.yields_rest fun _ => Prog.yields_rest fun _ => ?_
      exact Prog.yields_rest fun _ => rfl
    | register =>
      refine publishesOn_answer
        (registerBody limit tempID (.dict kvs) (field kvs "relay") (field kvs "registerID"))
        ((registerBody_marks _ _ _ _ _).mono fun _ => Act.Marks.mute) ?_ fun _ => rfl
      refine Prog.yields_rest fun _ => Prog.yields_rest fun _ => Prog.yields_rest fun _ => ?_
      exact Prog.yields_rest fun _ => Prog.yields_rest fun _ => rfl
    | update =>
      refine publishesOn_answer
        (updateBody tempID (.dict kvs) (field kvs "relay") (field kvs "updateID"))
        ((updateBody_marks _ _ _ _).mono fun _ => Act.Marks.mute) ?_ fun _ => rfl
      refine Prog.yields_rest fun _ => Prog.yields_rest fun _ => Prog.yields_rest fun exist => ?_
      cases exist.truthy with
      | false => trivial
      | true => exact Prog.yields_rest fun _ => rfl
    | query =>
      refine publishesOn_answer
        (queryBody tempID (.dict kvs) (field kvs "relay") (field kvs "queryID"))
        ((queryBody_marks _ _ _ _).mono fun _ => Act.Marks.mute) ?_ fun _ => rfl
      refine Prog.yields_rest fun _ => Prog.yields_rest fun _ => Prog.yields_rest fun _ => ?_
      refine Prog.yields_rest fun _ => Prog.yields_rest fun _ => Prog.yields_rest fun _ => ?_
      exact Prog.yields_rest fun _ => rfl
  | _ => exact absurd h (by simp [isObject])

/-- Any other payload raises at once. -/
theorem handle_mute (limit : Nat) (r : Request) (h : isObject r.payload = false) :
    Prog.Only Act.Mute (handle limit r) := by
  obtain ⟨op, tempID, payload⟩ := r
  cases payload with
  | dict kvs => exact absurd h (by simp [isObject])
  | _ => cases op <;> trivial

/-- How far the answers have come: all were published, or the one of the last request is owed. -/
inductive Answering (rs : List Request) (sys : System) : Prop where
  | settled : sys.process.published.map Message.topic = due rs →
      Prog.Only Act.Mute sys.thread.program → Answering rs sys
  | owing {rs' : List Request} {r : Request} : rs = rs' ++ [r] → isObject r.payload = true →
      sys.process.published.map Message.topic = due rs' →
      PublishesOn (answerTopic r) sys.thread.program → Answering rs sys

/-- Nothing is published, and what is left of the program stays. -/
theorem answering_same (h : Answering rs sys)
    (hpublished : sys'.process.published = sys.process.published)
    (hprogram : sys'.thread.program = sys.thread.program) : Answering rs sys' := by
  cases h with
  | settled htopics hmute =>
    exact .settled (by rw [hpublished]; exact htopics) (by rw [hprogram]; exact hmute)
  | owing hrs hobject htopics hpub =>
    exact .owing hrs hobject (by rw [hpublished]; exact htopics) (by rw [hprogram]; exact hpub)

/-- An operation that does not publish leaves the published messages alone. -/
theorem silent_published {o : Act} {b : o.Res} {s s' : State Unit} (ho : o.publishes = false)
    (hop : perform silent o s = some (b, s')) : s'.published = s.published := by
  cases o with
  | publish msg => exact absurd ho (by simp [Act.publishes])
  | send q t => exact absurd hop (by simp [perform, silent])
  | _ =>
    obtain ⟨_, rfl⟩ := Prod.mk.inj (Option.some.inj hop)
    rfl

/-- An operation that does not publish is done, and the program goes on. -/
theorem answering_next {o : Act} {cont : o.Res → Handler Unit} (b : o.Res)
    (ho : o.publishes = false) (h : Answering rs sys)
    (hprogram : sys.thread.program = .call o cont)
    (hpublished : sys'.process.published = sys.process.published)
    (hprogram' : sys'.thread.program = cont b) : Answering rs sys' := by
  cases h with
  | settled htopics hmute =>
    rw [hprogram] at hmute
    exact .settled (by rw [hpublished]; exact htopics) (by rw [hprogram']; exact hmute.2 b)
  | owing hrs hobject htopics hpub =>
    rw [hprogram] at hpub
    have hrest := hpub.2 b
    rw [if_neg (by rw [ho]; decide)] at hrest
    exact .owing hrs hobject (by rw [hpublished]; exact htopics) (by rw [hprogram']; exact hrest)

/-- The answer that was owed is published. -/
theorem answering_publish {msg : Message} {cont : Unit → Handler Unit} (h : Answering rs sys)
    (hprogram : sys.thread.program = .call (.publish msg) cont)
    (hpublished : sys'.process.published = sys.process.published ++ [msg])
    (hprogram' : sys'.thread.program = cont ()) : Answering rs sys' := by
  cases h with
  | settled _ hmute =>
    rw [hprogram] at hmute
    exact hmute.1.elim
  | @owing rs' r hrs hobject htopics hpub =>
    rw [hprogram] at hpub
    obtain ⟨htopic, hrest⟩ := hpub
    have hend : cont () = .ret () := hrest ()
    refine .settled ?_ (by rw [hprogram', hend]; trivial)
    rw [hpublished, List.map_append, htopics, hrs, due_append, if_pos hobject, List.map_singleton,
      htopic msg rfl]

/-- **A move publishes only what is owed.** -/
theorem answering_move (h : Answering rs sys) (hm : Move sys sys') : Answering rs sys' := by
  cases hm with
  | @operation o cont b process' hthread hop =>
    have hprogram : sys.thread.program = .call o cont := by rw [hthread]; rfl
    cases ho : o.publishes with
    | false => exact answering_next b ho h hprogram (silent_published ho hop) rfl
    | true =>
      cases o with
      | publish msg =>
        obtain ⟨_, rfl⟩ := Prod.mk.inj (Option.some.inj hop)
        exact answering_publish h hprogram rfl rfl
      | _ => exact absurd ho (by simp [Act.publishes])
  | draw hthread _ => exact answering_same h rfl (by rw [hthread]; rfl)
  | reserve hthread => exact answering_same h rfl (by rw [hthread]; rfl)
  | publish hthread => exact answering_same h rfl (by rw [hthread]; rfl)
  | @wake n q k v hthread _ _ =>
    exact answering_next (o := .send q.query q.topic) q.id rfl h (by rw [hthread]; rfl) rfl rfl
  | respond before a _ => exact answering_same h rfl rfl
  | loseQuery before _ => exact answering_same h rfl rfl
  | deliver before _ => exact answering_same h rfl rfl
  | loseAnswer before _ => exact answering_same h rfl rfl

/-- A program that is over owes nothing. -/
theorem answering_over (h : Answering rs sys)
    (hover : (∃ a, sys.thread.program = .ret a) ∨ ∃ e, sys.thread.program = .raise e) :
    sys.process.published.map Message.topic = due rs := by
  cases h with
  | settled htopics _ => exact htopics
  | owing _ _ _ hpub =>
    rcases hover with ⟨a, hret⟩ | ⟨e, hraise⟩
    · rw [hret] at hpub
      exact hpub.elim
    · rw [hraise] at hpub
      exact hpub.elim

theorem handles_answering (h : Handles limit rs sys) : Answering rs sys := by
  induction h with
  | start => exact .settled rfl trivial
  | @accept rs sys r _ hidle ih =>
    have htopics := answering_over ih (Or.inl ⟨(), by rw [hidle]; rfl⟩)
    cases hobject : isObject r.payload with
    | true => exact .owing rfl hobject htopics (handle_publishesOn limit r hobject)
    | false =>
      refine .settled ?_ (handle_mute limit r hobject)
      rw [due_append, hobject]
      simpa using htopics
  | done _ hthread ih =>
    have htopics := answering_over ih (Or.inl ⟨(), by rw [hthread]; rfl⟩)
    exact .settled htopics trivial
  | @raised rs sys e _ hthread ih =>
    have htopics := answering_over ih (Or.inr ⟨e, by rw [hthread]; rfl⟩)
    exact .settled htopics trivial
  | move _ hm ih => exact answering_move ih hm

/--
**Requests are answered in order, each once.**

Whatever the interleaving of the two threads, the broker and the database, the answers that are
published so far are on the topics of the requests that were taken up, in their order and each
once, where only the last may be missing; between two requests none is. A request without an
object for its payload gets none.
-/
theorem answers_in_order (h : Handles limit rs sys) :
    sys.process.published.map Message.topic <+: due rs ∧
      due rs.dropLast <+: sys.process.published.map Message.topic ∧
      (sys.thread = .idle → sys.process.published.map Message.topic = due rs) := by
  have hanswering := handles_answering h
  refine ⟨?_, ?_, fun hidle => answering_over hanswering (Or.inl ⟨(), by rw [hidle]; rfl⟩)⟩
  · cases hanswering with
    | settled htopics _ => exact ⟨[], by rw [List.append_nil, htopics]⟩
    | @owing rs' r hrs _ htopics _ =>
      rw [htopics, hrs, due_append]
      exact ⟨_, rfl⟩
  · cases hanswering with
    | settled htopics _ =>
      rw [htopics]
      exact ((List.dropLast_prefix rs).filter _).map _
    | @owing rs' r hrs _ htopics _ =>
      exact ⟨[], by rw [htopics, hrs, List.dropLast_concat, List.append_nil]⟩

/-- A leave of the device `t0`. -/
def leaveRequest : Request := ⟨.leave, "t0", .dict [("relay", .str "none")]⟩

/-- An interleaving that has answered a leave. -/
theorem answers_in_order_leave :
    ∃ sys : System, (sys.process.published.map Message.topic <+: due [leaveRequest] ∧
      due [leaveRequest].dropLast <+: sys.process.published.map Message.topic ∧
      (sys.thread = .idle → sys.process.published.map Message.topic = due [leaveRequest])) ∧
      sys.process.published.map Message.topic = ["/configuration/leave_ack/t0"] := by
  have hrun : ∃ t,
      run scripted 10 (start [(0, .dict [("error", .int 0)])]) [leaveRequest] = some t ∧
      t.published.map Message.topic = ["/configuration/leave_ack/t0"] := ⟨_, rfl, rfl⟩
  obtain ⟨t, hrun, htopics⟩ := hrun
  obtain ⟨sys, hhandles, _, ht⟩ := handles_of_run [leaveRequest] hrun
  refine ⟨sys, answers_in_order hhandles, ?_⟩
  rw [← htopics, ← ht]
  rfl

end Versatile.FlexIDMnger
