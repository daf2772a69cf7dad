import Mathlib.Logic.Relation
import Mathlib.Logic.Function.Basic
import Versatile.FlexIDMnger.Process

/-!
# Database answers are never crossed

The two threads of `flexIDMnger.py`, step by step: one runs the handlers, the other hands the
answers of the database to `on_db_message`, and between them the broker may delay, reorder or
drop any message. Query identifiers are drawn at random, so one can be drawn again once its
entry is deleted.

What keeps the answers apart is that the thread of the handlers never goes on while one of its
queries, or the answer to it, is in flight (`Turn`). So whatever it reads under an identifier
is the answer to the last query it sent under it.

In the other direction, a handler between the two threads ends as `runs` says it does alone,
with the draws and the answers it met (`scripted`).
-/

namespace Versatile.FlexIDMnger

open Py Relation

/-! ## The two threads -/

/-- A query, with the bits its identifier is made of. -/
structure Query where
  bits : BitVec 32
  query : DbQuery
  topic : DbTopic

/-- The identifier a query is sent under. -/
def Query.id (q : Query) : String := queryID q.bits

/-- Where the thread of the handlers is. -/
inductive Thread where
  | idle
  /-- In a handler, before its next operation. -/
  | running (p : Handler Unit)
  /-- In `send_DBquery`, with an identifier that is no key of `dbQuery_cache`. -/
  | drawn (q : Query) (k : String → Handler Unit)
  /-- In `send_DBquery`, with the entry `"None"` written. -/
  | reserved (q : Query) (k : String → Handler Unit)
  /-- In `send_DBquery`, with the `n`-th query of the process sent, waiting for its entry. -/
  | waiting (n : Nat) (q : Query) (k : String → Handler Unit)

/-- Both threads, the messages between them, and the history that the statements speak of. -/
structure System where
  process : State Unit
  thread : Thread
  /-- Queries on their way to the database, with their numbers. -/
  queries : List (Nat × Query)
  /-- Answers on their way back: the number of the query, its identifier, the payload. -/
  answers : List (Nat × String × Value)
  /-- Every query sent so far, oldest first. -/
  asked : List Query
  /-- What the database answered to a query, once it did. -/
  answered : Nat → Option Value
  /-- The query of the last call of `send_DBquery` that returned an identifier. -/
  returned : String → Option Nat

/-- `on_db_message`, with the identifier its topic ends in and the payload it decodes. -/
def on_db_message {ω : Type} (queryID : String) (payload : Value) (s : State ω) : State ω :=
  { s with dbQuery_cache := s.dbQuery_cache.set queryID payload }

/-- An environment that never answers: with it, `perform` gives the operations that the
thread of the handlers performs on its own. -/
def silent : Env Unit where
  exchange _ _ _ _ := none
  fresh := by intro _ _ _ _ _ _ _ h; exact absurd h (by simp)

/-- One step of a request: of the handler, of the broker, of the database, or of the thread
that receives its answers. -/
inductive Move (sys : System) : System → Prop where
  /-- An operation that is not a query. -/
  | operation {o : Act} {cont : o.Res → Handler Unit} {b : o.Res} {process' : State Unit} :
      sys.thread = .running (.call o cont) →
      perform silent o sys.process = some (b, process') →
      Move sys { sys with process := process', thread := .running (cont b) }
  /-- `send_DBquery` draws identifiers until one is no key of `dbQuery_cache`. -/
  | draw {q : Query} {k : String → Handler Unit} :
      sys.thread = .running (.call (.send q.query q.topic) k) →
      q.id ∉ sys.process.dbQuery_cache.keys →
      Move sys { sys with thread := .drawn q k }
  /-- `dbQuery_cache[queryID] = "None"`. -/
  | reserve {q : Query} {k : String → Handler Unit} :
      sys.thread = .drawn q k →
      Move sys { sys with
        process := on_db_message q.id (.str "None") sys.process
        thread := .reserved q k }
  /-- `db_client.publish`. -/
  | publish {q : Query} {k : String → Handler Unit} :
      sys.thread = .reserved q k →
      Move sys { sys with
        thread := .waiting sys.asked.length q k
        queries := (sys.asked.length, q) :: sys.queries
        asked := sys.asked ++ [q] }
  /-- The loop over `dbQuery_cache[queryID] == "None"` ends, and `send_DBquery` returns. -/
  | wake {n : Nat} {q : Query} {k : String → Handler Unit} {v : Value} :
      sys.thread = .waiting n q k →
      sys.process.dbQuery_cache.get q.id = some v → v.isStr "None" = false →
      Move sys { sys with
        thread := .running (k q.id)
        returned := Function.update sys.returned q.id (some n) }
  /-- The database answers a query that reached it. -/
  | respond (before : List (Nat × Query)) {after : List (Nat × Query)} {n : Nat} {q : Query}
      (a : Value) :
      sys.queries = before ++ (n, q) :: after →
      Move sys { sys with
        queries := before ++ after
        answers := (n, q.id, a) :: sys.answers
        answered := Function.update sys.answered n (some a) }
  /-- A query is dropped, or not answered. -/
  | loseQuery (before : List (Nat × Query)) {after : List (Nat × Query)} {n : Nat} {q : Query} :
      sys.queries = before ++ (n, q) :: after →
      Move sys { sys with queries := before ++ after }
  /-- The other thread receives an answer. -/
  | deliver (before : List (Nat × String × Value)) {after : List (Nat × String × Value)}
      {n : Nat} {id : String} {a : Value} :
      sys.answers = before ++ (n, id, a) :: after →
      Move sys { sys with
        answers := before ++ after
        process := on_db_message id a sys.process }
  /-- An answer is dropped, or does not decode as UTF-8 and JSON: `on_db_message` raises before it
  writes the entry. -/
  | loseAnswer (before : List (Nat × String × Value)) {after : List (Nat × String × Value)}
      {n : Nat} {id : String} {a : Value} :
      sys.answers = before ++ (n, id, a) :: after →
      Move sys { sys with answers := before ++ after }

/-- One step of the system. A handler is any program, so `on_message` of any message too. -/
inductive Step (sys : System) : System → Prop where
  | accept (p : Handler Unit) : sys.thread = .idle → Step sys { sys with thread := .running p }
  | done : sys.thread = .running (.ret ()) → Step sys { sys with thread := .idle }
  /-- An exception leaves the handler. -/
  | raised {e : Exc} : sys.thread = .running (.raise e) → Step sys { sys with thread := .idle }
  | move {sys' : System} : Move sys sys' → Step sys sys'

/-- The system before its first request. -/
def System.start : System :=
  ⟨FlexIDMnger.start (), .idle, [], [], [], fun _ => none, fun _ => none⟩

/-- Some interleaving of the steps leads here. -/
def Reachable (sys : System) : Prop := ReflTransGen Step System.start sys

/-! ## The invariant -/

/-- No message is in flight. -/
def Quiet (sys : System) : Prop := sys.queries = [] ∧ sys.answers = []

/-- The entry of an identifier is still `"None"`. -/
def Pending (sys : System) (id : String) : Prop :=
  sys.process.dbQuery_cache.get id = some (.str "None")

/-- How far the query the thread waits for has come. -/
inductive Phase (sys : System) (n : Nat) (q : Query) : Prop where
  | asked : Pending sys q.id → sys.queries = [(n, q)] → sys.answers = [] →
      sys.answered n = none → Phase sys n q
  | answered {a : Value} : Pending sys q.id → sys.queries = [] →
      sys.answers = [(n, q.id, a)] → sys.answered n = some a → Phase sys n q
  | lost : Pending sys q.id → Quiet sys → Phase sys n q
  | delivered {a : Value} : sys.process.dbQuery_cache.get q.id = some a → Quiet sys →
      sys.answered n = some a → Phase sys n q

/-- Messages are in flight only while the thread waits, and then for the query it waits for. -/
def Turn (sys : System) : Prop :=
  match sys.thread with
  | .reserved q _ => Quiet sys ∧ Pending sys q.id
  | .waiting n q _ => sys.asked[n]? = some q ∧ Phase sys n q
  | _ => Quiet sys

/-- The identifier that `send_DBquery` has written, until it returns. -/
def Thread.holds : Thread → Option String
  | reserved q _ => some q.id
  | waiting _ q _ => some q.id
  | _ => none

/-- The entry `v` of an identifier is the answer to the query that its last call sent. -/
def AnswerOf (sys : System) (id : String) (v : Value) : Prop :=
  ∃ n q, sys.returned id = some n ∧ sys.asked[n]? = some q ∧ q.id = id ∧ sys.answered n = some v

/-- The three conjuncts, maintained together. -/
structure Inv (sys : System) : Prop where
  turn : Turn sys
  /-- Only a query that was sent is answered. -/
  sent : ∀ n, sys.asked.length ≤ n → sys.answered n = none
  /-- Every entry is an answer, except the one `send_DBquery` is waiting for. -/
  entries : ∀ id v, sys.thread.holds ≠ some id →
    sys.process.dbQuery_cache.get id = some v → AnswerOf sys id v

variable {sys sys' : System}

theorem Inv.quiet (h : Inv sys) (hthread : sys.thread.holds = none) : Quiet sys := by
  have hturn := h.turn
  unfold Turn at hturn
  cases hcase : sys.thread with
  | reserved q k => rw [hcase] at hthread; exact absurd hthread (by simp [Thread.holds])
  | waiting n q k => rw [hcase] at hthread; exact absurd hthread (by simp [Thread.holds])
  | _ => rw [hcase] at hturn; exact hturn

theorem inv_start : Inv System.start where
  turn := ⟨rfl, rfl⟩
  sent := fun _ _ => rfl
  entries := by intro id v _ h; exact absurd h (by simp [System.start, FlexIDMnger.start])

/-- An operation that is not a query leaves no new entry. -/
theorem silent_entries {o : Act} {b : o.Res} {s s' : State Unit}
    (h : perform silent o s = some (b, s')) {id : String} {v : Value}
    (hv : s'.dbQuery_cache.get id = some v) : s.dbQuery_cache.get id = some v := by
  cases o with
  | send q t => exact absurd h (by simp [perform, silent])
  | drop id' =>
    obtain ⟨_, rfl⟩ := Prod.mk.inj (Option.some.inj h)
    rw [Dict.get_erase] at hv
    split at hv
    · exact absurd hv (by simp)
    · exact hv
  | _ =>
    obtain ⟨_, rfl⟩ := Prod.mk.inj (Option.some.inj h)
    exact hv

/-- A list with one entry, taken apart at an entry. -/
theorem singleton_split {α : Type} {a b : α} {before after : List α}
    (h : [a] = before ++ b :: after) : a = b ∧ before = [] ∧ after = [] := by
  cases before with
  | nil => simpa using h
  | cons x before => simp at h

theorem turn_of_phase {n : Nat} {q : Query} {k : String → Handler Unit}
    (hthread : sys.thread = .waiting n q k) (hasked : sys.asked[n]? = some q)
    (hphase : Phase sys n q) : Turn sys := by
  unfold Turn
  rw [hthread]
  exact ⟨hasked, hphase⟩

/-- A query in flight is the one the thread waits for. -/
theorem Inv.query_inFlight (h : Inv sys) {before after : List (Nat × Query)} {n : Nat} {q : Query}
    (hq : sys.queries = before ++ (n, q) :: after) :
    (∃ k, sys.thread = .waiting n q k) ∧ before = [] ∧ after = [] ∧ Pending sys q.id ∧
      sys.answers = [] ∧ sys.answered n = none ∧ sys.asked[n]? = some q := by
  have hturn := h.turn
  unfold Turn at hturn
  have hbusy : ¬ Quiet sys := fun hquiet => by rw [hquiet.1] at hq; simp at hq
  split at hturn
  · exact absurd hturn.1 hbusy
  · rename_i m q' k hthread
    obtain ⟨hasked, hphase⟩ := hturn
    cases hphase with
    | asked hpend hqs has hnone =>
      obtain ⟨heq, rfl, rfl⟩ := singleton_split (hqs.symm.trans hq)
      obtain ⟨rfl, rfl⟩ := Prod.mk.inj heq
      exact ⟨⟨k, hthread⟩, rfl, rfl, hpend, has, hnone, hasked⟩
    | answered _ hqs _ _ => rw [hqs] at hq; simp at hq
    | lost _ hquiet => exact absurd hquiet hbusy
    | delivered _ hquiet _ => exact absurd hquiet hbusy
  · exact absurd hturn hbusy

/-- An answer in flight is the one the thread waits for. -/
theorem Inv.answer_inFlight (h : Inv sys) {before after : List (Nat × String × Value)} {n : Nat}
    {id : String} {a : Value} (ha : sys.answers = before ++ (n, id, a) :: after) :
    (∃ q k, sys.thread = .waiting n q k ∧ q.id = id ∧ sys.asked[n]? = some q) ∧ before = [] ∧
      after = [] ∧ Pending sys id ∧ sys.queries = [] ∧ sys.answered n = some a := by
  have hturn := h.turn
  unfold Turn at hturn
  have hbusy : ¬ Quiet sys := fun hquiet => by rw [hquiet.2] at ha; simp at ha
  split at hturn
  · exact absurd hturn.1 hbusy
  · rename_i m q k hthread
    obtain ⟨hasked, hphase⟩ := hturn
    cases hphase with
    | asked _ _ has _ => rw [has] at ha; simp at ha
    | answered hpend hqs has hsome =>
      obtain ⟨heq, rfl, rfl⟩ := singleton_split (has.symm.trans ha)
      obtain ⟨rfl, rfl, rfl⟩ : m = n ∧ q.id = id ∧ _ = a := by simpa using heq
      exact ⟨⟨q, k, hthread, rfl, hasked⟩, rfl, rfl, hpend, hqs, hsome⟩
    | lost _ hquiet => exact absurd hquiet hbusy
    | delivered _ hquiet _ => exact absurd hquiet hbusy
  · exact absurd hturn hbusy

/-- A wait ends only with the answer to the query. -/
theorem Inv.woken (h : Inv sys) {n : Nat} {q : Query} {k : String → Handler Unit} {v : Value}
    (hthread : sys.thread = .waiting n q k)
    (hentry : sys.process.dbQuery_cache.get q.id = some v) (hready : v.isStr "None" = false) :
    Quiet sys ∧ sys.asked[n]? = some q ∧ sys.answered n = some v := by
  have hturn := h.turn
  unfold Turn at hturn
  rw [hthread] at hturn
  obtain ⟨hasked, hphase⟩ := hturn
  have hnot : ¬ Pending sys q.id := by
    intro hpend
    obtain rfl : v = .str "None" := by simpa [Pending] using hentry.symm.trans hpend
    exact absurd hready (by decide)
  -- the entry is no longer `"None"`, so only the last phase is left
  cases hphase with
  | asked hpend => exact absurd hpend hnot
  | answered hpend => exact absurd hpend hnot
  | lost hpend => exact absurd hpend hnot
  | @delivered a ha hquiet hans =>
    obtain rfl : v = a := by simpa using hentry.symm.trans ha
    exact ⟨hquiet, hasked, hans⟩

/-! ## Preserved by every step -/

/-- A query takes the next number, and no entry is an answer to it yet. -/
theorem inv_publish (h : Inv sys) {q : Query} {k : String → Handler Unit}
    (hthread : sys.thread = .reserved q k) :
    Inv { sys with
      thread := .waiting sys.asked.length q k
      queries := (sys.asked.length, q) :: sys.queries
      asked := sys.asked ++ [q] } := by
  have hturn := h.turn
  unfold Turn at hturn
  rw [hthread] at hturn
  obtain ⟨⟨hqs, has⟩, hpend⟩ := hturn
  refine ⟨⟨List.getElem?_concat_length .., .asked hpend ?_ has (h.sent _ (Nat.le_refl _))⟩, ?_, ?_⟩
  · show (sys.asked.length, q) :: sys.queries = _
    rw [hqs]
  · intro m hm
    have hlen : (sys.asked ++ [q]).length = sys.asked.length + 1 := List.length_append
    exact h.sent m (by have : (sys.asked ++ [q]).length ≤ m := hm; omega)
  · -- numbers are never reused, so the old entries keep their queries
    intro id v hid hv
    obtain ⟨m, q', hret, hq', hqid, hans⟩ := h.entries id v (by rw [hthread]; exact hid) hv
    refine ⟨m, q', hret, ?_, hqid, hans⟩
    show (sys.asked ++ [q])[m]? = some q'
    rw [List.getElem?_append_left (List.getElem?_eq_some_iff.mp hq').1]
    exact hq'

/-- `send_DBquery` returns with the answer to its own query. -/
theorem inv_wake (h : Inv sys) {n : Nat} {q : Query} {k : String → Handler Unit} {v : Value}
    (hthread : sys.thread = .waiting n q k)
    (hentry : sys.process.dbQuery_cache.get q.id = some v) (hready : v.isStr "None" = false) :
    Inv { sys with
      thread := .running (k q.id)
      returned := Function.update sys.returned q.id (some n) } := by
  obtain ⟨hquiet, hasked, hans⟩ := h.woken hthread hentry hready
  refine ⟨hquiet, h.sent, fun id v' _ hv => ?_⟩
  -- the identifier may have been used before: its last call is this one
  by_cases hid : id = q.id
  · obtain rfl : v = v' := by rw [hid] at hv; simpa using hentry.symm.trans hv
    exact ⟨n, q, by rw [hid]; exact Function.update_self .., hasked, hid.symm, hans⟩
  · have hother : sys.thread.holds ≠ some id := by
      rw [hthread]
      exact fun heq => hid (Option.some.inj heq).symm
    obtain ⟨m, q', hret, hrest⟩ := h.entries id v' hother hv
    exact ⟨m, q', by rw [← hret]; exact Function.update_of_ne hid .., hrest⟩

/-- An answer to the query the thread waits for is no answer to an earlier one. -/
theorem inv_respond (h : Inv sys) {before after : List (Nat × Query)} {n : Nat} {q : Query}
    (a : Value) (hq : sys.queries = before ++ (n, q) :: after) :
    Inv { sys with
      queries := before ++ after
      answers := (n, q.id, a) :: sys.answers
      answered := Function.update sys.answered n (some a) } := by
  obtain ⟨⟨k, hthread⟩, rfl, rfl, hpend, has, hnone, hasked⟩ := h.query_inFlight hq
  refine ⟨?_, ?_, ?_⟩
  · refine turn_of_phase hthread hasked (.answered hpend rfl ?_ (Function.update_self ..))
    show (n, q.id, a) :: sys.answers = _
    rw [has]
  · intro m hm
    -- only a query that was sent is answered here
    have hlt : n < sys.asked.length := (List.getElem?_eq_some_iff.mp hasked).1
    have hne : m ≠ n := by have : sys.asked.length ≤ m := hm; omega
    exact (Function.update_of_ne hne ..).trans (h.sent m hm)
  · intro id v hid hv
    obtain ⟨m, q', hret, hq', hqid, hans⟩ := h.entries id v hid hv
    -- an older answer is not overwritten: the query in flight has none yet
    have hne : m ≠ n := by rintro rfl; rw [hnone] at hans; exact absurd hans (by simp)
    exact ⟨m, q', hret, hq', hqid, (Function.update_of_ne hne ..).trans hans⟩

/-- An answer goes to the entry the thread waits for, and to no other. -/
theorem inv_deliver (h : Inv sys) {before after : List (Nat × String × Value)} {n : Nat}
    {id : String} {a : Value} (ha : sys.answers = before ++ (n, id, a) :: after) :
    Inv { sys with
      answers := before ++ after
      process := on_db_message id a sys.process } := by
  obtain ⟨⟨q, k, hthread, rfl, hasked⟩, rfl, rfl, hpend, hqs, hans⟩ := h.answer_inFlight ha
  refine ⟨?_, h.sent, fun id v hid hv => ?_⟩
  · exact turn_of_phase hthread hasked (.delivered (Dict.get_set_self _ _ _) ⟨hqs, rfl⟩ hans)
  · -- the entry that is written is the exempt one
    have hne : id ≠ q.id := by
      intro heq
      obtain rfl := heq
      exact hid (by show sys.thread.holds = _; rw [hthread]; rfl)
    rw [on_db_message, Dict.get_set, if_neg hne] at hv
    exact h.entries id v hid hv

/-- **Preserved by every move.** -/
theorem inv_move (h : Inv sys) (hm : Move sys sys') : Inv sys' := by
  -- a thread that holds no identifier has no exempt entry
  have hentries : sys.thread.holds = none → ∀ id v,
      sys.process.dbQuery_cache.get id = some v → AnswerOf sys id v :=
    fun hfree id v hv => h.entries id v (by rw [hfree]; simp) hv
  cases hm with
  | @operation o cont b process' hthread hop =>
    have hfree : sys.thread.holds = none := by rw [hthread]; rfl
    exact ⟨h.quiet hfree, h.sent, fun id v _ hv => hentries hfree id v (silent_entries hop hv)⟩
  | @draw q k hthread hnew =>
    have hfree : sys.thread.holds = none := by rw [hthread]; rfl
    exact ⟨h.quiet hfree, h.sent, fun id v _ hv => hentries hfree id v hv⟩
  | @reserve q k hthread =>
    have hfree : sys.thread.holds = none := by rw [hthread]; rfl
    refine ⟨⟨h.quiet hfree, Dict.get_set_self _ _ _⟩, h.sent, fun id v hid hv => ?_⟩
    have hne : id ≠ q.id := fun heq => hid (by rw [heq]; rfl)
    rw [on_db_message, Dict.get_set, if_neg hne] at hv
    exact hentries hfree id v hv
  | publish hthread => exact inv_publish h hthread
  | wake hthread hentry hready => exact inv_wake h hthread hentry hready
  | respond before a hq => exact inv_respond h a hq
  | @loseQuery before after n q hq =>
    obtain ⟨⟨k, hthread⟩, rfl, rfl, hpend, has, _, hasked⟩ := h.query_inFlight hq
    exact ⟨turn_of_phase hthread hasked (.lost hpend ⟨rfl, has⟩), h.sent, h.entries⟩
  | deliver before ha => exact inv_deliver h ha
  | @loseAnswer before after n id a ha =>
    obtain ⟨⟨q, k, hthread, rfl, hasked⟩, rfl, rfl, hpend, hqs, _⟩ := h.answer_inFlight ha
    exact ⟨turn_of_phase hthread hasked (.lost hpend ⟨hqs, rfl⟩), h.sent, h.entries⟩

/-- **Preserved by every step.** -/
theorem inv_step (h : Inv sys) (hs : Step sys sys') : Inv sys' := by
  -- between two requests the thread holds no identifier
  have hbetween : sys.thread.holds = none → ∀ thread : Thread, thread.holds = none →
      Turn { sys with thread := thread } → Inv { sys with thread := thread } :=
    fun hfree thread _ hturn =>
      ⟨hturn, h.sent, fun id v _ hv => h.entries id v (by rw [hfree]; simp) hv⟩
  cases hs with
  | accept p hthread =>
    have hfree : sys.thread.holds = none := by rw [hthread]; rfl
    exact hbetween hfree (.running p) rfl (h.quiet hfree)
  | done hthread =>
    have hfree : sys.thread.holds = none := by rw [hthread]; rfl
    exact hbetween hfree .idle rfl (h.quiet hfree)
  | raised hthread =>
    have hfree : sys.thread.holds = none := by rw [hthread]; rfl
    exact hbetween hfree .idle rfl (h.quiet hfree)
  | move hm => exact inv_move h hm

theorem inv_reachable (h : Reachable sys) : Inv sys := by
  induction h with
  | refl => exact inv_start
  | tail _ hs ih => exact inv_step ih hs

/--
**Database answers are never crossed.**

Whatever the interleaving, the entry a handler reads under an identifier is what the database
answered to the query that the last call of `send_DBquery` with that identifier sent.
-/
theorem answers_never_crossed {id : String} {cont : Option Value → Handler Unit} {v : Value}
    (h : Reachable sys) (hthread : sys.thread = .running (.call (.reply id) cont))
    (hread : sys.process.dbQuery_cache.get id = some v) :
    ∃ n q, sys.returned id = some n ∧ sys.asked[n]? = some q ∧ q.id = id ∧
      sys.answered n = some v :=
  (inv_reachable h).entries id v (by rw [hthread]; simp [Thread.holds]) hread

/-- The device `t0` leaves. -/
def leaving : Handler Unit := leave "t0" (.dict [("relay", .str "none")])

/-- Its only query. -/
def leavingQuery : Query := ⟨0, deviceQuery (.str "t0"), .delete⟩

/-- What is left of it, once the query is sent. -/
def leavingRest (id : String) : Handler Unit :=
  match leaving with
  | .call (.send _ _) cont => cont id
  | p => p

/-- The first answer of a run is read. -/
theorem answers_never_crossed_leave :
    ∃ sys : System, ∃ n q, sys.returned leavingQuery.id = some n ∧ sys.asked[n]? = some q ∧
      q.id = leavingQuery.id ∧ sys.answered n = some (.dict [("error", .int 0)]) := by
  have h1 : Reachable { System.start with thread := .running leaving } :=
    ReflTransGen.refl.tail (.accept leaving rfl)
  have hdraw : Move { System.start with thread := .running leaving }
      { System.start with thread := .drawn leavingQuery leavingRest } :=
    .draw rfl (by simp [System.start, start, Dict.keys])
  have h2 := (h1.tail (.move hdraw)).tail (.move (.reserve rfl))
  have h3 := h2.tail (.move (.publish rfl))
  have h4 := h3.tail (.move (.respond [] (.dict [("error", .int 0)]) rfl))
  have h5 := h4.tail (.move (.deliver [] rfl))
  have h6 := h5.tail (.move (.wake rfl rfl rfl))
  exact ⟨_, answers_never_crossed h6 rfl rfl⟩

/-! ## A handler between the two threads ends as it does alone -/

/-- The draws and the answers of the queries of a run, in order. -/
abbrev Script := List (BitVec 32 × Value)

/-- An environment that follows a script. -/
def scripted : Env Script where
  exchange script taken _ _ :=
    match script with
    | (n, a) :: script => if queryID n ∈ taken then none else some (n, a, script)
    | [] => none
  fresh := by
    intro script script' taken _ _ n a h
    split at h
    · split at h
      · exact absurd h (by simp)
      · rename_i hfree
        obtain ⟨rfl, _⟩ := Prod.mk.inj (Option.some.inj h)
        exact hfree
    · exact absurd h (by simp)

/-- The process, with the script of the queries it is still to send. -/
def State.before (s : State Unit) (script : Script) : State Script :=
  ⟨s.deviceID_cache, s.dbQuery_cache, s.stranded, s.published, script⟩

theorem perform_scripted {o : Act} {b : o.Res} {s s' : State Unit}
    (h : perform silent o s = some (b, s')) (script : Script) :
    perform scripted o (s.before script) = some (b, s'.before script) := by
  cases o with
  | send q t => exact absurd h (by simp [perform, silent])
  | _ =>
    obtain ⟨rfl, rfl⟩ := Prod.mk.inj (Option.some.inj h)
    rfl

theorem perform_scripted_send {q : Query} {a : Value} {s : State Unit}
    (hnew : q.id ∉ s.dbQuery_cache.keys) (hready : a.isStr "None" = false) (script : Script) :
    perform scripted (.send q.query q.topic) (s.before ((q.bits, a) :: script)) =
      some (q.id, (on_db_message q.id a s).before script) := by
  have hexchange : scripted.exchange (s.before ((q.bits, a) :: script)).world
      (s.before ((q.bits, a) :: script)).dbQuery_cache.keys q.query q.topic =
        some (q.bits, a, script) := if_neg hnew
  rw [perform, hexchange]
  simp only [hready]
  rfl

/-- What is left of a request, for a thread and the process it has reached: the program from
the operation it is at, and the process before that operation. -/
inductive Left : Thread → State Unit → Handler Unit → State Unit → Prop where
  | running {p : Handler Unit} {s : State Unit} : Left (.running p) s p s
  | drawn {q : Query} {k : String → Handler Unit} {s : State Unit} :
      q.id ∉ s.dbQuery_cache.keys →
      Left (.drawn q k) s (.call (.send q.query q.topic) k) s
  | reserved {q : Query} {k : String → Handler Unit} {s : State Unit} :
      q.id ∉ s.dbQuery_cache.keys →
      Left (.reserved q k) (on_db_message q.id (.str "None") s)
        (.call (.send q.query q.topic) k) s
  | waiting {n : Nat} {q : Query} {k : String → Handler Unit} {s : State Unit} (v : Value) :
      q.id ∉ s.dbQuery_cache.keys →
      Left (.waiting n q k) (on_db_message q.id v s) (.call (.send q.query q.topic) k) s

/-- One program ends, with a script before its own, as another does. -/
def Reduces (p : Handler Unit) (s : State Unit) (script : Script) (p' : Handler Unit)
    (s' : State Unit) : Prop :=
  ∀ rest, runs scripted p (s.before (script ++ rest)) = runs scripted p' (s'.before rest)

/-- **One move**: an operation of the program, an answer of the script, or nothing yet. -/
theorem move_reduces (h : Inv sys) (hm : Move sys sys') {p : Handler Unit} {s : State Unit}
    (hleft : Left sys.thread sys.process p s) :
    ∃ script p' s', Left sys'.thread sys'.process p' s' ∧ Reduces p s script p' s' := by
  have hnothing : ∀ {p : Handler Unit} {s : State Unit}, Reduces p s [] p s := fun _ => rfl
  generalize hprocess : sys.process = now at hleft
  cases hm with
  | @operation o cont b process' hthread hop =>
    rw [hthread] at hleft
    cases hleft
    refine ⟨[], _, _, .running, fun rest => ?_⟩
    rw [hprocess] at hop
    rw [List.nil_append, runs, Prog.exec, perform_scripted hop]
  | @draw q k hthread hnew =>
    rw [hthread] at hleft
    cases hleft
    rw [hprocess] at hnew
    exact ⟨[], _, _, by rw [hprocess]; exact .drawn hnew, hnothing⟩
  | @reserve q k hthread =>
    rw [hthread] at hleft
    cases hleft with
    | drawn hnew => exact ⟨[], _, _, by rw [hprocess]; exact .reserved hnew, hnothing⟩
  | @publish q k hthread =>
    rw [hthread] at hleft
    cases hleft with
    | reserved hnew => exact ⟨[], _, _, by rw [hprocess]; exact .waiting _ hnew, hnothing⟩
  | @wake n q k v hthread hentry hready =>
    rw [hthread] at hleft
    cases hleft with
    | waiting a hnew =>
      rw [hprocess, on_db_message, Dict.get_set_self] at hentry
      obtain rfl : a = v := Option.some.inj hentry
      refine ⟨[(q.bits, a)], _, _, .running, fun rest => ?_⟩
      rw [List.singleton_append, runs, Prog.exec, perform_scripted_send hnew hready, hprocess]
  | @respond before after n q a hq => exact ⟨[], p, s, by rw [hprocess]; exact hleft, hnothing⟩
  | @loseQuery before after n q hq => exact ⟨[], p, s, by rw [hprocess]; exact hleft, hnothing⟩
  | @deliver before after n id a ha =>
    obtain ⟨⟨q, k, hthread, rfl, _⟩, _⟩ := h.answer_inFlight ha
    rw [hthread] at hleft
    cases hleft with
    | waiting v hnew =>
      -- the answer replaces what the entry held
      have hset : on_db_message q.id a (on_db_message q.id v s) = on_db_message q.id a s := by
        simp [on_db_message]
      exact ⟨[], _, s, by rw [hprocess, hthread, hset]; exact .waiting a hnew, hnothing⟩
  | @loseAnswer before after n id a ha => exact ⟨[], p, s, by rw [hprocess]; exact hleft, hnothing⟩

theorem moves_reduce (h : Inv sys) (hms : ReflTransGen Move sys sys') {p : Handler Unit}
    {s : State Unit} (hleft : Left sys.thread sys.process p s) :
    Inv sys' ∧
      ∃ script p' s', Left sys'.thread sys'.process p' s' ∧ Reduces p s script p' s' := by
  induction hms with
  | refl => exact ⟨h, [], p, s, hleft, fun _ => rfl⟩
  -- the scripts of the moves, one behind the other
  | tail _ hm ih =>
    obtain ⟨hinv, script, p1, s1, hleft1, hred1⟩ := ih
    obtain ⟨script', p2, s2, hleft2, hred2⟩ := move_reduces hinv hm hleft1
    refine ⟨inv_move hinv hm, script ++ script', p2, s2, hleft2, fun rest => ?_⟩
    rw [List.append_assoc, hred1, hred2]

/--
**A handler that ends between the two threads ends as it does alone**, for some script of
draws and answers: the environment of `Process` misses no interleaving.
-/
theorem runs_of_moves (h : Reachable sys) {p : Handler Unit} {r : Except Exc Unit}
    (hstart : sys.thread = .running p) (hms : ReflTransGen Move sys sys')
    (hend : sys'.thread = .running (liftM r)) :
    ∃ script, runs scripted p (sys.process.before script) = some (r, sys'.process.before []) := by
  have hleft : Left sys.thread sys.process p sys.process := by rw [hstart]; exact .running
  obtain ⟨_, script, p', s', hleft', hred⟩ := moves_reduce (inv_reachable h) hms hleft
  rw [hend] at hleft'
  cases hleft'
  refine ⟨script, ?_⟩
  have hrun := hred []
  rw [List.append_nil] at hrun
  rw [hrun, runs, Prog.exec_lift]

end Versatile.FlexIDMnger
