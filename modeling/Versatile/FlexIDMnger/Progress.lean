import Mathlib.Data.Fintype.Card
import Mathlib.Order.WellFounded
import Versatile.FlexIDMnger.Answers
import Versatile.Py.Hex

/-!
# Every move brings a request nearer to its end

The two threads of `flexIDMnger.py` again, and how long a request can keep them busy. A move
takes the handler to what is left of its program, or brings `send_DBquery` nearer to its wait,
or takes a message out of flight; so the moves for one request come to an end. Where none
of the threads can move, the handler is done, or its thread is starved: it waits, and nothing
is in flight that could end the wait. One other case is left, a `dbQuery_cache` that holds every
identifier there is, where `send_DBquery` draws one after the other.
-/

namespace Versatile.FlexIDMnger

open Py Relation

variable {sys sys' : System}

/-! ## A measure of what is left -/

/-- The program the thread of the handlers has still to run, from the operation it is at. -/
def Thread.program : Thread → Handler Unit
  | idle => .ret ()
  | running p => p
  | drawn q k => .call (.send q.query q.topic) k
  | reserved q k => .call (.send q.query q.topic) k
  | waiting _ q k => .call (.send q.query q.topic) k

/-- How far `send_DBquery` is from its wait. -/
def Thread.stage : Thread → Nat
  | idle => 0
  | running _ => 3
  | drawn _ _ => 2
  | reserved _ _ => 1
  | waiting _ _ _ => 0

/-- The messages in flight, where a query counts for its answer too. -/
def System.inFlight (sys : System) : Nat := 2 * sys.queries.length + sys.answers.length

/-- The program, the stage and the messages, in this order of weight. -/
def System.rank (sys : System) : Handler Unit × Nat × Nat :=
  (sys.thread.program, sys.thread.stage, sys.inFlight)

/-- Less is left. -/
abbrev Less : Handler Unit × Nat × Nat → Handler Unit × Nat × Nat → Prop :=
  Prod.Lex Prog.Next (Prod.Lex (· < ·) (· < ·))

theorem less_wellFounded : WellFounded Less :=
  WellFounded.prod_lex Prog.next_wellFounded (WellFounded.prod_lex Nat.lt_wfRel.wf Nat.lt_wfRel.wf)

/-- The handler goes on. -/
theorem less_next {sys sys' : System} (h : Prog.Next sys'.thread.program sys.thread.program) :
    Less sys'.rank sys.rank := .left _ _ h

/-- `send_DBquery` goes on. -/
theorem less_stage {sys sys' : System} (hp : sys'.thread.program = sys.thread.program)
    (h : sys'.thread.stage < sys.thread.stage) : Less sys'.rank sys.rank := by
  unfold System.rank
  rw [hp]
  exact .right _ (.left _ _ h)

/-- A message is taken out of flight. -/
theorem less_inFlight {sys sys' : System} (ht : sys'.thread = sys.thread)
    (h : sys'.inFlight < sys.inFlight) : Less sys'.rank sys.rank := by
  unfold System.rank
  rw [ht]
  exact .right _ (.right _ h)

/-- **After every move less is left.** -/
theorem move_less (hm : Move sys sys') : Less sys'.rank sys.rank := by
  cases hm with
  | @operation o cont b process' hthread _ =>
    refine less_next ?_
    rw [hthread]
    exact .call o cont b
  | draw hthread _ =>
    exact less_stage (by rw [hthread]; rfl) (by rw [hthread]; exact Nat.lt_succ_self _)
  | reserve hthread =>
    exact less_stage (by rw [hthread]; rfl) (by rw [hthread]; exact Nat.lt_succ_self _)
  | publish hthread =>
    exact less_stage (by rw [hthread]; rfl) (by rw [hthread]; exact Nat.lt_succ_self _)
  | @wake n q k v hthread _ _ =>
    refine less_next ?_
    rw [hthread]
    exact @Prog.Next.call Act Act.Res Exc Unit (.send q.query q.topic) k q.id
  | respond before a hq =>
    refine less_inFlight rfl ?_
    unfold System.inFlight
    rw [hq]
    simp only [List.length_append, List.length_cons]
    omega
  | loseQuery before hq =>
    refine less_inFlight rfl ?_
    unfold System.inFlight
    rw [hq]
    simp only [List.length_append, List.length_cons]
    omega
  | deliver before ha =>
    refine less_inFlight rfl ?_
    unfold System.inFlight
    rw [ha]
    simp only [List.length_append, List.length_cons]
    omega
  | loseAnswer before ha =>
    refine less_inFlight rfl ?_
    unfold System.inFlight
    rw [ha]
    simp only [List.length_append, List.length_cons]
    omega

/-! ## Where the threads stop -/

/-- No request is being handled any more. -/
def Ended (sys : System) : Prop :=
  sys.thread = .idle ∨ ∃ r : Except Exc Unit, sys.thread = .running (liftM r)

/-- The thread waits, no message is in flight, and its entry is still `"None"`. -/
def Starved (sys : System) : Prop :=
  ∃ n q k, sys.thread = .waiting n q k ∧ Quiet sys ∧ Pending sys q.id

/-- A query is to be sent, and every identifier is taken. -/
def Exhausted (sys : System) : Prop :=
  (∃ q t k, sys.thread = .running (.call (.send q t) k)) ∧
    ∀ n : BitVec 32, queryID n ∈ sys.process.dbQuery_cache.keys

/-- An operation that is not a query comes back. -/
theorem silent_total {o : Act} (h : ∀ q t, o ≠ .send q t) (s : State Unit) :
    ∃ b s', perform silent o s = some (b, s') := by
  cases o with
  | send q t => exact absurd rfl (h q t)
  | _ => exact ⟨_, _, rfl⟩

/-- A handler at an operation can move, unless it is exhausted. -/
theorem call_moves {o : Act} {cont : o.Res → Handler Unit}
    (hthread : sys.thread = .running (.call o cont)) : (∃ sys', Move sys sys') ∨ Exhausted sys := by
  by_cases hsend : ∃ q t, o = .send q t
  · obtain ⟨q, t, rfl⟩ := hsend
    by_cases hfree : ∃ n : BitVec 32, queryID n ∉ sys.process.dbQuery_cache.keys
    · obtain ⟨n, hn⟩ := hfree
      exact Or.inl ⟨_, .draw (q := ⟨n, q, t⟩) hthread hn⟩
    · refine Or.inr ⟨⟨q, t, cont, hthread⟩, fun n => ?_⟩
      by_contra hn
      exact hfree ⟨n, hn⟩
  · have hother : ∀ q t, o ≠ .send q t := fun q t heq => hsend ⟨q, t, heq⟩
    obtain ⟨b, s', hop⟩ := silent_total hother sys.process
    exact Or.inl ⟨_, .operation hthread hop⟩

/-- A thread that waits can be helped on, unless it is starved. -/
theorem waiting_moves (h : Inv sys) {n : Nat} {q : Query} {k : String → Handler Unit}
    (hthread : sys.thread = .waiting n q k) : (∃ sys', Move sys sys') ∨ Starved sys := by
  have hturn := h.turn
  unfold Turn at hturn
  rw [hthread] at hturn
  obtain ⟨_, hphase⟩ := hturn
  cases hphase with
  | asked _ hqs _ _ => exact Or.inl ⟨_, .respond [] .none hqs⟩
  | answered _ _ has _ => exact Or.inl ⟨_, .deliver [] has⟩
  | lost hpend hquiet => exact Or.inr ⟨n, q, k, hthread, hquiet, hpend⟩
  | @delivered a hentry hquiet _ =>
    by_cases hready : a.isStr "None" = true
    · obtain rfl := Value.isStr_eq_true.mp hready
      exact Or.inr ⟨n, q, k, hthread, hquiet, hentry⟩
    · exact Or.inl ⟨_, .wake hthread hentry (Bool.not_eq_true _ ▸ hready)⟩

/-- Someone can move, or the threads have stopped in one of three ways. -/
theorem moves_or_stopped (h : Inv sys) :
    (∃ sys', Move sys sys') ∨ Ended sys ∨ Starved sys ∨ Exhausted sys := by
  cases hthread : sys.thread with
  | idle => exact Or.inr (Or.inl (Or.inl hthread))
  | running p =>
    cases p with
    | ret a => exact Or.inr (Or.inl (Or.inr ⟨.ok a, hthread⟩))
    | raise e => exact Or.inr (Or.inl (Or.inr ⟨.error e, hthread⟩))
    | call o cont =>
      rcases call_moves hthread with hmove | hexhausted
      · exact Or.inl hmove
      · exact Or.inr (Or.inr (Or.inr hexhausted))
  | drawn q k => exact Or.inl ⟨_, .reserve hthread⟩
  | reserved q k => exact Or.inl ⟨_, .publish hthread⟩
  | waiting n q k =>
    rcases waiting_moves h hthread with hmove | hstarved
    · exact Or.inl hmove
    · exact Or.inr (Or.inr (Or.inl hstarved))

/-- A program can go on alone: a query needs an identifier that is not taken. -/
def GoesOn (taken : List String) : Handler Unit → Prop
  | .ret _ => False
  | .raise _ => False
  | .call o _ => ∀ q t, o = .send q t → ∃ n : BitVec 32, queryID n ∉ taken

/-- The thread of the handlers can move by itself. -/
def Ready (sys : System) : Prop :=
  match sys.thread with
  | .idle => False
  | .running p => GoesOn sys.process.dbQuery_cache.keys p
  | .drawn _ _ => True
  | .reserved _ _ => True
  | .waiting _ q _ =>
    ∃ v, sys.process.dbQuery_cache.get q.id = some v ∧ v.isStr "None" = false

/-- With no message in flight, only the thread of the handlers moves. -/
theorem ready_of_quiet (h : Quiet sys) (hm : Move sys sys') : Ready sys := by
  unfold Ready
  cases hm with
  | @operation o cont b process' hthread hop =>
    rw [hthread]
    intro q t heq
    obtain rfl := heq
    exact absurd hop (by simp [perform, silent])
  | @draw q k hthread hnew =>
    rw [hthread]
    exact fun _ _ _ => ⟨q.bits, hnew⟩
  | reserve hthread => rw [hthread]; trivial
  | publish hthread => rw [hthread]; trivial
  | wake hthread hentry hready => rw [hthread]; exact ⟨_, hentry, hready⟩
  | respond before a hq => exact absurd (h.1.symm.trans hq) (by simp)
  | loseQuery before hq => exact absurd (h.1.symm.trans hq) (by simp)
  | deliver before ha => exact absurd (h.2.symm.trans ha) (by simp)
  | loseAnswer before ha => exact absurd (h.2.symm.trans ha) (by simp)

theorem ended_not_ready (h : Ended sys) : ¬ Ready sys := by
  intro hready
  unfold Ready at hready
  rcases h with hidle | ⟨r, hr⟩
  · rw [hidle] at hready
    exact hready
  · rw [hr] at hready
    cases r <;> exact hready

theorem starved_not_ready (h : Starved sys) : ¬ Ready sys := by
  intro hready
  obtain ⟨n, q, k, hthread, _, hpend⟩ := h
  unfold Ready at hready
  rw [hthread] at hready
  obtain ⟨v, hentry, hnot⟩ := hready
  obtain rfl := Option.some.inj (hentry.symm.trans hpend)
  exact absurd hnot (by decide)

theorem exhausted_not_ready (h : Exhausted sys) : ¬ Ready sys := by
  intro hready
  obtain ⟨⟨q, t, k, hthread⟩, htaken⟩ := h
  unfold Ready at hready
  rw [hthread] at hready
  obtain ⟨n, hn⟩ := hready q t rfl
  exact hn (htaken n)

/-- **Where no move is possible**: the request is done, or its answer is lost, or no identifier is
left for its next query. -/
theorem stopped_iff (h : Inv sys) :
    (∀ sys', ¬ Move sys sys') ↔ Ended sys ∨ Starved sys ∨ Exhausted sys := by
  refine ⟨?_, ?_⟩
  · intro hstop
    rcases moves_or_stopped h with ⟨sys', hm⟩ | hcase
    · exact absurd hm (hstop sys')
    · exact hcase
  · intro hcase sys' hm
    have hquiet : Quiet sys := by
      rcases hcase with (hidle | ⟨r, hr⟩) | ⟨_, _, _, _, hquiet, _⟩ | ⟨⟨_, _, _, hcall⟩, _⟩
      · exact h.quiet (by rw [hidle]; rfl)
      · exact h.quiet (by rw [hr]; rfl)
      · exact hquiet
      · exact h.quiet (by rw [hcall]; rfl)
    have hready := ready_of_quiet hquiet hm
    rcases hcase with hended | hstarved | hexhausted
    · exact ended_not_ready hended hready
    · exact starved_not_ready hstarved hready
    · exact exhausted_not_ready hexhausted hready

/-! ## When nothing is lost -/

/-- The moves after which an answer never comes, or cannot be told from the entry that waits. -/
inductive Spoils (sys : System) : System → Prop where
  | loseQuery (before : List (Nat × Query)) {after : List (Nat × Query)} {n : Nat} {q : Query} :
      sys.queries = before ++ (n, q) :: after →
      Spoils sys { sys with queries := before ++ after }
  | loseAnswer (before : List (Nat × String × Value)) {after : List (Nat × String × Value)}
      {n : Nat} {id : String} {a : Value} :
      sys.answers = before ++ (n, id, a) :: after →
      Spoils sys { sys with answers := before ++ after }
  | answerNone (before : List (Nat × Query)) {after : List (Nat × Query)} {n : Nat} {q : Query}
      {a : Value} :
      sys.queries = before ++ (n, q) :: after → a.isStr "None" = true →
      Spoils sys { sys with
        queries := before ++ after
        answers := (n, q.id, a) :: sys.answers
        answered := Function.update sys.answered n (some a) }

/-- One step that loses nothing. -/
def Keeping (sys sys' : System) : Prop := Step sys sys' ∧ ¬ Spoils sys sys'

/-- An interleaving that loses nothing leads here. -/
def KeepingReachable (sys : System) : Prop := ReflTransGen Keeping System.start sys

theorem KeepingReachable.reachable (h : KeepingReachable sys) : Reachable sys := by
  induction h with
  | refl => exact .refl
  | tail _ hs ih => exact ih.tail hs.1

/-- An answer that ends the wait is still to come, or is there. -/
inductive Served (sys : System) (n : Nat) (q : Query) : Prop where
  | asked : sys.queries = [(n, q)] → Served sys n q
  | answered {a : Value} : sys.answers = [(n, q.id, a)] → a.isStr "None" = false → Served sys n q
  | delivered {a : Value} : sys.process.dbQuery_cache.get q.id = some a →
      a.isStr "None" = false → Served sys n q

/-- Every wait is served. -/
def AllServed (sys : System) : Prop :=
  ∀ n q k, sys.thread = .waiting n q k → Served sys n q

/-- A thread that starves is not served. -/
theorem starved_not_served (h : Starved sys) : ¬ AllServed sys := by
  intro hserved
  obtain ⟨n, q, k, hthread, hquiet, hpend⟩ := h
  cases hserved n q k hthread with
  | asked hqs => exact absurd (hquiet.1.symm.trans hqs) (by simp)
  | answered has _ => exact absurd (hquiet.2.symm.trans has) (by simp)
  | delivered hentry hnot =>
    obtain rfl := Option.some.inj (hentry.symm.trans hpend)
    exact absurd hnot (by decide)

/-- **A move that loses nothing keeps every wait served.** -/
theorem allServed_move (h : Inv sys) (hserved : AllServed sys) (hm : Move sys sys')
    (hkeeps : ¬ Spoils sys sys') : AllServed sys' := by
  intro n q k hthread'
  cases hm with
  | operation => exact absurd hthread' (by simp)
  | draw => exact absurd hthread' (by simp)
  | reserve => exact absurd hthread' (by simp)
  | @publish q' k' hthread =>
    -- the queue was empty, so the new query is the only one
    have hturn := h.turn
    unfold Turn at hturn
    rw [hthread] at hturn
    obtain ⟨rfl, rfl, _⟩ : sys.asked.length = n ∧ q' = q ∧ k' = k := by simpa using hthread'
    refine .asked ?_
    show (sys.asked.length, q') :: sys.queries = _
    rw [hturn.1.1]
  | wake => exact absurd hthread' (by simp)
  | @respond before after m q' a hq =>
    obtain ⟨⟨k', hthread⟩, rfl, rfl, _, has, _, _⟩ := h.query_inFlight hq
    obtain ⟨rfl, rfl, _⟩ : m = n ∧ q' = q ∧ k' = k := by simpa using hthread.symm.trans hthread'
    have hnot : a.isStr "None" = false := by
      by_contra hnone
      exact hkeeps (.answerNone [] hq (Bool.not_eq_false _ ▸ hnone))
    refine .answered (a := a) ?_ hnot
    show (m, q'.id, a) :: sys.answers = _
    rw [has]
  | @loseQuery before after m q' hq => exact absurd (.loseQuery before hq) hkeeps
  | @deliver before after m id a ha =>
    obtain ⟨⟨q', k', hthread, rfl, _⟩, rfl, rfl, hpend, hqs, _⟩ := h.answer_inFlight ha
    obtain ⟨rfl, rfl, _⟩ : m = n ∧ q' = q ∧ k' = k := by simpa using hthread.symm.trans hthread'
    refine .delivered (Dict.get_set_self _ _ _) ?_
    cases hserved m q' k' hthread with
    | asked hqs' => exact absurd (hqs.symm.trans hqs') (by simp)
    | answered has hnot =>
      obtain rfl : a = _ := by simpa using ha.symm.trans has
      exact hnot
    | delivered hentry hnot =>
      obtain rfl := Option.some.inj (hentry.symm.trans hpend)
      exact absurd hnot (by decide)
  | @loseAnswer before after m id a ha => exact absurd (.loseAnswer before ha) hkeeps

theorem allServed_step (h : Inv sys) (hserved : AllServed sys) (hs : Keeping sys sys') :
    AllServed sys' := by
  obtain ⟨hstep, hkeeps⟩ := hs
  cases hstep with
  | accept p _ => exact fun _ _ _ hthread' => absurd hthread' (by simp)
  | done _ => exact fun _ _ _ hthread' => absurd hthread' (by simp)
  | raised _ => exact fun _ _ _ hthread' => absurd hthread' (by simp)
  | move hm => exact allServed_move h hserved hm hkeeps

theorem allServed_reachable (h : KeepingReachable sys) : AllServed sys := by
  induction h with
  | refl => exact fun _ _ _ hthread => absurd hthread (by simp [System.start])
  | tail hpre hs ih => exact allServed_step (inv_reachable (KeepingReachable.reachable hpre)) ih hs

/-- What a spoiled move leaves in flight. -/
theorem Spoils.left (h : Spoils sys sys') :
    (sys'.answers = sys.answers ∧ sys.queries ≠ []) ∨
      (sys'.process = sys.process ∧ sys'.queries = sys.queries ∧ sys.answers ≠ []) ∨
      ∃ n id a, sys'.answers = (n, id, a) :: sys.answers ∧ a.isStr "None" = true := by
  cases h with
  | loseQuery before hq => exact Or.inl ⟨rfl, by rw [hq]; simp⟩
  | loseAnswer before ha => exact Or.inr (Or.inl ⟨rfl, rfl, by rw [ha]; simp⟩)
  | answerNone before _ hnone => exact Or.inr (Or.inr ⟨_, _, _, rfl, hnone⟩)

/-- The database can answer the query in flight with anything but `"None"`. -/
theorem respond_keeps {n : Nat} {q : Query} (hqs : sys.queries = [(n, q)])
    (has : sys.answers = []) : ∃ sys', Move sys sys' ∧ ¬ Spoils sys sys' := by
  refine ⟨_, .respond [] .none hqs, fun hspoils => ?_⟩
  rcases hspoils.left with ⟨hans, _⟩ | ⟨_, hqueries, _⟩ | ⟨m, id, a, hans, hnone⟩
  · exact absurd (hans.trans has) (by simp)
  · exact absurd (hqueries.trans hqs) (by simp)
  · have hhead : (n, q.id, Value.none) = (m, id, a) := (List.cons.inj hans).1
    obtain ⟨_, _, rfl⟩ : n = m ∧ q.id = id ∧ Value.none = a := by simpa using hhead
    exact absurd hnone (by simp [Value.isStr])

/-- The answer in flight can be received. -/
theorem deliver_keeps {n : Nat} {q : Query} {a : Value} (hpend : Pending sys q.id)
    (hqs : sys.queries = []) (has : sys.answers = [(n, q.id, a)])
    (hnot : a.isStr "None" = false) : ∃ sys', Move sys sys' ∧ ¬ Spoils sys sys' := by
  refine ⟨_, .deliver [] has, fun hspoils => ?_⟩
  rcases hspoils.left with ⟨_, hbusy⟩ | ⟨hprocess, _⟩ | ⟨m, id, a', hans, _⟩
  · exact hbusy hqs
  · -- the entry would still be `"None"`
    have hentry : (on_db_message q.id a sys.process).dbQuery_cache.get q.id = some a :=
      Dict.get_set_self _ _ _
    have hprocess' : on_db_message q.id a sys.process = sys.process := hprocess
    rw [hprocess'] at hentry
    obtain rfl := Option.some.inj (hentry.symm.trans hpend)
    exact absurd hnot (by decide)
  · exact absurd hans (by simp)

/-- **What can move can move without losing anything.** -/
theorem keeping_move (h : Inv sys) (hserved : AllServed sys) (hmoves : ∃ sys', Move sys sys') :
    ∃ sys', Move sys sys' ∧ ¬ Spoils sys sys' := by
  by_cases hquiet : Quiet sys
  · obtain ⟨sys', hm⟩ := hmoves
    refine ⟨sys', hm, fun hspoils => ?_⟩
    cases hspoils with
    | loseQuery before hq => exact absurd (hquiet.1.symm.trans hq) (by simp)
    | loseAnswer before ha => exact absurd (hquiet.2.symm.trans ha) (by simp)
    | answerNone before hq _ => exact absurd (hquiet.1.symm.trans hq) (by simp)
  · -- a message is in flight, so the thread waits for the answer
    have hturn := h.turn
    unfold Turn at hturn
    split at hturn
    · exact absurd hturn.1 hquiet
    · rename_i n q k hthread
      obtain ⟨_, hphase⟩ := hturn
      cases hphase with
      | asked _ hqs has _ => exact respond_keeps hqs has
      | @answered a hpend hqs has _ =>
        refine deliver_keeps hpend hqs has ?_
        cases hserved n q k hthread with
        | asked hqs' => exact absurd (hqs.symm.trans hqs') (by simp)
        | answered has' hnot =>
          obtain rfl : a = _ := by simpa using has.symm.trans has'
          exact hnot
        | delivered hentry hnot =>
          obtain rfl := Option.some.inj (hentry.symm.trans hpend)
          exact absurd hnot (by decide)
      | lost _ hq => exact absurd hq hquiet
      | delivered _ hq _ => exact absurd hq hquiet
    · exact absurd hturn hquiet

/-- Different bits give different identifiers. -/
theorem queryID_injective : Function.Injective queryID := by
  intro n m h
  have hchars := congrArg String.toList h
  simp only [queryID, String.toList_append, String.toList_ofList] at hchars
  have hhex : hex 8 n.toNat = hex 8 m.toNat := List.append_cancel_left hchars
  have hn : n.toNat < 16 ^ 8 := n.isLt
  have hm : m.toNat < 16 ^ 8 := m.isLt
  exact BitVec.eq_of_toNat_eq (hex_injective (by omega) hn hm hhex)

/-- With fewer entries than identifiers, one is free. -/
theorem not_exhausted_of_length (h : sys.process.dbQuery_cache.length < 2 ^ 32) :
    ¬ Exhausted sys := by
  intro hex
  obtain ⟨_, htaken⟩ := hex
  have hinj : Function.Injective fun i : Fin (2 ^ 32) => queryID (BitVec.ofFin i) :=
    fun i j hij => BitVec.ofFin.inj (queryID_injective hij)
  have hsub : Finset.univ.image (fun i : Fin (2 ^ 32) => queryID (BitVec.ofFin i)) ⊆
      sys.process.dbQuery_cache.keys.toFinset := by
    intro id hid
    obtain ⟨i, _, rfl⟩ := Finset.mem_image.mp hid
    exact List.mem_toFinset.mpr (htaken _)
  have hcard := Finset.card_le_card hsub
  rw [Finset.card_image_of_injective _ hinj, Finset.card_univ, Fintype.card_fin] at hcard
  have hlist := List.toFinset_card_le sys.process.dbQuery_cache.keys
  have hkeys : sys.process.dbQuery_cache.keys.length = sys.process.dbQuery_cache.length :=
    List.length_map ..
  omega

end Versatile.FlexIDMnger
