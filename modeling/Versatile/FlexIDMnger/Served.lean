import Versatile.FlexIDMnger.Interleavings

/-!
# All requests are served, or one waits for an answer that is lost

`flexIDMnger.py` with a list of requests: one is taken up when the thread of the handlers is idle,
its moves come to an end (`move_less`), and then the next one's begin. So no interleaving of
finitely many requests goes on for ever (`serves_less`). Where it stops, all of them were handled,
or the thread waits for an answer that was not given, was dropped or could not be decoded, or that
is the text the loop waits to see replaced; or no identifier is left to draw.
-/

namespace Versatile.FlexIDMnger

open Py Relation

variable {limit : Nat} {rs : List Request}

/-! ## The requests that wait -/

/-- The manager at work: its system, and the requests that were not taken up yet. -/
structure Work where
  system : System
  pending : List Request

/-- One step of it. -/
inductive Serves (limit : Nat) (w : Work) : Work → Prop where
  | accept {r : Request} {rest : List Request} : w.pending = r :: rest →
      w.system.thread = .idle →
      Serves limit w ⟨{ w.system with thread := .running (handle limit r) }, rest⟩
  | done : w.system.thread = .running (.ret ()) →
      Serves limit w ⟨{ w.system with thread := .idle }, w.pending⟩
  /-- An exception leaves the handler. -/
  | raised {e : Exc} : w.system.thread = .running (.raise e) →
      Serves limit w ⟨{ w.system with thread := .idle }, w.pending⟩
  | move {sys' : System} : Move w.system sys' → Serves limit w ⟨sys', w.pending⟩

/-- Some interleaving of the requests leads here. -/
def Worked (limit : Nat) (rs : List Request) (w : Work) : Prop :=
  ReflTransGen (Serves limit) ⟨System.start, rs⟩ w

variable {w w' : Work}

/-- The requests that were taken up, and those that were not, are all of them. -/
theorem Worked.handles (h : Worked limit rs w) :
    ∃ taken, rs = taken ++ w.pending ∧ Handles limit taken w.system := by
  induction h with
  | refl => exact ⟨[], rfl, .start⟩
  | tail _ hs ih =>
    obtain ⟨taken, hrs, hhandles⟩ := ih
    cases hs with
    | @accept r rest hpending hidle =>
      exact ⟨taken ++ [r], by rw [hrs, hpending]; simp, .accept r hhandles hidle⟩
    | done hthread => exact ⟨taken, hrs, .done hhandles hthread⟩
    | raised hthread => exact ⟨taken, hrs, .raised hhandles hthread⟩
    | move hm => exact ⟨taken, hrs, .move hhandles hm⟩

/-- And wherever some of them lead, the others may still wait. -/
theorem worked_of_handles {sys : System} (h : Handles limit rs sys) (rest : List Request) :
    Worked limit (rs ++ rest) ⟨sys, rest⟩ := by
  induction h generalizing rest with
  | start => exact .refl
  | accept r _ hidle ih =>
    rw [List.append_assoc]
    exact (ih (r :: rest)).tail (.accept rfl hidle)
  | done _ hthread ih => exact (ih rest).tail (.done hthread)
  | raised _ hthread ih => exact (ih rest).tail (.raised hthread)
  | move _ hm ih => exact (ih rest).tail (.move hm)

theorem Worked.inv (h : Worked limit rs w) : Inv w.system := by
  obtain ⟨_, _, hhandles⟩ := h.handles
  exact inv_reachable hhandles.reachable

/-! ## A measure of what is left of all of them -/

/-- A request is being handled. -/
def Thread.busy : Thread → Nat
  | idle => 0
  | _ => 1

theorem busy_of_not_idle {t : Thread} (h : t ≠ .idle) : t.busy = 1 := by
  cases t with
  | idle => exact absurd rfl h
  | _ => rfl

/-- The requests that wait, whether one is being handled, and what is left of it. -/
def Work.rank (w : Work) : Nat × Nat × (Handler Unit × Nat × Nat) :=
  (w.pending.length, w.system.thread.busy, w.system.rank)

/-- Less is left of all of them. -/
abbrev LessWork : Nat × Nat × (Handler Unit × Nat × Nat) →
    Nat × Nat × (Handler Unit × Nat × Nat) → Prop :=
  Prod.Lex (· < ·) (Prod.Lex (· < ·) Less)

instance lessWork_wellFounded : IsWellFounded _ LessWork where
  wf := WellFounded.prod_lex Nat.lt_wfRel.wf
    (WellFounded.prod_lex Nat.lt_wfRel.wf less_wellFounded)

/-- **After every step less is left.** -/
theorem serves_less (hinv : Inv w.system) (hs : Serves limit w w') :
    LessWork w'.rank w.rank := by
  have hended : w.system.thread ≠ .idle →
      LessWork (Work.rank ⟨{ w.system with thread := .idle }, w.pending⟩) w.rank := by
    intro hbusy
    refine .right _ (.left _ _ ?_)
    rw [busy_of_not_idle hbusy]
    exact Nat.zero_lt_one
  cases hs with
  | accept hpending _ =>
    refine .left _ _ ?_
    rw [hpending]
    exact Nat.lt_succ_self _
  | done hthread => exact hended (by rw [hthread]; simp)
  | raised hthread => exact hended (by rw [hthread]; simp)
  | @move sys' hm =>
    -- a move neither begins nor ends a request
    obtain ⟨hbusy, hbusy'⟩ := move_busy hinv hm
    unfold Work.rank
    rw [busy_of_not_idle hbusy, busy_of_not_idle hbusy']
    exact .right _ (.right _ (move_less hm))

/-- No interleaving goes on for ever. -/
theorem serves_stop (h : Worked limit rs w) (run : Nat → Work) (hrun : run 0 = w) :
    ∃ n, ¬ Serves limit (run n) (run (n + 1)) := by
  by_contra hgoes
  have hstep : ∀ n, Serves limit (run n) (run (n + 1)) := by
    intro n
    by_contra hn
    exact hgoes ⟨n, hn⟩
  have hworked : ∀ n, Worked limit rs (run n) := by
    intro n
    induction n with
    | zero => rw [hrun]; exact h
    | succ n ih => exact ih.tail (hstep n)
  obtain ⟨n, hn⟩ := WellFounded.not_rel_apply_succ (r := LessWork) fun n => (run n).rank
  exact hn (serves_less (hworked n).inv (hstep n))

/-! ## Where it stops -/

/-- All requests were handled. -/
def Handled (w : Work) : Prop := w.pending = [] ∧ w.system.thread = .idle

/-- The entries of `dbQuery_cache`, with those that were left behind. -/
def State.entries {ω : Type} (s : State ω) : Nat := s.dbQuery_cache.length + s.stranded

theorem not_exhausted_of_entries {sys : System} (h : sys.process.entries < 2 ^ 32) :
    ¬ Exhausted sys := by
  refine not_exhausted_of_length ?_
  unfold State.entries at h
  omega

/-- The next request is taken up, or the one that is through makes room for it. -/
theorem serves_of_ended (hended : Ended w.system) :
    Handled w ∨ ∃ w', Serves limit w w' ∧ w'.system.queries = w.system.queries ∧
      w'.system.answers = w.system.answers := by
  rcases hended with hidle | ⟨result, hthread⟩
  · cases hpending : w.pending with
    | nil => exact Or.inl ⟨hpending, hidle⟩
    | cons r rest => exact Or.inr ⟨_, .accept hpending hidle, rfl, rfl⟩
  · cases result with
    | ok u => exact Or.inr ⟨_, .done hthread, rfl, rfl⟩
    | error e => exact Or.inr ⟨_, .raised hthread, rfl, rfl⟩

/-- A work whose threads cannot move takes a step only between two requests. -/
theorem serves_still (hstop : ∀ sys', ¬ Move w.system sys') (hs : Serves limit w w') :
    Ended w.system ∧ ¬ Handled w := by
  cases hs with
  | accept hpending hidle =>
    exact ⟨Or.inl hidle, fun h => by rw [h.1] at hpending; exact absurd hpending (by simp)⟩
  | done hthread =>
    exact ⟨Or.inr ⟨.ok (), hthread⟩,
      fun h => by rw [h.2] at hthread; exact absurd hthread (by simp)⟩
  | @raised e hthread =>
    exact ⟨Or.inr ⟨.error e, hthread⟩,
      fun h => by rw [h.2] at hthread; exact absurd hthread (by simp)⟩
  | move hm => exact absurd hm (hstop _)

/-- **Where no step is possible**: all requests were handled, or the answer to a query is lost. -/
theorem serves_stopped_iff (h : Worked limit rs w) (hroom : w.system.process.entries < 2 ^ 32) :
    (∀ w', ¬ Serves limit w w') ↔ Handled w ∨ Starved w.system := by
  refine ⟨fun hstop => ?_, fun hcase w' hs => ?_⟩
  · have hmoves : ∀ sys', ¬ Move w.system sys' := fun sys' hm => hstop _ (.move hm)
    rcases (stopped_iff h.inv).mp hmoves with hended | hstarved | hexhausted
    · rcases serves_of_ended hended with hhandled | ⟨w', hs, _⟩
      · exact Or.inl hhandled
      · exact absurd hs (hstop w')
    · exact Or.inr hstarved
    · exact absurd hexhausted (not_exhausted_of_entries hroom)
  · have hmoves : ∀ sys', ¬ Move w.system sys' := by
      refine (stopped_iff h.inv).mpr ?_
      rcases hcase with hhandled | hstarved
      · exact Or.inl (Or.inl hhandled.2)
      · exact Or.inr (Or.inl hstarved)
    obtain ⟨hended, hnot⟩ := serves_still hmoves hs
    rcases hcase with hhandled | ⟨n, q, k, hthread, _⟩
    · exact hnot hhandled
    · rcases hended with hidle | ⟨result, hthread'⟩
      · exact absurd (hthread.symm.trans hidle) (by simp)
      · exact absurd (hthread.symm.trans hthread') (by simp)

/--
**Every request ends, or waits for a lost answer.**

Whatever the requests, and the order in which the handlers, the broker, the database and the
receiving thread take their steps, they stop after finitely many; and where fewer than all
identifiers are taken they stop exactly when all requests were handled, or the handler waits with
nothing in flight that could end the wait.
-/
theorem requests_end (limit : Nat) (rs : List Request) :
    (∀ run : Nat → Work, run 0 = ⟨System.start, rs⟩ →
        ∃ n, ¬ Serves limit (run n) (run (n + 1))) ∧
      ∀ w, Worked limit rs w → w.system.process.entries < 2 ^ 32 →
        ((∀ w', ¬ Serves limit w w') ↔ Handled w ∨ Starved w.system) :=
  ⟨fun run => serves_stop .refl run, fun _ h hroom => serves_stopped_iff h hroom⟩

/-- A leave is handled, and then nothing is left to do. -/
theorem requests_end_leave :
    ∃ w, Worked 10 [leaveRequest] w ∧ Handled w ∧ ∀ w', ¬ Serves 10 w w' := by
  have hrun : ∃ t,
      run scripted 10 (start [(0, .dict [("error", .int 0)])]) [leaveRequest] = some t ∧
      t.dbQuery_cache = [] ∧ t.stranded = 0 := ⟨_, rfl, rfl, rfl⟩
  obtain ⟨t, hrun, hcache, hstranded⟩ := hrun
  obtain ⟨sys, hhandles, hidle, ht⟩ := handles_of_run [leaveRequest] hrun
  have hserved : Worked 10 [leaveRequest] ⟨sys, []⟩ := worked_of_handles hhandles []
  have hroom : sys.process.entries = 0 := by
    rw [← ht] at hcache hstranded
    exact Nat.add_eq_zero_iff.mpr ⟨congrArg List.length hcache, hstranded⟩
  refine ⟨⟨sys, []⟩, hserved, ⟨rfl, hidle⟩, ?_⟩
  refine ((requests_end 10 [leaveRequest]).2 _ hserved ?_).mpr (Or.inl ⟨rfl, hidle⟩)
  show sys.process.entries < 2 ^ 32
  rw [hroom]
  decide

/-! ## When nothing is lost -/

/-- One step that loses nothing. -/
def ServesKeeping (limit : Nat) (w w' : Work) : Prop :=
  Serves limit w w' ∧ ¬ Spoils w.system w'.system

/-- An interleaving that loses nothing leads here. -/
def WorkedKeeping (limit : Nat) (rs : List Request) (w : Work) : Prop :=
  ReflTransGen (ServesKeeping limit) ⟨System.start, rs⟩ w

theorem WorkedKeeping.served (h : WorkedKeeping limit rs w) : Worked limit rs w := by
  induction h with
  | refl => exact .refl
  | tail _ hs ih => exact ih.tail hs.1

/-- A step of the work is one of its system. -/
theorem Serves.step (hs : Serves limit w w') : Step w.system w'.system := by
  cases hs with
  | accept _ hidle => exact .accept _ hidle
  | done hthread => exact .done hthread
  | raised hthread => exact .raised hthread
  | move hm => exact .move hm

theorem WorkedKeeping.reachable (h : WorkedKeeping limit rs w) : KeepingReachable w.system := by
  induction h with
  | refl => exact .refl
  | tail _ hs ih => exact ih.tail ⟨hs.1.step, hs.2⟩

/-- What leaves the messages in flight alone when there are none loses nothing. -/
theorem not_spoils_of_quiet {sys sys' : System} (hquiet : Quiet sys)
    (hanswers : sys'.answers = sys.answers) : ¬ Spoils sys sys' := by
  intro hspoils
  rcases hspoils.left with ⟨_, hbusy⟩ | ⟨_, _, hbusy⟩ | ⟨n, id, a, hans, _⟩
  · exact hbusy hquiet.1
  · exact hbusy hquiet.2
  · rw [hanswers, hquiet.2] at hans
    exact absurd hans (by simp)

/--
**Without losses every request is handled.**

In an interleaving whose broker drops no message and whose database answers every query with a
text that decodes, and is not the one that marks a missing answer, the steps that lose nothing do
not run out before all requests were handled, as long as `dbQuery_cache` is not full; and there are
only finitely many.
-/
theorem requests_handled (h : WorkedKeeping limit rs w)
    (hroom : w.system.process.entries < 2 ^ 32) :
    (∀ run : Nat → Work, run 0 = w → ∃ n, ¬ Serves limit (run n) (run (n + 1))) ∧
      ((∀ w', Serves limit w w' → Spoils w.system w'.system) ↔ Handled w) := by
  have hinv := h.served.inv
  have hserved := allServed_reachable h.reachable
  refine ⟨serves_stop h.served, fun hstop => ?_, fun hhandled w' hs => ?_⟩
  · by_cases hmoves : ∃ sys', Move w.system sys'
    · obtain ⟨sys', hm, hkeeps⟩ := keeping_move hinv hserved hmoves
      exact absurd (hstop _ (.move hm)) hkeeps
    · have hnone : ∀ sys', ¬ Move w.system sys' := fun sys' hm => hmoves ⟨sys', hm⟩
      rcases (stopped_iff hinv).mp hnone with hended | hstarved | hexhausted
      · have hquiet : Quiet w.system := by
          rcases hended with hidle | ⟨result, hthread⟩
          · exact hinv.quiet (by rw [hidle]; rfl)
          · exact hinv.quiet (by rw [hthread]; rfl)
        rcases serves_of_ended hended with hhandled | ⟨w', hs, _, hanswers⟩
        · exact hhandled
        · exact absurd (hstop w' hs) (not_spoils_of_quiet hquiet hanswers)
      · exact absurd hserved (starved_not_served hstarved)
      · exact absurd hexhausted (not_exhausted_of_entries hroom)
  · have hstop := (serves_stopped_iff h.served hroom).mpr (Or.inl hhandled)
    exact absurd hs (hstop w')

/-- The query of a leave is on its way, and something can be done that does not lose it. -/
theorem requests_handled_leave :
    ∃ w, WorkedKeeping 10 [leaveRequest] w ∧ w.system.queries = [(0, leavingQuery)] ∧
      ∃ w', Serves 10 w w' ∧ ¬ Spoils w.system w'.system := by
  have hquiet : Quiet System.start := ⟨rfl, rfl⟩
  have haccept : Serves 10 ⟨System.start, [leaveRequest]⟩
      ⟨{ System.start with thread := .running leaving }, []⟩ :=
    @Serves.accept 10 ⟨System.start, [leaveRequest]⟩ leaveRequest [] rfl rfl
  have h1 : WorkedKeeping 10 [leaveRequest]
      ⟨{ System.start with thread := .running leaving }, []⟩ :=
    ReflTransGen.refl.tail ⟨haccept, not_spoils_of_quiet hquiet rfl⟩
  have h2 : WorkedKeeping 10 [leaveRequest]
      ⟨{ System.start with thread := .drawn leavingQuery leavingRest }, []⟩ :=
    h1.tail ⟨.move (.draw rfl (by simp [System.start, start, Dict.keys])),
      not_spoils_of_quiet hquiet rfl⟩
  have h3 := h2.tail ⟨.move (.reserve rfl), not_spoils_of_quiet hquiet rfl⟩
  have h4 := h3.tail ⟨.move (.publish rfl), not_spoils_of_quiet hquiet rfl⟩
  refine ⟨_, h4, rfl, ?_⟩
  have hiff := (requests_handled h4 (by decide)).2
  by_contra hnone
  have hspoil := fun w' hs => not_not.mp fun hkeeps => hnone ⟨w', hs, hkeeps⟩
  exact absurd (hiff.mp hspoil).2 (by simp)

end Versatile.FlexIDMnger
