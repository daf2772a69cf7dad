import Versatile.ResolverPer.Splitting

/-!
# All or nothing

A message that is answered with error 1 should have left what is stored as it was. That holds for
every message except the updates that split: those leave rows behind, or services with one more
text, when the database fails after the first column was added.
-/

namespace Versatile.ResolverPer

open Py Diversity

/-- The handler answers with error 1: by an event, or by what it returns. -/
def AnswersError (m : Message) (out : Except Exc Value × State) : Prop :=
  (∃ payload ∈ acks m out.2.log, errorOf payload = some 1) ∨
    ∃ v, out.1 = .ok v ∧ errorOf v = some 1

/-- Whatever the database fails, an answer with error 1 means that nothing stored changed. -/
def AllOrNothing (srv : Server) (py : Interpreter) (m : Message) (js : String) (w : World) :
    Prop :=
  ∀ faults, AnswersError m (handle srv faults py m js w) →
    (handle srv faults py m js w).2.world.stored = w.stored

variable {srv : Server} {m : Message} {w : World} {out : Except Exc Value × State}

/-- A message that is settled is all or nothing. -/
theorem Settled.stored_of_error (h : Settled srv m (start w) out) (herror : AnswersError m out) :
    out.2.world.stored = w.stored := by
  cases h with
  | failed hkept _ => exact hkept.stored
  | @done s' others payload hkept hacks hzero =>
    -- its only answer carries error 0
    have hlog : s'.log = [] := hkept.log
    have honly : acks m ((s'.commit srv).log ++ others ++ [.emitted m.ack payload]) =
        [payload] := by
      simp only [State.commit, hlog, acks_append, acks_committed, hacks, acks_answer,
        List.nil_append]
    rcases herror with ⟨answer, hmem, hone⟩ | ⟨v, hv, hone⟩
    · rw [honly, List.mem_singleton] at hmem
      rw [hmem, hzero] at hone
      exact absurd hone (by decide)
    · obtain rfl := Except.ok.inj hv
      exact absurd hone (by decide)

/-- An update that splits is not all or nothing. -/
theorem SplitsUpdate.not_kept {py : Interpreter} {js : String} {content : Value}
    (hjs : py.loads js = .ok content) (h : SplitsUpdate srv w content) : ∃ faults,
      AnswersError .Update (handle srv faults py .Update js w) ∧
        (handle srv faults py .Update js w).2.world.stored ≠ w.stored := by
  obtain ⟨faults, s', hrun, hstored⟩ := update_torn srv h
  have hhandle : handle srv faults py .Update js w =
      (.ok .none, s'.shown (.emitted "Uack" (answerOf 1))) := by
    rw [handle_eq, hjs]
    exact hrun
  refine ⟨faults, ?_, ?_⟩
  · rw [hhandle]
    refine Or.inl ⟨answerOf 1, ?_, rfl⟩
    simp [State.shown, acks, Message.ack]
  · rw [hhandle]
    exact hstored

/-- A database with one device and no attribute columns. -/
def oneDevice : World := ⟨[(.Device, [("deviceID", "1")])], 0, 0, 0⟩

/-- An update with a service that widens the table behind one without attributes. -/
def splittingUpdate : String :=
  "\x7b\"deviceID\": 1, \"services\": [\x7b\"serviceType\": \"Web\", \"attributes\": []\x7d, " ++
    "\x7b\"serviceType\": \"Disk\", \"attributes\": [\"x\"]\x7d]\x7d"

end Versatile.ResolverPer
