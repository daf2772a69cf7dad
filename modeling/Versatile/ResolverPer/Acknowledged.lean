import Versatile.ResolverPer.Splitting

/-!
# One acknowledgement for each message

A handler should emit exactly one event of its ack type, with error 0 exactly if it committed
something, and raise nothing. A message that cannot be decoded raises outside the `try` block; an
update of a device that is not registered returns its error and emits nothing; an update that
splits can commit rows and then answer with error 1. Every other message is acknowledged once,
whatever the database does.
-/

namespace Versatile.ResolverPer

open Py Diversity

/-- The handler returned, and emitted one answer, with error 0 exactly if it committed. -/
structure Acknowledged (m : Message) (w : World) (out : Except Exc Value × State) : Prop where
  returned : ∃ v, out.1 = .ok v
  once : ∃ payload, acks m out.2.log = [payload] ∧
    (errorOf payload = some 0 ↔ Committed w out.2)

/-- The message can be acknowledged whatever the database does: it is decoded, and if it is an
update, the device it names is registered and its services do not split it. -/
def Acknowledgeable (srv : Server) (py : Interpreter) (m : Message) (js : String) (w : World) :
    Prop :=
  ∃ content, py.loads js = .ok content ∧ (m = .Update →
    (∀ deviceID, deviceIDOf content = .ok deviceID → Registered srv w deviceID) ∧
      ¬ SplitsUpdate srv w content)

variable {srv : Server} {m : Message} {w : World} {out : Except Exc Value × State}

/-- A message that is settled is acknowledged once. -/
theorem Settled.acknowledged (h : Settled srv m (start w) out) : Acknowledged m w out := by
  cases h with
  | @failed s' payload hkept hone =>
    have hlog : s'.log = [] := hkept.log
    refine ⟨⟨_, rfl⟩, payload, ?_, ?_⟩
    · simp only [State.shown, hlog, List.nil_append, acks_answer]
    · rw [hone]
      refine iff_of_false (by decide) ?_
      intro hcase
      rcases hcase with ⟨changes, hmem⟩ | hstored
      · simp [State.shown, hlog] at hmem
      · exact hstored hkept.stored
  | @done s' others payload hkept hacks hzero =>
    have hlog : s'.log = [] := hkept.log
    refine ⟨⟨_, rfl⟩, payload, ?_, ?_⟩
    · simp only [State.commit, hlog, acks_append, acks_committed, hacks, acks_answer,
        List.nil_append]
    · refine iff_of_true hzero (Or.inl ⟨s'.conn, ?_⟩)
      simp [State.commit]

/-- What is not decoded is not acknowledged. -/
theorem not_acknowledged_of_raise {e : Exc} {s : State} : ¬ Acknowledged m w (.error e, s) := by
  intro hsome
  obtain ⟨⟨v, hv⟩, _⟩ := hsome
  exact absurd hv (by simp)

/-- An update of a device that is not registered emits nothing. -/
theorem update_unregistered {content : Value} {deviceID : String}
    (hd : deviceIDOf content = .ok deviceID) (hreg : ¬ Registered srv w deviceID) :
    perform srv (fun _ => none) (decoded .Update content) (start w) =
      (.ok (answerOf 1), (start w).tick.opened.tick) := by
  have hfind := @findDevice_granted (fun _ => none) srv _ _ (start w) hd rfl rfl
  have hzero : rowsOfDevice srv (start w).world deviceID = 0 := rowsOfDevice_eq_zero.mpr hreg
  refine update_ok ?_
  rw [updateBody, perform_bind_ok hfind, hzero]
  rfl

end Versatile.ResolverPer
