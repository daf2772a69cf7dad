import Mathlib.Data.List.Basic

/-!
# Events of a trace

A trace is a list of events, oldest first. `Since A D` says that an event in `A` happened and none
in `D` after it, and `Separated A D` that between two events in `A` there is always one in `D`.
Both are decided by the last event and the trace before it.
-/

namespace Trace

variable {τ : Type} {A D : τ → Prop} {log : List τ} {e : τ}

/-- An event in `A` happened, and none in `D` since. -/
def Since (A D : τ → Prop) (log : List τ) : Prop :=
  ∃ l₁ a l₂, log = l₁ ++ a :: l₂ ∧ A a ∧ ∀ e ∈ l₂, ¬ D e

/-- Between two events in `A` there is one in `D`. -/
def Separated (A D : τ → Prop) (log : List τ) : Prop :=
  ∀ l₁ a l₂ b l₃, log = l₁ ++ a :: l₂ ++ b :: l₃ → A a → A b → ∃ e ∈ l₂, D e

theorem not_since_nil : ¬ Since A D [] := by
  intro hsome
  obtain ⟨l₁, a, l₂, h, _⟩ := hsome
  exact absurd h.symm (by simp)

/-- The last event of a trace is the one singled out, or it comes after it. -/
theorem concat_eq_append_cons {l₁ l₂ : List τ} {a : τ} (h : log ++ [e] = l₁ ++ a :: l₂) :
    (l₁ = log ∧ a = e ∧ l₂ = []) ∨ ∃ l₂', l₂ = l₂' ++ [e] ∧ log = l₁ ++ a :: l₂' := by
  rcases List.eq_nil_or_concat l₂ with rfl | ⟨l₂', e', rfl⟩
  · obtain ⟨hlog, heq⟩ := List.append_inj' h rfl
    exact Or.inl ⟨hlog.symm, (List.singleton_inj.mp heq).symm, rfl⟩
  · rw [List.concat_eq_append, ← List.cons_append, ← List.append_assoc] at h
    obtain ⟨hlog, heq⟩ := List.append_inj' h rfl
    obtain rfl := List.singleton_inj.mp heq
    exact Or.inr ⟨l₂', List.concat_eq_append, hlog⟩

/-- One more event: it is in `A`, or it is not in `D` and one in `A` was there. -/
theorem since_concat : Since A D (log ++ [e]) ↔ A e ∨ (Since A D log ∧ ¬ D e) := by
  refine ⟨?_, ?_⟩
  · intro hsome
    obtain ⟨l₁, a, l₂, h, ha, hl⟩ := hsome
    rcases concat_eq_append_cons h with ⟨_, rfl, _⟩ | ⟨l₂, rfl, rfl⟩
    · exact Or.inl ha
    · have hlast : ¬ D e := hl e (List.mem_append_right _ (List.mem_singleton_self e))
      have hbefore : ∀ e' ∈ l₂, ¬ D e' := fun e' he' => hl e' (List.mem_append_left _ he')
      exact Or.inr ⟨⟨l₁, a, l₂, rfl, ha, hbefore⟩, hlast⟩
  · intro hcase
    rcases hcase with ha | ⟨⟨l₁, a, l₂, rfl, ha, hl⟩, hd⟩
    · exact ⟨log, e, [], rfl, ha, by simp⟩
    · refine ⟨l₁, a, l₂ ++ [e], by simp, ha, fun e' he' => ?_⟩
      rcases List.mem_append.mp he' with he' | he'
      · exact hl e' he'
      · rwa [List.mem_singleton.mp he']

theorem separated_nil : Separated A D [] := by
  intro l₁ a l₂ b l₃ h
  exact absurd h.symm (by simp)

/-- **One more event**, which may be in `A` only if none was without one in `D` since. -/
theorem separated_concat (h : Separated A D log) (he : A e → ¬ Since A D log) :
    Separated A D (log ++ [e]) := by
  intro l₁ a l₂ b l₃ hlog ha hb
  rcases concat_eq_append_cons hlog with ⟨rfl, rfl, _⟩ | ⟨l₃, _, hlog⟩
  · by_contra hnone
    have hl : ∀ e' ∈ l₂, ¬ D e' := fun e' he' hd => hnone ⟨e', he', hd⟩
    exact he hb ⟨l₁, a, l₂, rfl, ha, hl⟩
  · exact h l₁ a l₂ b l₃ hlog ha hb

end Trace
