import Mathlib.Data.List.Basic

/-!
# Runs of a deterministic machine

A machine is a function `step : σ → ι → σ`, a run is a list of inputs, and the state it
reaches is `List.foldl step`. Three rules carry every statement about runs: an invariant
kept by each step holds at the end, a reflexive and transitive relation kept by each step
relates the ends of the run, and a condition can be asked of every step on the way.
-/

namespace Machine

variable {σ ι : Type}

/-- Every step of the run meets the condition, in the state it is taken from. -/
def Along (step : σ → ι → σ) (P : σ → ι → Prop) : σ → List ι → Prop
  | _, [] => True
  | s, i :: is => P s i ∧ Along step P (step s i) is

@[simp] theorem along_nil (step : σ → ι → σ) (P : σ → ι → Prop) (s : σ) :
    Along step P s [] := trivial

theorem along_cons {step : σ → ι → σ} {P : σ → ι → Prop} {s : σ} {i : ι} {is : List ι} :
    Along step P s (i :: is) ↔ P s i ∧ Along step P (step s i) is := Iff.rfl

theorem along_append {step : σ → ι → σ} {P : σ → ι → Prop} {s : σ} {is js : List ι} :
    Along step P s (is ++ js) ↔ Along step P s is ∧ Along step P (is.foldl step s) js := by
  induction is generalizing s with
  | nil => simp
  | cons i is ih => rw [List.cons_append, along_cons, along_cons, ih, and_assoc]; rfl

/-- **The invariant rule**, for a run whose steps all meet a condition. -/
theorem along_invariant {step : σ → ι → σ} {P : σ → ι → Prop} {Inv : σ → Prop}
    (hstep : ∀ s i, Inv s → P s i → Inv (step s i)) {s : σ} {is : List ι}
    (hrun : Along step P s is) (h : Inv s) : Inv (is.foldl step s) := by
  induction is generalizing s with
  | nil => exact h
  | cons i is ih => exact ih hrun.2 (hstep s i h hrun.1)

/-- The same for what holds at every step on the way. -/
theorem along_of_invariant {step : σ → ι → σ} {P Q : σ → ι → Prop} {Inv : σ → Prop}
    (hstep : ∀ s i, Inv s → P s i → Inv (step s i)) (hQ : ∀ s i, Inv s → P s i → Q s i) {s : σ}
    {is : List ι} (hrun : Along step P s is) (h : Inv s) : Along step Q s is := by
  induction is generalizing s with
  | nil => trivial
  | cons i is ih => exact ⟨hQ s i h hrun.1, ih hrun.2 (hstep s i h hrun.1)⟩

/-- A condition on the inputs alone. -/
theorem along_of_forall {step : σ → ι → σ} {P : ι → Prop} {s : σ} {is : List ι}
    (h : ∀ i ∈ is, P i) : Along step (fun _ => P) s is := by
  induction is generalizing s with
  | nil => trivial
  | cons i is ih =>
    exact ⟨h i List.mem_cons_self, ih fun j hj => h j (List.mem_cons_of_mem i hj)⟩

/-- Two conditions at once. -/
theorem along_and {step : σ → ι → σ} {P Q : σ → ι → Prop} {s : σ} {is : List ι}
    (hP : Along step P s is) (hQ : Along step Q s is) :
    Along step (fun s i => P s i ∧ Q s i) s is := by
  induction is generalizing s with
  | nil => trivial
  | cons i is ih => exact ⟨⟨hP.1, hQ.1⟩, ih hP.2 hQ.2⟩

/-- Every input of the run was taken in some state. -/
theorem along_mem {step : σ → ι → σ} {P : σ → ι → Prop} {s : σ} {is : List ι} {i : ι}
    (hrun : Along step P s is) (hi : i ∈ is) : ∃ s', P s' i := by
  induction is generalizing s with
  | nil => exact absurd hi List.not_mem_nil
  | cons j is ih =>
    rcases List.mem_cons.mp hi with heq | hmem
    · exact ⟨s, heq ▸ hrun.1⟩
    · exact ih hrun.2 hmem

/-- **The relation rule**: what every step keeps, and composes, every run keeps. -/
theorem foldl_rel {step : σ → ι → σ} {R : σ → σ → Prop} (hrefl : ∀ s, R s s)
    (htrans : ∀ {a b c}, R a b → R b c → R a c) (hstep : ∀ s i, R s (step s i)) :
    ∀ (is : List ι) (s : σ), R s (is.foldl step s)
  | [], s => hrefl s
  | i :: is, s => htrans (hstep s i) (foldl_rel hrefl htrans hstep is (step s i))

end Machine
