import Versatile.Lib.Prog

/-!
# Threads that follow a protocol

Several programs run at once, one operation at a time and in any order, over a shared state and
one of their own each. What a thread may do next, and what it has done so far, is told by a phase,
which no operation looks at: a `Protocol` says which operations a phase allows and which phase
each result leads to. `Follows` says that a program does nothing else, whatever the results are,
and has the rules of the constructs a program is made of. Of threads that follow their protocol
an interleaving takes allowed operations only (`step_cases`), so an invariant is checked
operation by operation.
-/

/-- The operations a phase allows, and the phase that follows a result. `Env` is what is known of
the others when the operation is performed. -/
structure Protocol (Op : Type) (Res : Op → Type) (Env Φ : Type) where
  allows : Φ → Op → Prop
  next : Env → Φ → (o : Op) → Res o → Φ

namespace Prog

variable {Op : Type} {Res : Op → Type} {ε ε' α β Env Φ : Type} {P : Protocol Op Res Env Φ}

/-- From phase `φ` the program performs allowed operations only, and ends with a value in a phase
in `A`, or with an exception. -/
def Follows (P : Protocol Op Res Env Φ) (A : α → Φ → Prop) : Prog Op Res ε α → Φ → Prop
  | ret a, φ => A a φ
  | raise _, _ => True
  | call o k, φ => P.allows φ o ∧ ∀ env b, Follows P A (k b) (P.next env φ o b)

variable {A B : α → Φ → Prop} {φ : Φ}

theorem follows_lift {x : Except ε α} (h : ∀ a, x = .ok a → A a φ) :
    Follows P A (liftM x : Prog Op Res ε α) φ := by
  cases x with
  | ok a => exact h a rfl
  | error e => trivial

theorem follows_perform {o : Op} {A : Res o → Φ → Prop} (h : P.allows φ o)
    (hA : ∀ env b, A b (P.next env φ o b)) :
    Follows P A (perform o : Prog Op Res ε (Res o)) φ := ⟨h, hA⟩

/-- The rule of sequencing. -/
theorem follows_bind {p : Prog Op Res ε α} {f : α → Prog Op Res ε β} {C : β → Φ → Prop}
    (hp : Follows P A p φ) (hf : ∀ a ψ, A a ψ → Follows P C (f a) ψ) :
    Follows P C (p >>= f) φ := by
  induction p generalizing φ with
  | ret a => exact hf a φ hp
  | raise e => trivial
  | call o k ih => exact ⟨hp.1, fun env b => ih b (hp.2 env b)⟩

/-- A computation without operations, and what follows its value. -/
theorem follows_lift_bind {x : Except ε α} {f : α → Prog Op Res ε β} {C : β → Φ → Prop}
    (hf : ∀ a, x = .ok a → Follows P C (f a) φ) : Follows P C (liftM x >>= f) φ := by
  cases x with
  | ok a => exact hf a rfl
  | error e => trivial

/-- The rule of `try`, for a handler that may run in any phase. -/
theorem follows_tryExcept {p : Prog Op Res ε α} {handler : ε → Prog Op Res ε' α}
    (hp : Follows P A p φ) (hh : ∀ e ψ, Follows P A (handler e) ψ) :
    Follows P A (tryExcept p handler) φ := by
  induction p generalizing φ with
  | ret a => exact hp
  | raise e => exact hh e φ
  | call o k ih => exact ⟨hp.1, fun env b => ih b (hp.2 env b)⟩

theorem Follows.mono {p : Prog Op Res ε α} (hp : Follows P A p φ) (h : ∀ a ψ, A a ψ → B a ψ) :
    Follows P B p φ := by
  induction p generalizing φ with
  | ret a => exact h a φ hp
  | raise e => trivial
  | call o k ih => exact ⟨hp.1, fun env b => ih b (hp.2 env b)⟩

/-- A program of operations that the phase allows and that do not change it. -/
theorem Only.follows {Q : Op → Prop} (hallows : ∀ o, Q o → P.allows φ o)
    (hnext : ∀ env o b, Q o → P.next env φ o b = φ) {p : Prog Op Res ε α} (hp : Only Q p) :
    Follows P (fun _ ψ => ψ = φ) p φ := by
  induction p with
  | ret a => rfl
  | raise e => trivial
  | call o k ih =>
    refine ⟨hallows o hp.1, fun env b => ?_⟩
    rw [hnext env o b hp.1]
    exact ih b (hp.2 b)

end Prog

namespace Interleaving

variable {Op : Type} {Res : Op → Type} {ε α Env Φ : Type}

/-- A program on its way, the state of its own, and its phase. -/
structure Thread (Op : Type) (Res : Op → Type) (ε α Φ L : Type) where
  program : Prog Op Res ε α
  own : L
  phase : Φ

/-- A shared state, and the threads. -/
structure System (Op : Type) (Res : Op → Type) (ε α Φ G L : Type) where
  shared : G
  threads : List (Thread Op Res ε α Φ L)

variable {G L : Type} (P : Protocol Op Res Env Φ) (env : G → Env)
  (act : (o : Op) → G → L → Res o × G × L)

/-- A thread after one operation. -/
def Thread.next (t : Thread Op Res ε α Φ L) (g : G) (o : Op) (k : Res o → Prog Op Res ε α) :
    Thread Op Res ε α Φ L :=
  ⟨k (act o g t.own).1, (act o g t.own).2.2, P.next (env g) t.phase o (act o g t.own).1⟩

/-- Thread `i` performs its next operation, if it has one. -/
def step (s : System Op Res ε α Φ G L) (i : Nat) : System Op Res ε α Φ G L :=
  match s.threads[i]? with
  | some t => match t.program with
    | .call o k => ⟨(act o s.shared t.own).2.1, s.threads.set i (t.next P env act s.shared o k)⟩
    | _ => s
  | none => s

/-- Each thread follows the protocol from the phase it is in. -/
def Obeys (s : System Op Res ε α Φ G L) : Prop :=
  ∀ t ∈ s.threads, t.program.Follows P (fun _ _ => True) t.phase

variable {P env act} {s : System Op Res ε α Φ G L} {i : Nat}

/-- **What a step does**: nothing, or an operation that the phase of its thread allows. -/
theorem step_cases (h : Obeys P s) : step P env act s i = s ∨
    ∃ t o k, s.threads[i]? = some t ∧ t.program = .call o k ∧ P.allows t.phase o ∧
      step P env act s i =
        ⟨(act o s.shared t.own).2.1, s.threads.set i (t.next P env act s.shared o k)⟩ := by
  cases ht : s.threads[i]? with
  | none => exact Or.inl (by rw [step, ht])
  | some t =>
    cases hp : t.program with
    | ret a => exact Or.inl (by simp only [step, ht, hp])
    | raise e => exact Or.inl (by simp only [step, ht, hp])
    | call o k =>
      have hfollows := h t (List.mem_of_getElem? ht)
      rw [hp] at hfollows
      exact Or.inr ⟨t, o, k, rfl, hp, hfollows.1, by simp only [step, ht, hp]⟩

/-- **Threads that follow their protocol go on to.** -/
theorem obeys_step (h : Obeys P s) : Obeys P (step P env act s i) := by
  have hcases : step P env act s i = s ∨ _ := step_cases h
  rcases hcases with hstep | ⟨t, o, k, ht, hp, _, hstep⟩
  · rw [hstep]
    exact h
  · rw [hstep]
    intro u hu
    rcases List.mem_or_eq_of_mem_set hu with hu | rfl
    · exact h u hu
    · have hfollows := h t (List.mem_of_getElem? ht)
      rw [hp] at hfollows
      exact hfollows.2 _ _

/-- What holds of each thread in its new surroundings holds of all after a step. -/
theorem forall_set {Q : Thread Op Res ε α Φ L → Prop} {t' : Thread Op Res ε α Φ L}
    (hothers : ∀ j u, j ≠ i → s.threads[j]? = some u → Q u) (ht' : Q t') :
    ∀ u ∈ s.threads.set i t', Q u := by
  intro u hu
  obtain ⟨j, hj, hget⟩ := List.mem_iff_getElem.mp hu
  by_cases hij : j = i
  · subst hij
    rw [List.getElem_set_self] at hget
    exact hget ▸ ht'
  · rw [List.getElem_set_ne (Ne.symm hij)] at hget
    exact hothers j u hij (by rw [List.getElem?_eq_some_iff]; exact ⟨_, hget⟩)

/-- **A thread that runs alone** does what its program does. -/
theorem run_alone {t : Thread Op Res ε α Φ L} (ht : s.threads[i]? = some t) : ∃ n,
    ((List.replicate n i).foldl (step P env act) s).shared =
      (t.program.run (fun o σ => act o σ.1 σ.2) (s.shared, t.own)).2.1 := by
  -- by induction on what is left of the program
  obtain ⟨p, own, φ⟩ := t
  induction p generalizing s own φ with
  | ret a => exact ⟨0, rfl⟩
  | raise e => exact ⟨0, rfl⟩
  | call o k ih =>
    have hstep : step P env act s i = ⟨(act o s.shared own).2.1,
        s.threads.set i (Thread.next P env act ⟨.call o k, own, φ⟩ s.shared o k)⟩ := by
      simp only [step, ht]
    have hget : (step P env act s i).threads[i]? =
        some (Thread.next P env act ⟨.call o k, own, φ⟩ s.shared o k) := by
      rw [hstep, List.getElem?_set_self (List.getElem?_eq_some_iff.mp ht).1]
    obtain ⟨n, hn⟩ := ih _ _ _ hget
    refine ⟨n + 1, ?_⟩
    rw [List.replicate_succ, List.foldl_cons, hn, hstep]
    rfl

end Interleaving
