import Mathlib.Logic.Basic
import Versatile.Lib.Proc

/-!
# Programs as trees of operations

A program returns a value, raises an exception, or performs an operation and goes on with
its result. The operations are a parameter: `Op` names them, and `Res o` is what `o` gives
back. Nothing is said here about what an operation does, so the same program can be run
alone, by `exec`, or step by step among others.

`exec` takes a meaning of each operation on a state, where `none` is an operation that never
comes back. Four notions carry the reasoning about it. `Keeps R` is a relation between the
state before and the state after, which a program keeps if each of the operations it
performs does (`Only`). `Ends A E` says how a program ends, if it does. `Refines view p f` says
that it ends as the program `f` does on what `view` shows of the state. `trace` lists what the
operations of a run show.

Where every operation comes back, `run` gives the program on a state it stands for.
-/

/-- A program over the operations `Op`, with an exception of type `ε` or a value of type `α`. -/
inductive Prog (Op : Type) (Res : Op → Type) (ε α : Type) : Type where
  | ret (a : α)
  | raise (e : ε)
  | call (o : Op) (k : Res o → Prog Op Res ε α)

namespace Prog

variable {Op : Type} {Res : Op → Type} {ε ε' α β : Type}

/-- Sequencing: an exception ends the sequence. -/
def bind : Prog Op Res ε α → (α → Prog Op Res ε β) → Prog Op Res ε β
  | ret a, f => f a
  | raise e, _ => raise e
  | call o k, f => call o fun b => bind (k b) f

/-- `try: body except: handler`. -/
def tryExcept : Prog Op Res ε α → (ε → Prog Op Res ε' α) → Prog Op Res ε' α
  | ret a, _ => ret a
  | raise e, handler => handler e
  | call o k, handler => call o fun b => tryExcept (k b) handler

instance : Monad (Prog Op Res ε) where
  pure := ret
  bind := bind

/-- A computation without operations, as a program. -/
instance : MonadLift (Except ε) (Prog Op Res ε) where
  monadLift
    | .ok a => ret a
    | .error e => raise e

/-- One operation. -/
def perform (o : Op) : Prog Op Res ε (Res o) := call o ret

theorem bind_assoc {γ : Type} (p : Prog Op Res ε α) (f : α → Prog Op Res ε β)
    (g : β → Prog Op Res ε γ) : (p >>= f) >>= g = p >>= fun a => f a >>= g := by
  induction p with
  | ret a => rfl
  | raise e => rfl
  | call o k ih => exact congrArg (call o) (funext ih)

theorem bind_pure (p : Prog Op Res ε α) : p >>= pure = p := by
  induction p with
  | ret a => rfl
  | raise e => rfl
  | call o k ih => exact congrArg (call o) (funext ih)

@[simp] theorem pure_bind (a : α) (f : α → Prog Op Res ε β) :
    (pure a : Prog Op Res ε α) >>= f = f a := rfl

@[simp] theorem ok_bind (a : α) (f : α → Prog Op Res ε β) :
    (liftM (Except.ok a : Except ε α) : Prog Op Res ε α) >>= f = f a := rfl

/-! ## Which operations a program performs -/

/-- Every operation the program may perform is in `P`. -/
def Only (P : Op → Prop) : Prog Op Res ε α → Prop
  | ret _ => True
  | raise _ => True
  | call o k => P o ∧ ∀ b, Only P (k b)

section Only

variable {P Q : Op → Prop}

@[simp] theorem only_lift (x : Except ε α) : Only P (liftM x : Prog Op Res ε α) := by
  cases x <;> trivial

theorem only_perform {o : Op} (h : P o) : Only P (perform o : Prog Op Res ε (Res o)) :=
  ⟨h, fun _ => trivial⟩

theorem only_bind {p : Prog Op Res ε α} {f : α → Prog Op Res ε β} (hp : Only P p)
    (hf : ∀ a, Only P (f a)) : Only P (p >>= f) := by
  induction p with
  | ret a => exact hf a
  | raise e => trivial
  | call o k ih => exact ⟨hp.1, fun b => ih b (hp.2 b)⟩

/-- A computation without operations, and what follows its value. -/
theorem only_lift_bind {x : Except ε α} {f : α → Prog Op Res ε β}
    (hf : ∀ a, x = .ok a → Only P (f a)) : Only P (liftM x >>= f) := by
  cases x with
  | ok a => exact hf a rfl
  | error e => trivial

theorem only_tryExcept {p : Prog Op Res ε α} {handler : ε → Prog Op Res ε' α} (hp : Only P p)
    (hh : ∀ e, Only P (handler e)) : Only P (tryExcept p handler) := by
  induction p with
  | ret a => trivial
  | raise e => exact hh e
  | call o k ih => exact ⟨hp.1, fun b => ih b (hp.2 b)⟩

theorem Only.mono {p : Prog Op Res ε α} (hp : Only P p) (h : ∀ o, P o → Q o) : Only Q p := by
  induction p with
  | ret a => trivial
  | raise e => trivial
  | call o k ih => exact ⟨h o hp.1, fun b => ih b (hp.2 b)⟩

end Only

/-! ## Which values a program may return -/

/-- Every value the program may return is in `A`. -/
def Yields (A : α → Prop) : Prog Op Res ε α → Prop
  | ret a => A a
  | raise _ => True
  | call _ k => ∀ b, Yields A (k b)

section Yields

variable {P : Op → Prop} {A : α → Prop} {B : β → Prop}

theorem yields_bind {p : Prog Op Res ε α} {f : α → Prog Op Res ε β} (hp : Yields A p)
    (hf : ∀ a, A a → Yields B (f a)) : Yields B (p >>= f) := by
  induction p with
  | ret a => exact hf a hp
  | raise e => trivial
  | call o k ih => exact fun b => ih b (hp b)

theorem yields_true (p : Prog Op Res ε α) : Yields (fun _ => True) p := by
  induction p with
  | ret a => trivial
  | raise e => trivial
  | call o k ih => exact ih

/-- Only what comes last is left to check. -/
theorem yields_rest {p : Prog Op Res ε α} {f : α → Prog Op Res ε β} (hf : ∀ a, Yields B (f a)) :
    Yields B (p >>= f) := yields_bind (yields_true p) fun a _ => hf a

theorem yields_lift {x : Except ε α} (h : ∀ a, x = .ok a → A a) :
    Yields A (liftM x : Prog Op Res ε α) := by
  cases x with
  | ok a => exact h a rfl
  | error e => trivial

/-- Sequencing, by the values that are passed on. -/
theorem only_bind_yields {p : Prog Op Res ε α} {f : α → Prog Op Res ε β} (hp : Only P p)
    (hA : Yields A p) (hf : ∀ a, A a → Only P (f a)) : Only P (p >>= f) := by
  induction p with
  | ret a => exact hf a hA
  | raise e => trivial
  | call o k ih => exact ⟨hp.1, fun b => ih b (hp.2 b) (hA b)⟩

end Yields

/-! ## Which exceptions a program may raise -/

/-- Every exception the program may raise is in `E`. -/
def Raises (E : ε → Prop) : Prog Op Res ε α → Prop
  | ret _ => True
  | raise e => E e
  | call _ k => ∀ b, Raises E (k b)

section Raises

variable {P : Op → Prop} {A : α → Prop} {E : ε → Prop} {E' : ε' → Prop}

theorem raises_bind {p : Prog Op Res ε α} {f : α → Prog Op Res ε β} (hp : Raises E p)
    (hA : Yields A p) (hf : ∀ a, A a → Raises E (f a)) : Raises E (p >>= f) := by
  induction p with
  | ret a => exact hf a hA
  | raise e => exact hp
  | call o k ih => exact fun b => ih b (hp b) (hA b)

theorem raises_true (p : Prog Op Res ε α) : Raises (fun _ => True) p := by
  induction p with
  | ret a => trivial
  | raise e => trivial
  | call o k ih => exact ih

theorem raises_tryExcept {p : Prog Op Res ε α} {handler : ε → Prog Op Res ε' α}
    (hh : ∀ e, Raises E' (handler e)) : Raises E' (tryExcept p handler) := by
  induction p with
  | ret a => trivial
  | raise e => exact hh e
  | call o k ih => exact fun b => ih b

theorem yields_tryExcept {p : Prog Op Res ε α} {handler : ε → Prog Op Res ε' α} (hp : Yields A p)
    (hh : ∀ e, Yields A (handler e)) : Yields A (tryExcept p handler) := by
  induction p with
  | ret a => exact hp
  | raise e => exact hh e
  | call o k ih => exact fun b => ih b (hp b)

/-- What a handler of exceptions performs, by the exceptions that come to it. -/
theorem only_tryExcept_raises {p : Prog Op Res ε α} {handler : ε → Prog Op Res ε' α}
    (hp : Only P p) (hE : Raises E p) (hh : ∀ e, E e → Only P (handler e)) :
    Only P (tryExcept p handler) := by
  induction p with
  | ret a => trivial
  | raise e => exact hh e hE
  | call o k ih => exact ⟨hp.1, fun b => ih b (hp.2 b) (hE b)⟩

end Raises

/-! ## What is left of a program -/

/-- What is left of a program once its next operation came back. -/
inductive Next : Prog Op Res ε α → Prog Op Res ε α → Prop where
  | call (o : Op) (k : Res o → Prog Op Res ε α) (b : Res o) : Next (k b) (call o k)

/-- **A program performs finitely many operations**, whatever they give back. -/
theorem next_wellFounded : WellFounded (Next : Prog Op Res ε α → Prog Op Res ε α → Prop) := by
  refine ⟨fun p => ?_⟩
  induction p with
  | ret a => exact ⟨_, fun q h => nomatch h⟩
  | raise e => exact ⟨_, fun q h => nomatch h⟩
  | call o k ih =>
    refine ⟨_, fun q h => ?_⟩
    cases h with
    | call _ _ b => exact ih b

/-! ## Running a program alone -/

section Exec

variable {σ : Type} (act : (o : Op) → σ → Option (Res o × σ))

/-- Run a program: its outcome and the state it leaves, `none` if it never ends. -/
def exec : Prog Op Res ε α → σ → Option (Except ε α × σ)
  | ret a, s => some (.ok a, s)
  | raise e, s => some (.error e, s)
  | call o k, s =>
    match act o s with
    | some (b, s') => exec (k b) s'
    | none => none

variable {act}

@[simp] theorem exec_pure (a : α) (s : σ) :
    exec act (pure a : Prog Op Res ε α) s = some (.ok a, s) := rfl

@[simp] theorem exec_raise (e : ε) (s : σ) :
    exec act (raise e : Prog Op Res ε α) s = some (.error e, s) := rfl

@[simp] theorem exec_lift (x : Except ε α) (s : σ) :
    exec act (liftM x : Prog Op Res ε α) s = some (x, s) := by
  cases x <;> rfl

theorem exec_perform (o : Op) (s : σ) :
    exec act (perform o : Prog Op Res ε (Res o)) s =
      (act o s).map fun r => (.ok r.1, r.2) := by
  rw [perform, exec]
  cases act o s <;> rfl

theorem exec_bind (p : Prog Op Res ε α) (f : α → Prog Op Res ε β) (s : σ) :
    exec act (p >>= f) s = match exec act p s with
      | some (.ok a, s') => exec act (f a) s'
      | some (.error e, s') => some (.error e, s')
      | none => none := by
  induction p generalizing s with
  | ret a => rfl
  | raise e => rfl
  | call o k ih =>
    have hcall : (call o k >>= f) = call o fun b => k b >>= f := rfl
    rw [hcall, exec, exec]
    cases act o s with
    | none => rfl
    | some r => exact ih r.1 r.2

theorem exec_tryExcept (p : Prog Op Res ε α) (handler : ε → Prog Op Res ε' α) (s : σ) :
    exec act (tryExcept p handler) s = match exec act p s with
      | some (.ok a, s') => some (.ok a, s')
      | some (.error e, s') => exec act (handler e) s'
      | none => none := by
  induction p generalizing s with
  | ret a => rfl
  | raise e => rfl
  | call o k ih =>
    rw [tryExcept, exec, exec]
    cases act o s with
    | none => rfl
    | some r => exact ih r.1 r.2

theorem exec_bind_ok {p : Prog Op Res ε α} {f : α → Prog Op Res ε β} {s s' : σ} {a : α}
    (h : exec act p s = some (.ok a, s')) : exec act (p >>= f) s = exec act (f a) s' := by
  rw [exec_bind, h]

theorem exec_bind_error {p : Prog Op Res ε α} {f : α → Prog Op Res ε β} {s s' : σ} {e : ε}
    (h : exec act p s = some (.error e, s')) :
    exec act (p >>= f) s = some (.error e, s') := by rw [exec_bind, h]

/-- A sequence that ends with a value: both parts did. -/
theorem exec_bind_eq_ok {p : Prog Op Res ε α} {f : α → Prog Op Res ε β} {s s'' : σ} {b : β} :
    exec act (p >>= f) s = some (.ok b, s'') ↔
      ∃ a s', exec act p s = some (.ok a, s') ∧ exec act (f a) s' = some (.ok b, s'') := by
  rw [exec_bind]
  cases hp : exec act p s with
  | none => simp
  | some r =>
    obtain ⟨r, s'⟩ := r
    cases r with
    | ok a =>
      refine ⟨?_, ?_⟩
      · intro h; exact ⟨a, s', rfl, h⟩
      · intro h
        obtain ⟨a', t, h, hf⟩ := h
        obtain ⟨rfl, rfl⟩ : a = a' ∧ s' = t := by simpa using h
        exact hf
    | error e => simp

/-! ### Programs that end -/

variable (act) in
/-- Every operation of the run comes back. -/
def Returns : Prog Op Res ε α → σ → Prop
  | ret _, _ => True
  | raise _, _ => True
  | call o k, s =>
    match act o s with
    | some (b, s') => Returns (k b) s'
    | none => False

theorem returns_iff {p : Prog Op Res ε α} {s : σ} :
    Returns act p s ↔ ∃ r s', exec act p s = some (r, s') := by
  induction p generalizing s with
  | ret a => exact ⟨fun _ => ⟨_, _, rfl⟩, fun _ => trivial⟩
  | raise e => exact ⟨fun _ => ⟨_, _, rfl⟩, fun _ => trivial⟩
  | call o k ih =>
    rw [Returns, exec]
    cases act o s with
    | none => simp
    | some r => exact ih r.1

/-! ### What every outcome keeps -/

variable (act) in
/-- Whatever the outcome, `R` relates the state before to the state after. -/
def Keeps (R : σ → σ → Prop) (p : Prog Op Res ε α) : Prop :=
  ∀ s r s', exec act p s = some (r, s') → R s s'

/-- **What the operations in `P` keep, a program of such operations keeps.** -/
theorem Only.keeps {P : Op → Prop} {R : σ → σ → Prop} (hrefl : ∀ s, R s s)
    (htrans : ∀ {a b c}, R a b → R b c → R a c)
    (hact : ∀ o s b s', P o → act o s = some (b, s') → R s s') {p : Prog Op Res ε α}
    (hp : Only P p) : Keeps act R p := by
  induction p with
  | ret a =>
    intro s r s' h
    obtain ⟨_, rfl⟩ : _ ∧ s = s' := by simpa [exec] using h
    exact hrefl s
  | raise e =>
    intro s r s' h
    obtain ⟨_, rfl⟩ : _ ∧ s = s' := by simpa [exec] using h
    exact hrefl s
  | call o k ih =>
    intro s r s' h
    rw [exec] at h
    cases ho : act o s with
    | none => rw [ho] at h; exact absurd h (by simp)
    | some b =>
      rw [ho] at h
      exact htrans (hact o s b.1 b.2 hp.1 ho) (ih b.1 (hp.2 b.1) b.2 r s' h)

/-! ### What a run shows -/

section Trace

variable {τ : Type} {obs : (o : Op) → Res o → σ → List τ}

variable (act obs) in
/-- What the operations of a run show, in their order: each by its result and the state after. -/
def trace : Prog Op Res ε α → σ → List τ
  | ret _, _ => []
  | raise _, _ => []
  | call o k, s =>
    match act o s with
    | some (b, s') => obs o b s' ++ trace (k b) s'
    | none => []

@[simp] theorem trace_lift (x : Except ε α) (s : σ) :
    trace act obs (liftM x : Prog Op Res ε α) s = [] := by
  cases x <;> rfl

theorem trace_bind (p : Prog Op Res ε α) (f : α → Prog Op Res ε β) (s : σ) :
    trace act obs (p >>= f) s = trace act obs p s ++ match exec act p s with
      | some (.ok a, s') => trace act obs (f a) s'
      | _ => [] := by
  induction p generalizing s with
  | ret a => rfl
  | raise e => rfl
  | call o k ih =>
    have hcall : (call o k >>= f) = call o fun b => k b >>= f := rfl
    rw [hcall, trace, trace, exec]
    cases act o s with
    | none => rfl
    | some r =>
      obtain ⟨b, s'⟩ := r
      have hrest : trace act obs (k b >>= f) s' = _ := ih b s'
      simp only [hrest, List.append_assoc]

theorem trace_tryExcept (p : Prog Op Res ε α) (handler : ε → Prog Op Res ε' α) (s : σ) :
    trace act obs (tryExcept p handler) s = trace act obs p s ++ match exec act p s with
      | some (.error e, s') => trace act obs (handler e) s'
      | _ => [] := by
  induction p generalizing s with
  | ret a => rfl
  | raise e => rfl
  | call o k ih =>
    rw [tryExcept, trace, trace, exec]
    cases act o s with
    | none => rfl
    | some r =>
      obtain ⟨b, s'⟩ := r
      have hrest : trace act obs (tryExcept (k b) handler) s' = _ := ih b s'
      simp only [hrest, List.append_assoc]

/-- A program of operations that show nothing shows nothing. -/
theorem Only.trace_eq_nil {P : Op → Prop} (hobs : ∀ o b s, P o → obs o b s = [])
    {p : Prog Op Res ε α} (hp : Only P p) (s : σ) : trace act obs p s = [] := by
  induction p generalizing s with
  | ret a => rfl
  | raise e => rfl
  | call o k ih =>
    rw [trace]
    cases act o s with
    | none => rfl
    | some r =>
      obtain ⟨b, s'⟩ := r
      have hrest : trace act obs (k b) s' = [] := ih b (hp.2 b) s'
      simp only [hobs o b s' hp.1, hrest, List.append_nil]

end Trace

/-! ### How a program ends -/

variable (act) in
/-- If the program ends, then with a value in `A`, or with an exception in `E`. -/
def Ends (A : α → σ → Prop) (E : ε → σ → Prop) (p : Prog Op Res ε α) (s : σ) : Prop :=
  ∀ r s', exec act p s = some (r, s') → match r with
    | .ok a => A a s'
    | .error e => E e s'

section Ends

variable {A B : α → σ → Prop} {E F : ε → σ → Prop}

theorem ends_pure {a : α} {s : σ} (h : A a s) :
    Ends act A E (pure a : Prog Op Res ε α) s := by
  intro r s' hr
  obtain ⟨rfl, rfl⟩ : Except.ok a = r ∧ s = s' := by simpa using hr
  exact h

theorem ends_raise {e : ε} {s : σ} (h : E e s) :
    Ends act A E (raise e : Prog Op Res ε α) s := by
  intro r s' hr
  obtain ⟨rfl, rfl⟩ : Except.error e = r ∧ s = s' := by simpa using hr
  exact h

theorem ends_lift {x : Except ε α} {s : σ} (hA : ∀ a, x = .ok a → A a s)
    (hE : ∀ e, x = .error e → E e s) : Ends act A E (liftM x : Prog Op Res ε α) s := by
  intro r s' hr
  obtain ⟨rfl, rfl⟩ : x = r ∧ s = s' := by simpa using hr
  cases x with
  | ok a => exact hA a rfl
  | error e => exact hE e rfl

/-- The rule of sequencing. -/
theorem ends_bind {p : Prog Op Res ε α} {f : α → Prog Op Res ε β} {C : β → σ → Prop} {s : σ}
    (hp : Ends act A E p s) (hf : ∀ a s', A a s' → Ends act C E (f a) s') :
    Ends act C E (p >>= f) s := by
  intro r s'' hr
  rw [exec_bind] at hr
  rcases hexec : exec act p s with _ | ⟨_ | a, s'⟩
  · rw [hexec] at hr; exact absurd hr (by simp)
  · rw [hexec] at hr
    obtain ⟨rfl, rfl⟩ := Prod.mk.inj (Option.some.inj hr)
    exact hp _ _ hexec
  · rw [hexec] at hr
    exact hf a s' (hp _ _ hexec) r s'' hr

/-- The rule of `try`. -/
theorem ends_tryExcept {p : Prog Op Res ε α} {handler : ε → Prog Op Res ε' α}
    {G : ε' → σ → Prop} {s : σ} (hp : Ends act A E p s)
    (hh : ∀ e s', E e s' → Ends act A G (handler e) s') :
    Ends act A G (tryExcept p handler) s := by
  intro r s'' hr
  rw [exec_tryExcept] at hr
  rcases hexec : exec act p s with _ | ⟨e | a, s'⟩
  · rw [hexec] at hr; exact absurd hr (by simp)
  · rw [hexec] at hr
    exact hh e s' (hp _ _ hexec) r s'' hr
  · rw [hexec] at hr
    obtain ⟨rfl, rfl⟩ := Prod.mk.inj (Option.some.inj hr)
    exact hp _ _ hexec

theorem Ends.mono {p : Prog Op Res ε α} {s : σ} (hp : Ends act A E p s)
    (hA : ∀ a s', A a s' → B a s') (hE : ∀ e s', E e s' → F e s') : Ends act B F p s := by
  intro r s' hr
  have h := hp r s' hr
  cases r with
  | ok a => exact hA a s' h
  | error e => exact hE e s' h

theorem ends_true (p : Prog Op Res ε α) (s : σ) :
    Ends act (fun _ _ => True) (fun _ _ => True) p s := by
  intro r s' _
  cases r <;> trivial

end Ends

/-! ### Refinement -/

section Refines

variable {δ : Type} {view : σ → δ}

variable (act view) in
/-- If the program ends, then as `f` does on what `view` shows. -/
def Refines (p : Prog Op Res ε α) (f : Proc ε δ α) (s : σ) : Prop :=
  ∀ r s', exec act p s = some (r, s') → f (view s) = (r, view s')

theorem refines_pure (a : α) (s : σ) :
    Refines act view (pure a : Prog Op Res ε α) (pure a) s := by
  intro r s' h
  obtain ⟨rfl, rfl⟩ : Except.ok a = r ∧ s = s' := by simpa using h
  rfl

theorem refines_raise (e : ε) (s : σ) :
    Refines act view (raise e : Prog Op Res ε α) (Proc.raise e) s := by
  intro r s' h
  obtain ⟨rfl, rfl⟩ : Except.error e = r ∧ s = s' := by simpa using h
  rfl

theorem refines_lift (x : Except ε α) (s : σ) :
    Refines act view (liftM x : Prog Op Res ε α) (liftM x) s := by
  intro r s' h
  obtain ⟨rfl, rfl⟩ : x = r ∧ s = s' := by simpa using h
  rfl

/-- The rule of sequencing. -/
theorem refines_bind {p : Prog Op Res ε α} {f : Proc ε δ α} {k : α → Prog Op Res ε β}
    {g : α → Proc ε δ β} {s : σ} (hp : Refines act view p f s)
    (hk : ∀ a s', Refines act view (k a) (g a) s') :
    Refines act view (p >>= k) (f >>= g) s := by
  intro r s'' h
  rw [exec_bind] at h
  rcases hexec : exec act p s with _ | ⟨e | a, s'⟩
  · rw [hexec] at h; exact absurd h (by simp)
  · rw [hexec] at h
    obtain ⟨rfl, rfl⟩ := Prod.mk.inj (Option.some.inj h)
    rw [Proc.bind_apply, hp _ _ hexec]
  · rw [hexec] at h
    rw [Proc.bind_apply, hp _ _ hexec]
    exact hk a s' r s'' h

/-- A computation without operations, and what follows it from the same state. -/
theorem refines_lift_bind {x : Except ε α} {k : α → Prog Op Res ε β} {g : α → Proc ε δ β} {s : σ}
    (hk : ∀ a, x = .ok a → Refines act view (k a) (g a) s) :
    Refines act view (liftM x >>= k) (liftM x >>= g) s := by
  cases x with
  | error e => exact refines_raise e s
  | ok a => exact hk a rfl

end Refines

end Exec

/-! ## Operations that all come back -/

section Run

variable {σ : Type} (act : (o : Op) → σ → Res o × σ)

/-- Run a program whose operations all come back. -/
def run : Prog Op Res ε α → Proc ε σ α
  | ret a => pure a
  | raise e => Proc.raise e
  | call o k => fun s => run (k (act o s).1) (act o s).2

variable {act}

@[simp] theorem run_pure (a : α) : run act (pure a : Prog Op Res ε α) = pure a := rfl

@[simp] theorem run_raise (e : ε) : run act (raise e : Prog Op Res ε α) = Proc.raise e := rfl

@[simp] theorem run_lift (x : Except ε α) : run act (liftM x : Prog Op Res ε α) = liftM x := by
  cases x <;> rfl

theorem run_bind (p : Prog Op Res ε α) (f : α → Prog Op Res ε β) :
    run act (p >>= f) = run act p >>= fun a => run act (f a) := by
  induction p with
  | ret a => rfl
  | raise e => rfl
  | call o k ih =>
    funext s
    exact congrFun (ih (act o s).1) (act o s).2

theorem run_tryExcept (p : Prog Op Res ε α) (handler : ε → Prog Op Res ε' α) (s : σ) :
    run act (tryExcept p handler) s = match run act p s with
      | (.ok a, s') => (.ok a, s')
      | (.error e, s') => run act (handler e) s' := by
  induction p generalizing s with
  | ret a => rfl
  | raise e => rfl
  | call o k ih => exact ih (act o s).1 (act o s).2

/-- **What the operations in `P` keep, a program of such operations keeps.** -/
theorem Only.run_keeps {P : Op → Prop} {R : σ → σ → Prop} (hR : Proc.Frame R)
    (hact : ∀ o s, P o → R s (act o s).2) {p : Prog Op Res ε α} (hp : Only P p) :
    Proc.Keeps R (run act p) := by
  induction p with
  | ret a => exact hR.pure a
  | raise e => exact hR.raise e
  | call o k ih =>
    intro s
    exact hR.trans (hact o s hp.1) (ih (act o s).1 (hp.2 _) (act o s).2)

/-- A run of operations that all come back comes back. -/
theorem exec_total (p : Prog Op Res ε α) (s : σ) :
    exec (fun o s => some (act o s)) p s = some (run act p s) := by
  induction p generalizing s with
  | ret a => rfl
  | raise e => rfl
  | call o k ih => exact ih (act o s).1 (act o s).2

theorem only_true (p : Prog Op Res ε α) : Only (fun _ => True) p := by
  induction p with
  | ret a => trivial
  | raise e => trivial
  | call o k ih => exact ⟨trivial, ih⟩

end Run

end Prog
