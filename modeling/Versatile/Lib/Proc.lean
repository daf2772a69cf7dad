import Mathlib.Logic.Basic

/-!
# Stateful programs with exceptions

A program reads and writes a state of type `σ` and ends with a value or an exception of
type `ε`. An exception keeps the writes made before it: nothing is undone, which is what a
`try` block of an imperative language does.

Two ways to reason about one. `bind_ok` and `bind_error` run it forwards, step by step.
`Keeps R` says that a relation holds between the state before and the state after,
whatever the outcome; with `R` reflexive and transitive, a `Frame`, it is closed under
sequencing, so one line for each primitive gives it for a whole program.
-/

/-- A program over the state `σ` that returns an `α` or raises an `ε`. -/
def Proc (ε σ α : Type) : Type := σ → Except ε α × σ

namespace Proc

variable {ε σ α β : Type}

instance : Monad (Proc ε σ) where
  pure a := fun s => (.ok a, s)
  bind x f := fun s =>
    match x s with
    | (.ok a, s') => f a s'
    | (.error e, s') => (.error e, s')

/-- A computation without state, as a program. -/
instance : MonadLift (Except ε) (Proc ε σ) where
  monadLift e := fun s => (e, s)

/-- Raise an exception. -/
def raise (e : ε) : Proc ε σ α := fun s => (.error e, s)

/-- Read the state. -/
def read : Proc ε σ σ := fun s => (.ok s, s)

/-- Update the state. -/
def modify (f : σ → σ) : Proc ε σ Unit := fun s => (.ok (), f s)

/-- `try: body except: handler`. -/
def tryExcept (body : Proc ε σ α) (handler : ε → Proc ε σ α) : Proc ε σ α := fun s =>
  match body s with
  | (.ok a, s') => (.ok a, s')
  | (.error e, s') => handler e s'

/-- Run a program on one component of a larger state. -/
def zoom {τ : Type} (get : σ → τ) (set : τ → σ → σ) (x : Proc ε τ α) : Proc ε σ α := fun s =>
  let r := x (get s)
  (r.1, set r.2 s)

@[simp] theorem pure_apply (a : α) (s : σ) : (pure a : Proc ε σ α) s = (.ok a, s) := rfl

@[simp] theorem read_apply (s : σ) : (read : Proc ε σ σ) s = (.ok s, s) := rfl

@[simp] theorem modify_apply (f : σ → σ) (s : σ) :
    (modify f : Proc ε σ Unit) s = (.ok (), f s) := rfl

@[simp] theorem liftM_apply (e : Except ε α) (s : σ) :
    (liftM e : Proc ε σ α) s = (e, s) := rfl

@[simp] theorem zoom_apply {τ : Type} (get : σ → τ) (set : τ → σ → σ) (x : Proc ε τ α) (s : σ) :
    zoom get set x s = ((x (get s)).1, set (x (get s)).2 s) := rfl

theorem bind_apply (x : Proc ε σ α) (f : α → Proc ε σ β) (s : σ) :
    (x >>= f) s = match x s with
      | (.ok a, s') => f a s'
      | (.error e, s') => (.error e, s') := rfl

theorem bind_ok {x : Proc ε σ α} {f : α → Proc ε σ β} {s s' : σ} {a : α}
    (h : x s = (.ok a, s')) : (x >>= f) s = f a s' := by rw [bind_apply, h]

theorem bind_error {x : Proc ε σ α} {f : α → Proc ε σ β} {s s' : σ} {e : ε}
    (h : x s = (.error e, s')) : (x >>= f) s = (.error e, s') := by rw [bind_apply, h]

theorem bind_lift_ok {x : Except ε α} {a : α} (h : x = .ok a) (f : α → Proc ε σ β) (s : σ) :
    ((liftM x : Proc ε σ α) >>= f) s = f a s := by rw [bind_apply, liftM_apply, h]

theorem bind_lift_error {x : Except ε α} {e : ε} (h : x = .error e) (f : α → Proc ε σ β)
    (s : σ) : ((liftM x : Proc ε σ α) >>= f) s = (.error e, s) := by
  rw [bind_apply, liftM_apply, h]

/-- A run that returns a value ends with it, in some state. -/
theorem returns_iff {r : Except ε α × σ} {a : α} : r.1 = .ok a ↔ ∃ s, r = (.ok a, s) := by
  refine ⟨fun h => ⟨r.2, Prod.ext h rfl⟩, ?_⟩
  intro h
  obtain ⟨s, rfl⟩ := h
  rfl

/-- A sequence that succeeds: both parts did. -/
theorem bind_eq_ok {x : Proc ε σ α} {f : α → Proc ε σ β} {s s'' : σ} {b : β} :
    (x >>= f) s = (.ok b, s'') ↔ ∃ a s', x s = (.ok a, s') ∧ f a s' = (.ok b, s'') := by
  rw [bind_apply]
  refine ⟨?_, ?_⟩
  · intro h
    rcases hx : x s with ⟨r, s'⟩
    rw [hx] at h
    cases r with
    | ok a => exact ⟨a, s', rfl, h⟩
    | error e => exact absurd (congrArg Prod.fst h) (by simp)
  · intro hsome
    obtain ⟨a, s', hx, hf⟩ := hsome
    rw [hx]; exact hf

/-- A sequence that raises: the first part did, or it succeeded and the second did. -/
theorem bind_eq_error {x : Proc ε σ α} {f : α → Proc ε σ β} {s s'' : σ} {e : ε} :
    (x >>= f) s = (.error e, s'') ↔
      x s = (.error e, s'') ∨ ∃ a s', x s = (.ok a, s') ∧ f a s' = (.error e, s'') := by
  rw [bind_apply]
  rcases hx : x s with ⟨r, s'⟩
  cases r with
  | ok a =>
    refine ⟨?_, ?_⟩
    · intro h; exact Or.inr ⟨a, s', rfl, h⟩
    · intro h
      rcases h with h | ⟨b, t, h, hf⟩
      · exact absurd (congrArg Prod.fst h) (by simp)
      · obtain ⟨rfl, rfl⟩ : a = b ∧ s' = t := by simpa using h
        exact hf
  | error e' =>
    refine ⟨?_, ?_⟩
    · intro h; exact Or.inl (by simpa using h)
    · intro h
      rcases h with h | ⟨b, t, h, hf⟩
      · simpa using h
      · exact absurd (congrArg Prod.fst h) (by simp)

/-! ## What every outcome keeps -/

/-- Whatever the outcome, `R` relates the state before to the state after. -/
def Keeps (R : σ → σ → Prop) (x : Proc ε σ α) : Prop := ∀ s, R s (x s).2

/-- A relation that a program can keep step by step. -/
structure Frame (R : σ → σ → Prop) : Prop where
  refl : ∀ s, R s s
  trans : ∀ {a b c}, R a b → R b c → R a c

namespace Frame

variable {R : σ → σ → Prop} (h : Frame R)

include h

theorem pure (a : α) : Keeps R (Pure.pure a : Proc ε σ α) := fun s => h.refl s

theorem raise (e : ε) : Keeps R (Proc.raise e : Proc ε σ α) := fun s => h.refl s

theorem lift (e : Except ε α) : Keeps R (liftM e : Proc ε σ α) := fun s => h.refl s

theorem bind {x : Proc ε σ α} {f : α → Proc ε σ β} (hx : Keeps R x)
    (hf : ∀ a, Keeps R (f a)) : Keeps R (x >>= f) := by
  intro s
  have h1 := hx s
  rw [bind_apply]
  rcases hxs : x s with ⟨r, s'⟩
  rw [hxs] at h1
  cases r with
  | ok a => exact h.trans h1 (hf a s')
  | error e => exact h1

end Frame

/-! ## What every value returned satisfies -/

/-- Every value the program returns, from any state, satisfies `P`. -/
def Yields (P : α → Prop) (x : Proc ε σ α) : Prop := ∀ s a s', x s = (.ok a, s') → P a

theorem yields_pure {P : α → Prop} {a : α} (h : P a) : Yields P (pure a : Proc ε σ α) := by
  intro s b s' hb
  obtain ⟨rfl, _⟩ : a = b ∧ s = s' := by simpa using hb
  exact h

theorem yields_bind {P : β → Prop} {x : Proc ε σ α} {f : α → Proc ε σ β}
    (h : ∀ a, Yields P (f a)) : Yields P (x >>= f) := by
  intro s b s'' hb
  obtain ⟨a, s', _, hf⟩ := bind_eq_ok.mp hb
  exact h a s' b s'' hf

/-! ## Two runs of one program -/

/-- From states related by `R` the program ends alike: with the same value, or with an exception
both times, and in states related by `S`. -/
def Agrees (R S : σ → σ → Prop) (x : Proc ε σ α) : Prop :=
  ∀ s s', R s s' → (x s).1.toOption = (x s').1.toOption ∧ S (x s).2 (x s').2

variable {R S : σ → σ → Prop}

theorem agrees_pure (R : σ → σ → Prop) (a : α) : Agrees R R (pure a : Proc ε σ α) :=
  fun _ _ h => ⟨rfl, h⟩

theorem agrees_raise (R : σ → σ → Prop) (e : ε) : Agrees R R (raise e : Proc ε σ α) :=
  fun _ _ h => ⟨rfl, h⟩

theorem agrees_lift (R : σ → σ → Prop) (e : Except ε α) : Agrees R R (liftM e : Proc ε σ α) :=
  fun _ _ h => ⟨rfl, h⟩

theorem agrees_modify (R : σ → σ → Prop) {f : σ → σ} (hf : ∀ s s', R s s' → R (f s) (f s')) :
    Agrees R R (modify f : Proc ε σ Unit) :=
  fun s s' h => ⟨rfl, hf s s' h⟩

/-- What agrees only up to `S` afterwards is all right, if `R` says more. -/
theorem Agrees.mono {R' S' : σ → σ → Prop} {x : Proc ε σ α} (h : Agrees R S x)
    (hR : ∀ s s', R' s s' → R s s') (hS : ∀ s s', S s s' → S' s s') : Agrees R' S' x := by
  intro s s' hrel
  obtain ⟨hres, hafter⟩ := h s s' (hR s s' hrel)
  exact ⟨hres, hS _ _ hafter⟩

/-- A value that a program returns from some state. -/
def Returned (x : Proc ε σ α) (a : α) : Prop := ∃ s t, x s = (.ok a, t)

theorem returned_lift {e : Except ε α} {a : α} (h : Returned (liftM e : Proc ε σ α) a) :
    e = .ok a := by
  obtain ⟨s, t, h⟩ := h
  exact congrArg Prod.fst h

/-- **The rule for sequences**, with what is known in the middle: the relation, which has to be
enough where the first part raises, and that the first part returned the value. -/
theorem Agrees.bind_returned {T : σ → σ → Prop} {x : Proc ε σ α} {f : α → Proc ε σ β}
    (hx : Agrees R S x) (hf : ∀ a, Returned x a → Agrees S T (f a))
    (hST : ∀ s s', S s s' → T s s') : Agrees R T (x >>= f) := by
  intro s s' hrel
  obtain ⟨hres, hafter⟩ := hx s s' hrel
  rw [bind_apply, bind_apply]
  rcases hxs : x s with ⟨r, t⟩
  rcases hxs' : x s' with ⟨r', t'⟩
  rw [hxs, hxs'] at hres hafter
  cases r with
  | ok a =>
    cases r' with
    | ok a' =>
      obtain rfl : a = a' := Option.some.inj hres
      exact hf a ⟨s, t, hxs⟩ t t' hafter
    | error e' => exact absurd hres (by simp [Except.toOption])
  | error e =>
    cases r' with
    | ok a' => exact absurd hres (by simp [Except.toOption])
    | error e' => exact ⟨rfl, hST _ _ hafter⟩

theorem Agrees.bind {x : Proc ε σ α} {f : α → Proc ε σ β} (hx : Agrees R S x)
    (hf : ∀ a, Agrees S S (f a)) : Agrees R S (x >>= f) :=
  hx.bind_returned (fun a _ => hf a) fun _ _ h => h

/-- The rule behind a computation that does not look at the state. -/
theorem Agrees.lift_bind {e : Except ε α} {f : α → Proc ε σ β}
    (hf : ∀ a, e = .ok a → Agrees R S (f a)) (hRS : ∀ s s', R s s' → S s s') :
    Agrees R S (liftM e >>= f) :=
  (agrees_lift R e).bind_returned (fun a h => hf a (returned_lift h)) hRS

/-- A program on one component of the state. -/
theorem Agrees.zoom {τ : Type} {get : σ → τ} {set : τ → σ → σ} {x : Proc ε τ α}
    {Q : τ → τ → Prop} (hx : Agrees Q Q x) (hget : ∀ s s', R s s' → Q (get s) (get s'))
    (hset : ∀ s s' t t', Q t t' → S (set t s) (set t' s')) : Agrees R S (Proc.zoom get set x) := by
  intro s s' hrel
  obtain ⟨hres, hafter⟩ := hx _ _ (hget s s' hrel)
  exact ⟨hres, hset s s' _ _ hafter⟩

/-- Where one of two runs that agree returns, the other returns the same. -/
theorem Agrees.ok {x : Proc ε σ α} (h : Agrees R S x) {s s' t : σ} {a : α} (hrel : R s s')
    (hx : x s = (.ok a, t)) : ∃ t', x s' = (.ok a, t') ∧ S t t' := by
  obtain ⟨hres, hafter⟩ := h s s' hrel
  rcases hx' : x s' with ⟨r', t'⟩
  rw [hx, hx'] at hres hafter
  cases r' with
  | ok a' =>
    obtain rfl : a = a' := Option.some.inj hres
    exact ⟨t', rfl, hafter⟩
  | error e' => exact absurd hres (by simp [Except.toOption])

end Proc
