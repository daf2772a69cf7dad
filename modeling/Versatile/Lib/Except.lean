import Mathlib.Data.List.Defs
import Mathlib.Logic.Basic

/-!
# Sequences of fallible computations

When a sequence of computations, or one for each element of a list, goes through: exactly
when every part does.
-/

namespace Except

variable {ε α β : Type}

theorem bind_eq_ok {x : Except ε α} {f : α → Except ε β} {b : β} :
    (x >>= f) = .ok b ↔ ∃ a, x = .ok a ∧ f a = .ok b := by
  cases x with
  | error e =>
    refine ⟨?_, ?_⟩
    · intro h; cases h
    · rintro ⟨a, h, _⟩; cases h
  | ok a =>
    refine ⟨?_, ?_⟩
    · intro h; exact ⟨a, rfl, h⟩
    · intro hsome
      obtain ⟨a', h, hf⟩ := hsome
      obtain rfl : a = a' := by simpa using h
      exact hf

theorem pure_eq_ok {a b : α} : (pure a : Except ε α) = .ok b ↔ a = b := by
  simp [pure, Except.pure]

/-- What is asked of a result can be decided where it can be of a value. -/
instance decidableForallOk {x : Except ε α} {p : α → Prop} [DecidablePred p] :
    Decidable (∀ a, x = .ok a → p a) :=
  match x with
  | .error _ => .isTrue fun _ h => nomatch h
  | .ok a => decidable_of_iff (p a) ⟨fun h _ heq => Except.ok.inj heq ▸ h, fun h => h a rfl⟩

/-- The results of a list, one by one. -/
theorem mapM_cons_eq_ok {f : α → Except ε β} {a : α} {l : List α} {bs : List β} :
    (a :: l).mapM f = .ok bs ↔ ∃ b bs', f a = .ok b ∧ l.mapM f = .ok bs' ∧ bs = b :: bs' := by
  rw [List.mapM_cons, bind_eq_ok]
  refine ⟨?_, ?_⟩
  · intro h
    obtain ⟨b, hb, h⟩ := h
    obtain ⟨bs', hbs, h⟩ := bind_eq_ok.mp h
    exact ⟨b, bs', hb, hbs, (pure_eq_ok.mp h).symm⟩
  · intro hsome
    obtain ⟨b, bs', hb, hbs, rfl⟩ := hsome
    exact ⟨b, hb, bind_eq_ok.mpr ⟨bs', hbs, rfl⟩⟩

/-- Every result comes from an element. -/
theorem mem_mapM {f : α → Except ε β} {l : List α} {bs : List β} (h : l.mapM f = .ok bs) {b : β}
    (hb : b ∈ bs) : ∃ a ∈ l, f a = .ok b := by
  induction l generalizing bs with
  | nil =>
    obtain rfl : [] = bs := pure_eq_ok.mp h
    exact absurd hb (by simp)
  | cons a l ih =>
    obtain ⟨c, cs, hc, hcs, rfl⟩ := mapM_cons_eq_ok.mp h
    rcases List.mem_cons.mp hb with rfl | hb
    · exact ⟨a, by simp, hc⟩
    · obtain ⟨a', ha', hfa⟩ := ih hcs hb
      exact ⟨a', List.mem_cons_of_mem _ ha', hfa⟩

theorem exists_mem_mapM {f : α → Except ε β} {l : List α} {bs : List β} (h : l.mapM f = .ok bs)
    {a : α} (ha : a ∈ l) : ∃ b ∈ bs, f a = .ok b := by
  induction l generalizing bs with
  | nil => exact absurd ha (by simp)
  | cons a' l ih =>
    obtain ⟨c, cs, hc, hcs, rfl⟩ := mapM_cons_eq_ok.mp h
    rcases List.mem_cons.mp ha with rfl | ha
    · exact ⟨c, by simp, hc⟩
    · obtain ⟨b, hb, hfb⟩ := ih hcs ha
      exact ⟨b, List.mem_cons_of_mem _ hb, hfb⟩

/-- The results stand in the order of the elements. -/
theorem forall₂_mapM {f : α → Except ε β} {l : List α} {bs : List β} (h : l.mapM f = .ok bs) :
    List.Forall₂ (fun a b => f a = .ok b) l bs := by
  induction l generalizing bs with
  | nil =>
    obtain rfl : [] = bs := pure_eq_ok.mp h
    exact .nil
  | cons a l ih =>
    obtain ⟨b, bs', hb, hbs, rfl⟩ := mapM_cons_eq_ok.mp h
    exact .cons hb (ih hbs)

/-- Results that are related to their elements: exactly if each element has one. -/
theorem mapM_forall₂_iff {f : α → Except ε β} {P : α → β → Prop} {l : List α} :
    (∃ bs, l.mapM f = .ok bs ∧ List.Forall₂ P l bs) ↔ ∀ a ∈ l, ∃ b, f a = .ok b ∧ P a b := by
  induction l with
  | nil => exact ⟨fun _ => by simp, fun _ => ⟨[], rfl, .nil⟩⟩
  | cons a l ih =>
    rw [List.forall_mem_cons, ← ih]
    refine ⟨?_, ?_⟩
    · intro hsome
      obtain ⟨_, h, hP⟩ := hsome
      obtain ⟨b, bs, hb, hbs, rfl⟩ := mapM_cons_eq_ok.mp h
      obtain ⟨hPb, hPbs⟩ := List.forall₂_cons.mp hP
      exact ⟨⟨b, hb, hPb⟩, bs, hbs, hPbs⟩
    · intro hsome
      obtain ⟨⟨b, hb, hPb⟩, bs, hbs, hPbs⟩ := hsome
      exact ⟨b :: bs, mapM_cons_eq_ok.mpr ⟨b, bs, hb, hbs, rfl⟩, .cons hPb hPbs⟩

/-- A list goes through exactly if each of its elements does. -/
theorem mapM_isOk_iff {f : α → Except ε β} {l : List α} :
    (∃ bs, l.mapM f = .ok bs) ↔ ∀ a ∈ l, ∃ b, f a = .ok b := by
  refine ⟨?_, ?_⟩
  · intro hsome a ha
    obtain ⟨bs, h⟩ := hsome
    obtain ⟨b, _, hb⟩ := exists_mem_mapM h ha
    exact ⟨b, hb⟩
  · intro h
    obtain ⟨bs, hbs, _⟩ := (mapM_forall₂_iff (P := fun _ _ => True)).mpr fun a ha =>
      (h a ha).imp fun _ hb => ⟨hb, trivial⟩
    exact ⟨bs, hbs⟩

/-- Two passes over a list are one. -/
theorem mapM_mapM_eq_ok {γ : Type} {f : α → Except ε β} {g : β → Except ε γ} {l : List α}
    {cs : List γ} : (∃ bs, l.mapM f = .ok bs ∧ bs.mapM g = .ok cs) ↔
      l.mapM (fun a => f a >>= g) = .ok cs := by
  induction l generalizing cs with
  | nil =>
    refine ⟨?_, ?_⟩
    · intro hsome
      obtain ⟨bs, hbs, hcs⟩ := hsome
      obtain rfl : [] = bs := pure_eq_ok.mp hbs
      exact hcs
    · exact fun h => ⟨[], rfl, h⟩
  | cons a l ih =>
    simp only [mapM_cons_eq_ok, bind_eq_ok, ← ih]
    refine ⟨?_, ?_⟩
    · intro hsome
      obtain ⟨_, ⟨b, bs, hb, hbs, rfl⟩, hcs⟩ := hsome
      obtain ⟨c, cs', hc, hcs', rfl⟩ := mapM_cons_eq_ok.mp hcs
      exact ⟨c, cs', ⟨b, hb, hc⟩, ⟨bs, hbs, hcs'⟩, rfl⟩
    · intro hsome
      obtain ⟨c, cs', ⟨b, hb, hc⟩, ⟨bs, hbs, hcs'⟩, rfl⟩ := hsome
      exact ⟨b :: bs, ⟨b, bs, hb, hbs, rfl⟩, mapM_cons_eq_ok.mpr ⟨c, cs', hc, hcs', rfl⟩⟩

/-- There is one result for each element. -/
theorem length_mapM {f : α → Except ε β} {l : List α} {bs : List β} (h : l.mapM f = .ok bs) :
    bs.length = l.length := by
  induction l generalizing bs with
  | nil =>
    obtain rfl : [] = bs := pure_eq_ok.mp h
    rfl
  | cons a l ih =>
    obtain ⟨b, bs', _, hbs, rfl⟩ := mapM_cons_eq_ok.mp h
    rw [List.length_cons, List.length_cons, ih hbs]

/-- A check of every element passes when it passes each. -/
theorem forM_eq_ok {f : α → Except ε Unit} {l : List α} :
    l.forM f = .ok () ↔ ∀ a ∈ l, f a = .ok () := by
  induction l with
  | nil => simp [pure, Except.pure]
  | cons a l ih =>
    have hcons : (a :: l).forM f = (f a >>= fun _ => l.forM f) := rfl
    rw [hcons, bind_eq_ok, List.forall_mem_cons, ← ih]
    exact ⟨fun ⟨_, h1, h2⟩ => ⟨h1, h2⟩, fun ⟨h1, h2⟩ => ⟨_, h1, h2⟩⟩

end Except
