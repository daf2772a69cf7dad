import Mathlib.Logic.Function.Basic

/-!
# Counted references

Objects that are given out with one reference, and freed when the last one is put. An object is
allocated as long as its count is positive; those not yet given out have none.
-/

namespace Refs

/-- The counts of all objects, and the first one that was never given out. -/
structure Heap where
  next : Nat
  count : Nat → Nat
  fresh : ∀ id, next ≤ id → count id = 0

/-- Nothing is allocated. -/
def Heap.empty : Heap := ⟨0, fun _ => 0, fun _ _ => rfl⟩

/-- The object is allocated. -/
def Heap.Live (h : Heap) (id : Nat) : Prop := 0 < h.count id

instance (h : Heap) (id : Nat) : Decidable (h.Live id) := inferInstanceAs (Decidable (0 < _))

/-- Give out an object, with one reference. -/
def Heap.alloc (h : Heap) : Nat × Heap :=
  (h.next, {
    next := h.next + 1
    count := Function.update h.count h.next 1
    fresh := by
      intro id hid
      rw [Function.update_of_ne (by omega)]
      exact h.fresh id (by omega) })

/-- Put a reference. -/
def Heap.put (h : Heap) (id : Nat) : Heap where
  next := h.next
  count := Function.update h.count id (h.count id - 1)
  fresh := by
    intro j hj
    by_cases hji : j = id
    · rw [hji, Function.update_self, ← hji, h.fresh j hj]
    · rw [Function.update_of_ne hji, h.fresh j hj]

theorem not_live_empty (id : Nat) : ¬ Heap.empty.Live id := Nat.lt_irrefl 0

theorem not_live_next (h : Heap) : ¬ h.Live h.next := by
  unfold Heap.Live
  rw [h.fresh h.next (Nat.le_refl _)]
  exact Nat.lt_irrefl 0

theorem count_alloc_self (h : Heap) : h.alloc.2.count h.alloc.1 = 1 := Function.update_self ..

theorem count_alloc_of_live {h : Heap} {id : Nat} (hid : h.Live id) :
    h.alloc.2.count id = h.count id := by
  have hne : id ≠ h.next := fun heq => not_live_next h (heq ▸ hid)
  exact Function.update_of_ne hne ..

/-- **What is allocated after an allocation.** -/
theorem live_alloc {h : Heap} {id : Nat} : h.alloc.2.Live id ↔ id = h.alloc.1 ∨ h.Live id := by
  by_cases hid : id = h.alloc.1
  · have hlive : h.alloc.2.Live id := by
      unfold Heap.Live
      rw [hid, count_alloc_self]
      exact Nat.one_pos
    exact iff_of_true hlive (Or.inl hid)
  · have hcount : h.alloc.2.count id = h.count id := Function.update_of_ne hid ..
    simp only [Heap.Live, hcount, hid, false_or]

theorem count_put_of_ne {h : Heap} {id j : Nat} (hj : j ≠ id) :
    (h.put id).count j = h.count j := Function.update_of_ne hj ..

/-- **What is allocated after the last reference was put.** -/
theorem live_put {h : Heap} {id j : Nat} (hid : h.count id = 1) :
    (h.put id).Live j ↔ h.Live j ∧ j ≠ id := by
  by_cases hj : j = id
  · have hfreed : (h.put id).count j = 0 := by
      rw [hj]
      show Function.update h.count id (h.count id - 1) id = 0
      rw [Function.update_self, hid]
    have hdead : ¬ (h.put id).Live j := by
      unfold Heap.Live
      omega
    exact iff_of_false hdead fun hlive => hlive.2 hj
  · simp only [Heap.Live, count_put_of_ne hj, hj, ne_eq, not_false_eq_true, and_true]

end Refs
