import Mathlib.Tactic.IntervalCases
import Versatile.Lib.Decimal
import Versatile.Lib.Search
import Versatile.Py.Value

/-!
# The flag of an identifier

Both managers compute the flag in the same way: the cache bit, the segment bit, and below
them four bits for the number of collisions avoided. The two low bits stay zero, so a
collision is avoided by adding `collision_inc`.
-/

namespace Versatile

open Py

/-- What one collision adds to a flag. -/
def collision_inc : Nat := 4

/-- `gen_flag`: the flag of an identifier. -/
def gen_flag (cache_bit segment_bit : Value) (collision_mngt : Nat) : Except Exc Nat := do
  let flag := 0
  if collision_mngt > 15 then
    throw (.raised "Collision range error")
  let flag := if cache_bit.truthy then flag ||| 128 else flag
  let flag := if segment_bit.truthy then flag ||| 64 else flag
  let collision_mngt := collision_mngt <<< 2
  return flag ||| collision_mngt

/-- The flag before any collision: the two bits alone. -/
def baseFlag (cache_bit segment_bit : Value) : Nat :=
  (if cache_bit.truthy then 128 else 0) + (if segment_bit.truthy then 64 else 0)

/-- The fields do not overlap, so the flag is a sum. -/
theorem gen_flag_of_le {c s : Value} {m : Nat} (h : m ≤ 15) :
    gen_flag c s m = .ok (baseFlag c s + collision_inc * m) := by
  have hlt : ¬ m > 15 := by omega
  unfold gen_flag baseFlag collision_inc
  cases c.truthy <;> cases s.truthy <;> interval_cases m <;> rfl

theorem gen_flag_of_gt {c s : Value} {m : Nat} (h : 15 < m) :
    gen_flag c s m = .error (.raised "Collision range error") := by
  unfold gen_flag
  rw [if_pos h]; rfl

/-- `gen_flag` with no collision succeeds. -/
theorem gen_flag_zero (c s : Value) : gen_flag c s 0 = .ok (baseFlag c s) :=
  gen_flag_of_le (Nat.zero_le 15)

theorem flag_add (flag i j : Nat) :
    flag + collision_inc * i + collision_inc * j = flag + collision_inc * (i + j) := by
  rw [Nat.mul_add, Nat.add_assoc]

theorem flag_succ (flag i : Nat) :
    flag + collision_inc * i + collision_inc = flag + collision_inc * (i + 1) := by
  rw [Nat.mul_succ, Nat.add_assoc]

/-! ## Searches for an identifier -/

/-- Different numbers of collisions give different flags. -/
theorem candidates_injective {layout : Nat → String} (hlayout : Function.Injective layout)
    (flag : Nat) : Function.Injective fun i => layout (flag + collision_inc * i) := by
  intro i j h
  have := hlayout h
  unfold collision_inc at this
  omega

/-- The result of a search, as a generator returns it. -/
def Returns (cand : Nat → String) : Search.Outcome → Except Exc String → Prop
  | .found k, r => r = .ok (cand k)
  | .failed _, r => ∃ e, r = .error e

/-- A generator keeps to the collision field: the identifier it returns has a flag of the
requested bits, and it fails when none of those gives a free identifier. -/
structure InField (layout : Nat → String) (c s : Value) (free : String → Prop)
    (r : Except Exc String) : Prop where
  inside : ∀ id, r = .ok id → ∃ m f, m ≤ 15 ∧ gen_flag c s m = .ok f ∧ id = layout f
  exhausted : (∀ m f, m ≤ 15 → gen_flag c s m = .ok f → ¬ free (layout f)) → ∃ e, r = .error e

/-- **A search keeps to the collision field** exactly when it is bounded by it. -/
theorem inField_iff {layout : Nat → String} (hlayout : Function.Injective layout) {c s : Value}
    {free : String → Prop} {skip taken : Nat → Bool} {fails : Nat → Nat → Prop}
    {o : Search.Outcome} {r : Except Exc String} (hrun : Search.Run skip taken fails 0 0 o)
    (hret : Returns (fun i => layout (baseFlag c s + collision_inc * i)) o r) :
    InField layout c s free r ↔ Search.Bounded skip taken fails
      (fun i => free (layout (baseFlag c s + collision_inc * i))) 15 := by
  have hsettled : Search.Settled skip taken fails 0 o := hrun.settled (by simp [Search.probes])
  rw [← hsettled.bounded_iff _ 15]
  refine ⟨?_, ?_⟩
  · intro h
    obtain ⟨hinside, hexhausted⟩ := h
    refine ⟨?_, ?_⟩
    · -- the flag of an identifier tells the candidate it was made from
      intro k heq1
      obtain rfl := heq1
      obtain ⟨m, f, hm, hf, heq⟩ := hinside _ hret
      rw [gen_flag_of_le hm] at hf
      obtain rfl := Except.ok.inj hf
      have := hlayout heq
      unfold collision_inc at this
      omega
    · intro hnone
      obtain ⟨e, he⟩ := hexhausted fun m f hm hf hfree' => by
        rw [gen_flag_of_le hm] at hf
        obtain rfl := Except.ok.inj hf
        exact hnone m hm hfree'
      cases o with
      | found k => exact absurd (hret.symm.trans he) (by simp)
      | failed k => exact ⟨k, rfl⟩
  · intro h
    obtain ⟨hbound, hnone⟩ := h
    refine ⟨?_, ?_⟩
    · intro id heq1
      obtain rfl := heq1
      cases o with
      | found k =>
        have hk := hbound k rfl
        exact ⟨k, _, hk, gen_flag_of_le hk, Except.ok.inj hret⟩
      | failed k =>
        obtain ⟨e, he⟩ := hret
        exact absurd he (by simp)
    · intro hno
      obtain ⟨k, rfl⟩ := hnone fun m hm hf => hno m _ hm (gen_flag_of_le hm) hf
      exact hret

end Versatile
