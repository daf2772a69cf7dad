import Mathlib.Data.List.Basic

/-!
# Dictionaries as association lists

A dictionary is the list of its entries, oldest first. Reading takes the first entry of a
key, writing replaces it in place or appends a new one, and erasing drops every entry of
the key. The order of the entries is never observed by the lemmas here: each one speaks of
`get` and `has` alone.
-/

/-- A dictionary: its entries, oldest first. -/
abbrev Dict (κ ν : Type) := List (κ × ν)

namespace Dict

variable {κ ν : Type} [DecidableEq κ]

/-- The value stored at a key. -/
def get (d : Dict κ ν) (k : κ) : Option ν := d.lookup k

/-- Is the key present? -/
def has (d : Dict κ ν) (k : κ) : Bool := (d.get k).isSome

/-- Write a key: in place when it is there, at the end otherwise. -/
def set : Dict κ ν → κ → ν → Dict κ ν
  | [], k, v => [(k, v)]
  | e :: d, k, v => if e.1 = k then (k, v) :: d else e :: set d k v

/-- Drop a key. -/
def erase (d : Dict κ ν) (k : κ) : Dict κ ν := d.filter (fun e => e.1 ≠ k)

/-- The keys, oldest first. -/
def keys (d : Dict κ ν) : List κ := d.map Prod.fst

@[simp] theorem get_nil (k : κ) : get ([] : Dict κ ν) k = none := rfl

@[simp] theorem has_nil (k : κ) : has ([] : Dict κ ν) k = false := rfl

theorem get_cons (e : κ × ν) (d : Dict κ ν) (k : κ) :
    get (e :: d) k = if k = e.1 then some e.2 else get d k := by
  unfold get
  by_cases h : k = e.1
  · rw [if_pos h, h, List.lookup_cons_self]
  · rw [if_neg h, List.lookup_cons, beq_eq_false_iff_ne.mpr h]

/-- What is stored at a key is an entry. -/
theorem mem_of_get {d : Dict κ ν} {k : κ} {v : ν} (h : d.get k = some v) : (k, v) ∈ d := by
  obtain ⟨before, after, rfl, _⟩ := List.lookup_eq_some_iff.mp h
  exact List.mem_append_right before List.mem_cons_self

theorem get_set (d : Dict κ ν) (k k' : κ) (v : ν) :
    (d.set k v).get k' = if k' = k then some v else d.get k' := by
  induction d with
  | nil => rw [set, get_cons]
  | cons e d ih =>
    rw [set]
    by_cases he : e.1 = k
    · rw [if_pos he, get_cons, get_cons, he]
      by_cases hk : k' = k
      · rw [if_pos hk, if_pos hk]
      · rw [if_neg hk, if_neg hk, if_neg hk]
    · rw [if_neg he, get_cons, get_cons, ih]
      by_cases hk : k' = k
      · have hne : k' ≠ e.1 := fun h => he (h.symm.trans hk)
        rw [if_neg hne, if_pos hk, if_pos hk]
      · rw [if_neg hk, if_neg hk]

@[simp] theorem get_set_self (d : Dict κ ν) (k : κ) (v : ν) : (d.set k v).get k = some v := by
  rw [get_set, if_pos rfl]

/-- The second write of a key replaces the first. -/
@[simp] theorem set_set (d : Dict κ ν) (k : κ) (v w : ν) : (d.set k v).set k w = d.set k w := by
  induction d with
  | nil => simp [set]
  | cons e d ih =>
    by_cases he : e.1 = k
    · simp [set, he]
    · simp [set, he, ih]

theorem get_erase (d : Dict κ ν) (k k' : κ) :
    (d.erase k).get k' = if k' = k then none else d.get k' := by
  induction d with
  | nil => simp [erase]
  | cons e d ih =>
    by_cases he : e.1 = k
    · have hdrop : erase (e :: d) k = erase d k := by simp [erase, he]
      rw [hdrop, ih, get_cons, he]
      by_cases hk : k' = k
      · rw [if_pos hk, if_pos hk]
      · rw [if_neg hk, if_neg hk, if_neg hk]
    · have hkeep : erase (e :: d) k = e :: erase d k := by simp [erase, he]
      rw [hkeep, get_cons, ih, get_cons]
      by_cases hk : k' = k
      · have hne : k' ≠ e.1 := fun h => he (h.symm.trans hk)
        rw [if_neg hne, if_pos hk, if_pos hk]
      · rw [if_neg hk, if_neg hk]

/-- Writing a new key and dropping it again changes nothing. -/
theorem erase_set_new {d : Dict κ ν} {k : κ} (h : k ∉ d.keys) (v : ν) :
    (d.set k v).erase k = d := by
  induction d with
  | nil => simp [set, erase]
  | cons e d ih =>
    obtain ⟨hne, htail⟩ : k ≠ e.1 ∧ k ∉ keys d := by simpa [keys] using h
    have hset : set (e :: d) k v = e :: set d k v := by rw [set, if_neg (Ne.symm hne)]
    have herase : erase (e :: set d k v) k = e :: erase (set d k v) k := by
      simp [erase, Ne.symm hne]
    rw [hset, herase, ih htail]

/-- Writing a new key appends it. -/
theorem set_new {d : Dict κ ν} {k : κ} (h : k ∉ d.keys) (v : ν) : d.set k v = d ++ [(k, v)] := by
  induction d with
  | nil => rfl
  | cons e d ih =>
    obtain ⟨hne, htail⟩ : k ≠ e.1 ∧ k ∉ keys d := by simpa [keys] using h
    rw [set, if_neg (Ne.symm hne), ih htail, List.cons_append]

@[simp] theorem has_set (d : Dict κ ν) (k k' : κ) (v : ν) :
    (d.set k v).has k' = (decide (k' = k) || d.has k') := by
  unfold has
  rw [get_set]
  by_cases h : k' = k <;> simp [h]

@[simp] theorem has_erase (d : Dict κ ν) (k k' : κ) :
    (d.erase k).has k' = (!decide (k' = k) && d.has k') := by
  unfold has
  rw [get_erase]
  by_cases h : k' = k <;> simp [h]

theorem mem_keys {d : Dict κ ν} {k : κ} : k ∈ d.keys ↔ d.has k = true := by
  induction d with
  | nil => simp [keys]
  | cons e d ih =>
    have hcons : keys (e :: d) = e.1 :: keys d := rfl
    unfold has at ih ⊢
    rw [hcons, List.mem_cons, get_cons, ih]
    by_cases h : k = e.1 <;> simp [h]

/-- Writing a key keeps the keys distinct. -/
theorem nodup_set {d : Dict κ ν} (h : d.keys.Nodup) (k : κ) (v : ν) : (d.set k v).keys.Nodup := by
  induction d with
  | nil => simp [set, keys]
  | cons e d ih =>
    have hcons : ∀ (e : κ × ν) (d : Dict κ ν), keys (e :: d) = e.1 :: keys d := fun _ _ => rfl
    rw [hcons, List.nodup_cons] at h
    rw [set]
    by_cases he : e.1 = k
    · rw [if_pos he, hcons, ← he]
      exact List.nodup_cons.mpr h
    · rw [if_neg he, hcons]
      refine List.nodup_cons.mpr ⟨?_, ih h.2⟩
      rw [mem_keys, has_set, decide_eq_false he, Bool.false_or, ← mem_keys]
      exact h.1

end Dict
