import Mathlib.Data.List.Forall2
import Mathlib.Order.Bounds.Defs
import Versatile.Request

/-!
# The identifiers of one registration

An item of a registration is given an identifier made of its flag and its hash, or, if it is to
avoid collisions, of the first flag behind it whose identifier is not registered. "Registered"
is what the table held when the request came: the rows of the request itself are inserted after
its last item. So the identifiers of a request keep apart from the table, and from each other
only where its items do (`distinguishes_iff`): two items with one hash come to one identifier
as soon as the table holds all identifiers between their flags, and two items with different
hashes where the text of a flag goes on with the digits that one hash has more than the other.
-/

namespace Versatile

open Py

/-- What the identifier of an item is made of. -/
structure Base where
  flag : Nat
  hash_val : String
  avoid : Bool

/-- Read what the identifier of an item is made of. -/
def baseOf (item : Value) : Except Exc Base := do
  let item ← readItem item
  let flag ← gen_flag item.cache item.segment 0
  let hash_val ← item.hash.asStr
  return ⟨flag, hash_val, item.collisionAvoid.truthy⟩

section Issued

variable (layout : Nat → String → String) (registered : String → Bool)

/-- Candidate `i` of an item. -/
def Base.candidate (b : Base) (i : Nat) : String := layout (b.flag + collision_inc * i) b.hash_val

/-- The identifier an item is given: its own candidate, or the first that is not registered. -/
def Issued (b : Base) (id : String) : Prop :=
  (b.avoid = false ∧ id = b.candidate layout 0) ∨
    (b.avoid = true ∧ ∃ k, IsLeast {k | registered (b.candidate layout k) = false} k ∧
      id = b.candidate layout k)

/-- Collision avoidance works inside one request: the identifiers of the items that avoid
collisions are not registered, and no other item has them. -/
structure Distinguishes (bases : List Base) (ids : List String) : Prop where
  fresh : ∀ (i : Nat) (a : Base) (id : String), bases[i]? = some a → a.avoid = true →
    ids[i]? = some id → registered id = false
  apart : ∀ (i j : Nat) (a : Base) (id : String), i ≠ j → bases[i]? = some a → a.avoid = true →
    ids[i]? = some id → ids[j]? ≠ some id

end Issued

/-! ## Flags and hashes -/

/-- The text of a flag in front of a hash: the layout of `flexIDMnger_db.py`. -/
def inFront (flag hash_val : String) : String := flag ++ hash_val

/-- The text of a flag behind a hash: the layout of `flexIDMnger.py`. -/
def behind (flag hash_val : String) : String := hash_val ++ flag

/-- A way to join texts. -/
structure Joins (glue : String → String → String) : Prop where
  empty : ∀ h, glue "" h = h
  length : ∀ x h, (glue x h).length = x.length + h.length
  assoc : ∀ x y h, glue (glue x y) h = glue x (glue y h)
  cancel : ∀ x y h, glue x h = glue y h → x = y
  /-- Where two texts join to the same, one of the second parts has the digits that the other
  first part has more. -/
  split : ∀ x y h h', glue x h = glue y h' →
    (∃ ds, h = glue ds h' ∧ y = glue x ds) ∨ ∃ ds, h' = glue ds h ∧ x = glue y ds

/-- Two splits of one text: one of them cuts earlier. -/
theorem append_split {x y h h' : String} (heq : x ++ h = y ++ h') :
    (∃ ds, h = ds ++ h' ∧ y = x ++ ds) ∨ ∃ ds, h' = ds ++ h ∧ x = y ++ ds := by
  have hchars := congrArg String.toList heq
  rw [String.toList_append, String.toList_append] at hchars
  rcases List.append_eq_append_iff.mp hchars with ⟨cs, hy, hh⟩ | ⟨cs, hx, hh⟩
  · refine Or.inl ⟨String.ofList cs, String.toList_inj.mp ?_, String.toList_inj.mp ?_⟩
    · rw [String.toList_append, String.toList_ofList, hh]
    · rw [String.toList_append, String.toList_ofList, hy]
  · refine Or.inr ⟨String.ofList cs, String.toList_inj.mp ?_, String.toList_inj.mp ?_⟩
    · rw [String.toList_append, String.toList_ofList, hh]
    · rw [String.toList_append, String.toList_ofList, hx]

theorem inFront_joins : Joins inFront where
  empty := fun _ => String.empty_append
  length := fun x h => String.length_append x h
  assoc := fun _ _ _ => String.append_assoc
  cancel := fun _ _ h heq => (String.append_left_inj h).mp heq
  split := fun _ _ _ _ heq => append_split heq

theorem behind_joins : Joins behind where
  empty := fun _ => String.append_empty
  length := fun x h => by rw [behind, String.length_append, Nat.add_comm]
  assoc := fun _ _ _ => String.append_assoc.symm
  cancel := fun _ _ h heq => (String.append_right_inj h).mp heq
  split := by
    intro x y h h' heq
    rcases append_split heq with ⟨ds, hx, hh⟩ | ⟨ds, hy, hh⟩
    · exact Or.inr ⟨ds, hh, hx⟩
    · exact Or.inl ⟨ds, hh, hy⟩

section Clash

variable (glue : String → String → String) (registered : String → Bool)

/-- The identifier of a flag and a hash. -/
def identifier (flag : Nat) (hash_val : String) : String := glue (toString flag) hash_val

/-- The longer of two hashes is the shorter with digits, and the text of one flag is that of the
other with these digits. -/
def Extends (flag : Nat) (hash_val : String) (flag' : Nat) (hash_val' : String) : Prop :=
  ∃ ds, ds ≠ "" ∧ hash_val = glue ds hash_val' ∧ toString flag' = glue (toString flag) ds

/-- Two items that come to one identifier, the first of them avoiding collisions. -/
inductive Clash (a b : Base) : Prop where
  /-- Equal hashes, and all flags from the first item's up to the second item's are taken. -/
  | upward {j : Nat} : a.hash_val = b.hash_val → b.flag = a.flag + collision_inc * j →
      (∀ i, i < j → registered (a.candidate (identifier glue) i) = true) →
      (b.avoid = false → registered (b.candidate (identifier glue) 0) = false) → Clash a b
  /-- Equal hashes, and all flags from the second item's up to the first item's are taken. -/
  | downward {j : Nat} : a.hash_val = b.hash_val → b.avoid = true →
      a.flag = b.flag + collision_inc * j →
      (∀ i, i < j → registered (b.candidate (identifier glue) i) = true) → Clash a b
  /-- One hash is the other with digits: two flags make one text with them, which is free, and
  all flags before them are taken. -/
  | digits {k l : Nat} :
      (Extends glue (a.flag + collision_inc * k) a.hash_val (b.flag + collision_inc * l)
          b.hash_val ∨
        Extends glue (b.flag + collision_inc * l) b.hash_val (a.flag + collision_inc * k)
          a.hash_val) →
      (∀ i, i < k → registered (a.candidate (identifier glue) i) = true) →
      registered (a.candidate (identifier glue) k) = false → (b.avoid = false → l = 0) →
      (∀ i, i < l → registered (b.candidate (identifier glue) i) = true) → Clash a b

/-- The items that avoid collisions keep apart from all others. -/
def AllApart (bases : List Base) : Prop :=
  ∀ (i j : Nat) (a b : Base), i ≠ j → bases[i]? = some a → bases[j]? = some b → a.avoid = true →
    ¬ Clash glue registered a b

variable {glue registered}

/-- **One text is two identifiers** where the flags are equal, or one extends the other. -/
theorem identifier_eq_iff (hglue : Joins glue) {f g : Nat} {h h' : String} :
    identifier glue f h = identifier glue g h' ↔
      (h = h' ∧ f = g) ∨ Extends glue f h g h' ∨ Extends glue g h' f h := by
  unfold identifier
  refine ⟨?_, ?_⟩
  · intro heq
    by_cases hsame : h = h'
    · subst hsame
      exact Or.inl ⟨rfl, Decimal.toString_nat_injective (hglue.cancel _ _ _ heq)⟩
    · -- the hashes differ, so there are digits
      rcases hglue.split _ _ _ _ heq with ⟨ds, hh, hg⟩ | ⟨ds, hh, hf⟩
      · refine Or.inr (Or.inl ⟨ds, fun hnil => hsame ?_, hh, hg⟩)
        rw [hh, hnil, hglue.empty]
      · refine Or.inr (Or.inr ⟨ds, fun hnil => hsame ?_, hh, hf⟩)
        rw [hh, hnil, hglue.empty]
  · intro h
    rcases h with ⟨rfl, rfl⟩ | ⟨ds, _, rfl, hg⟩ | ⟨ds, _, rfl, hf⟩
    · rfl
    · rw [hg, hglue.assoc]
    · rw [hf, hglue.assoc]

/-- Only a longer hash extends another. -/
theorem Extends.length_lt (hglue : Joins glue) {f g : Nat} {h h' : String}
    (hext : Extends glue f h g h') : h'.length < h.length := by
  obtain ⟨ds, hds, rfl, _⟩ := hext
  have hpos : ds.length ≠ 0 := fun hzero => hds (String.length_eq_zero_iff.mp hzero)
  rw [hglue.length]
  omega

/-- An item that avoids collisions is given its first candidate that is free. -/
theorem Issued.least {layout : Nat → String → String} {b : Base} {id : String}
    (h : Issued layout registered b id) (havoid : b.avoid = true) :
    ∃ l, IsLeast {k | registered (b.candidate layout k) = false} l ∧
      id = b.candidate layout l := by
  rcases h with ⟨hno, _⟩ | ⟨_, hl⟩
  · rw [havoid] at hno
    exact absurd hno (by simp)
  · exact hl

/-- An item is given a candidate with all before it taken; its first, if it avoids nothing. -/
theorem Issued.passed {layout : Nat → String → String} {b : Base} {id : String}
    (h : Issued layout registered b id) :
    ∃ l, id = b.candidate layout l ∧ (b.avoid = false → l = 0) ∧
      ∀ i, i < l → registered (b.candidate layout i) = true := by
  rcases h with ⟨havoid, rfl⟩ | ⟨havoid, l, hl, rfl⟩
  · exact ⟨0, rfl, fun _ => rfl, fun i hi => absurd hi (Nat.not_lt_zero i)⟩
  · refine ⟨l, rfl, fun hno => absurd (havoid.symm.trans hno) (by simp), fun i hi => ?_⟩
    by_contra hfree
    exact absurd (hl.2 (Bool.eq_false_iff.mpr hfree)) (Nat.not_le_of_lt hi)

/-- Behind taken candidates lies the first that is free. -/
theorem le_of_taken {p : Nat → Bool} {j k : Nat} (htaken : ∀ i, i < j → p i = true)
    (hfree : p k = false) : j ≤ k := by
  by_contra hlt
  rw [htaken k (by omega)] at hfree
  exact absurd hfree (by simp)

/-- The candidates of equal hashes, from flags that `j` collisions lie between. -/
theorem candidate_shift {layout : Nat → String → String} {a b : Base} {j : Nat}
    (hhash : a.hash_val = b.hash_val) (hflag : b.flag = a.flag + collision_inc * j) (i : Nat) :
    b.candidate layout i = a.candidate layout (j + i) := by
  unfold Base.candidate
  rw [hflag, hhash, flag_add]

/-- Two items with equal hashes that both avoid collisions come to one identifier, when all
flags from the one up to the other are taken. -/
theorem issued_eq_of_taken {layout : Nat → String → String} {a b : Base} {j : Nat} {x y : String}
    (ha : Issued layout registered a x) (hb : Issued layout registered b y)
    (havoid : a.avoid = true) (havoid' : b.avoid = true) (hhash : a.hash_val = b.hash_val)
    (hflag : b.flag = a.flag + collision_inc * j)
    (htaken : ∀ i, i < j → registered (a.candidate layout i) = true) : x = y := by
  obtain ⟨k, hk, rfl⟩ := ha.least havoid
  obtain ⟨l, hl, rfl⟩ := hb.least havoid'
  have hshift : ∀ i, b.candidate layout i = a.candidate layout (j + i) :=
    candidate_shift hhash hflag
  have hjk : j ≤ k := le_of_taken (p := fun i => registered (a.candidate layout i)) htaken hk.1
  have hkl : k ≤ j + l := hk.2 (by
    have hfree : registered (b.candidate layout l) = false := hl.1
    rw [hshift] at hfree
    exact hfree)
  have hlk : l ≤ k - j := hl.2 (by
    have hfree : registered (a.candidate layout k) = false := hk.1
    rw [show k = j + (k - j) by omega, ← hshift] at hfree
    exact hfree)
  rw [hshift, show j + l = k by omega]

/-- **Two items are given one identifier**, the first of them avoiding collisions, exactly if
they clash. -/
theorem issued_eq_iff (hglue : Joins glue) {a b : Base} {x y : String}
    (ha : Issued (identifier glue) registered a x) (hb : Issued (identifier glue) registered b y)
    (havoid : a.avoid = true) : x = y ↔ Clash glue registered a b := by
  refine ⟨?_, ?_⟩
  · intro heq
    obtain ⟨k, hk, rfl⟩ := ha.least havoid
    obtain ⟨l, rfl, hfirst, htaken'⟩ := hb.passed
    have htaken : ∀ i, i < k → registered (a.candidate (identifier glue) i) = true := by
      intro i hi
      by_contra hfree
      exact absurd (hk.2 (Bool.eq_false_iff.mpr hfree)) (Nat.not_le_of_lt hi)
    rcases (identifier_eq_iff hglue).mp heq with ⟨hhash, hflag⟩ | hext
    · unfold collision_inc at hflag
      by_cases hle : l ≤ k
      · refine .upward hhash (j := k - l) (by unfold collision_inc; omega)
          (fun i hi => htaken i (by omega)) fun hno => ?_
        obtain rfl := hfirst hno
        rw [← heq]
        exact hk.1
      · refine .downward hhash ?_ (j := l - k) (by unfold collision_inc; omega)
          fun i hi => htaken' i (by omega)
        by_contra hno
        have := hfirst (Bool.eq_false_iff.mpr hno)
        omega
    · exact .digits hext htaken hk.1 hfirst htaken'
  · intro hclash
    cases hclash with
    | @upward j hhash hflag htaken hown =>
      cases havoid' : b.avoid with
      | true => exact issued_eq_of_taken ha hb havoid havoid' hhash hflag htaken
      | false =>
        -- the second item keeps its own flag, which is the first free one of the first item
        have hshift : b.candidate (identifier glue) 0 =
            a.candidate (identifier glue) (j + 0) :=
          candidate_shift hhash hflag 0
        obtain ⟨l, rfl, hfirst, _⟩ := hb.passed
        obtain rfl := hfirst havoid'
        obtain ⟨k, hk, rfl⟩ := ha.least havoid
        have hjk : j ≤ k :=
          le_of_taken (p := fun i => registered (a.candidate (identifier glue) i)) htaken hk.1
        have hkj : k ≤ j := hk.2 (by
          have hfree := hown havoid'
          rw [hshift] at hfree
          exact hfree)
        rw [hshift, show j + 0 = k by omega]
    | downward hhash havoid' hflag htaken =>
      exact (issued_eq_of_taken hb ha havoid' havoid hhash.symm hflag htaken).symm
    | @digits k l hext htaken hfree hfirst htaken' =>
      have heq : a.candidate (identifier glue) k = b.candidate (identifier glue) l :=
        (identifier_eq_iff hglue).mpr (Or.inr hext)
      obtain ⟨k', hk, rfl⟩ := ha.least havoid
      have hkk : k = k' := Nat.le_antisymm
        (le_of_taken (p := fun i => registered (a.candidate (identifier glue) i)) htaken hk.1)
        (hk.2 hfree)
      rw [← hkk, heq]
      cases havoid' : b.avoid with
      | true =>
        obtain ⟨l', hl, rfl⟩ := hb.least havoid'
        have hll : l = l' := Nat.le_antisymm
          (le_of_taken (p := fun i => registered (b.candidate (identifier glue) i)) htaken' hl.1)
          (hl.2 (by rw [Set.mem_ofPred_eq, ← heq]; exact hfree))
        rw [hll]
      | false =>
        obtain ⟨l', rfl, hfirst', _⟩ := hb.passed
        rw [hfirst havoid', hfirst' havoid']

/-- **When collision avoidance works inside one request**: exactly if its items keep apart. -/
theorem distinguishes_iff (hglue : Joins glue) {bases : List Base} {ids : List String}
    (h : List.Forall₂ (Issued (identifier glue) registered) bases ids) :
    Distinguishes registered bases ids ↔ AllApart glue registered bases := by
  obtain ⟨hlen, hget⟩ := List.forall₂_iff_get.mp h
  have hissued : ∀ (i : Nat) (a : Base) (id : String), bases[i]? = some a → ids[i]? = some id →
      Issued (identifier glue) registered a id := by
    intro i a id ha hid
    obtain ⟨hi, rfl⟩ := List.getElem?_eq_some_iff.mp ha
    obtain ⟨hi', rfl⟩ := List.getElem?_eq_some_iff.mp hid
    exact hget i hi hi'
  refine ⟨?_, ?_⟩
  · intro hdist i j a b hij ha hb havoid hclash
    obtain ⟨hi, _⟩ := List.getElem?_eq_some_iff.mp ha
    obtain ⟨hj, _⟩ := List.getElem?_eq_some_iff.mp hb
    have hx : ids[i]? = some ids[i] := List.getElem?_eq_getElem (hlen ▸ hi)
    have hy : ids[j]? = some ids[j] := List.getElem?_eq_getElem (hlen ▸ hj)
    have heq := (issued_eq_iff hglue (hissued i a _ ha hx) (hissued j b _ hb hy) havoid).mpr hclash
    exact hdist.apart i j a _ hij ha havoid hx (by rw [hy, heq])
  · intro hall
    refine ⟨?_, ?_⟩
    · intro i a id ha havoid hid
      obtain ⟨k, hk, rfl⟩ := (hissued i a id ha hid).least havoid
      exact hk.1
    · intro i j a id hij ha havoid hx hy
      obtain ⟨hj, _⟩ := List.getElem?_eq_some_iff.mp hy
      have hb : bases[j]? = some bases[j] := List.getElem?_eq_getElem (hlen ▸ hj)
      exact hall i j a _ hij ha hb havoid
        ((issued_eq_iff hglue (hissued i a id ha hx) (hissued j _ id hb hy) havoid).mp rfl)

end Clash

end Versatile
