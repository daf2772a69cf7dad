import Mathlib.Data.Nat.Count
import Mathlib.Data.Finset.Card
import Mathlib.Data.Set.Finite.Basic
import Mathlib.Order.Bounds.Defs
import Mathlib.Tactic.Ring
import Versatile.Lib.Dict

/-!
# Searching for the first free candidate

Candidates are numbered. A candidate may be *skipped* at no cost (a cache knows it is
taken); any other one is *probed*, and the probe fails, or finds the candidate taken, or
finds it free. Whether a probe fails may depend on how many were made before it, which is
how a recursion limit or a server that stops answering enters.

`Run` is the search as a relation, so that a program is shown to follow it once, by
induction on its own recursion, and everything else is read off here: the candidate found
is the first free one, nothing before it broke the search, and when the search stays below
a bound. Free is what the probes tell; what there really is may be another thing, and a
search that is to stop at a bound may be judged by that.
-/

namespace Search

/-- How a search ends: with a free candidate, or broken at one. -/
inductive Outcome where
  | found (k : Nat)
  | failed (k : Nat)
  deriving DecidableEq, Repr

section Run

variable (skip taken : Nat → Bool) (fails : Nat → Nat → Prop)

/-- The search standing at candidate `i`, with `u` probes behind it. -/
inductive Run : Nat → Nat → Outcome → Prop where
  | skip {i u : Nat} {r : Outcome} : skip i = true → Run (i + 1) u r → Run i u r
  | fail {i u : Nat} : skip i = false → fails u i → Run i u (.failed i)
  | free {i u : Nat} : skip i = false → ¬ fails u i → taken i = false → Run i u (.found i)
  | hit {i u : Nat} {r : Outcome} : skip i = false → ¬ fails u i → taken i = true →
      Run (i + 1) (u + 1) r → Run i u r

/-- The probes made before candidate `j`, if nothing stops the search earlier. -/
def probes (j : Nat) : Nat := Nat.count (fun i => skip i = false) j

/-- Candidate `j` is neither skipped nor taken. -/
def Free (j : Nat) : Prop := skip j = false ∧ taken j = false

/-- The probe of candidate `j` fails. -/
def Broken (j : Nat) : Prop := skip j = false ∧ fails (probes skip j) j

variable {skip taken fails}

theorem probes_skip {i : Nat} (h : skip i = true) : probes skip (i + 1) = probes skip i :=
  Nat.count_succ_eq_count_iff.mpr (by simp [h])

theorem probes_probe {i : Nat} (h : skip i = false) :
    probes skip (i + 1) = probes skip i + 1 :=
  Nat.count_succ_eq_succ_count_iff.mpr h

/-- Skipped candidates are not probed. -/
theorem probes_skips {i : Nat} : ∀ {n : Nat}, (∀ j, j < n → skip (i + j) = true) →
    probes skip (i + n) = probes skip i
  | 0, _ => rfl
  | n + 1, hs => by
      rw [← Nat.add_assoc, probes_skip (hs n (Nat.lt_succ_self n))]
      exact probes_skips fun j hj => hs j (Nat.lt_succ_of_lt hj)

/-- A run of skipped candidates. -/
theorem Run.skips {u : Nat} {r : Outcome} :
    ∀ {n i : Nat}, (∀ j, j < n → skip (i + j) = true) → Run skip taken fails (i + n) u r →
      Run skip taken fails i u r
  | 0, _, _, h => h
  | n + 1, i, hs, h => by
      refine Run.skip (by simpa using hs 0 (Nat.succ_pos n)) ?_
      refine Run.skips (n := n) (fun j hj => ?_) ?_
      · have := hs (j + 1) (by omega)
        rwa [show i + (j + 1) = i + 1 + j by omega] at this
      · rwa [show i + (n + 1) = i + 1 + n by omega] at h

/--
**A program that searches.**

`P l i u t` is a program in state `t`, standing at candidate `i` with `u` probes behind it
and at most `l` more to make. It passes over skipped candidates, probes the first other one,
and ends there or goes on behind it.
-/
theorem Run.of_steps {τ : Type} {Ends : Outcome → Prop} {P : Nat → Nat → Nat → τ → Prop}
    (hstep : ∀ l i u t, P l i u t →
      ∃ j, (∀ m, m < j → skip (i + m) = true) ∧ skip (i + j) = false ∧
        ((fails u (i + j) ∧ Ends (.failed (i + j))) ∨
          (¬ fails u (i + j) ∧ taken (i + j) = false ∧ Ends (.found (i + j))) ∨
          (¬ fails u (i + j) ∧ taken (i + j) = true ∧
            ∃ l' t', l' < l ∧ P l' (i + j + 1) (u + 1) t'))) :
    ∀ {l i u : Nat} {t : τ}, P l i u t → ∃ o, Run skip taken fails i u o ∧ Ends o := by
  -- by strong induction on the probes that are left
  intro l
  induction l using Nat.strongRecOn with
  | _ l ih =>
    intro i u t hat
    obtain ⟨j, hskips, hnot, h⟩ := hstep l i u t hat
    rcases h with ⟨hfail, hends⟩ | ⟨hok, hfree, hends⟩ | ⟨hok, htaken, l', t', hlt, hat'⟩
    · exact ⟨_, Run.skips hskips (.fail hnot hfail), hends⟩
    · exact ⟨_, Run.skips hskips (.free hnot hok hfree), hends⟩
    · obtain ⟨o, hrun, hends⟩ := ih l' hlt hat'
      exact ⟨o, Run.skips hskips (.hit hnot hok htaken hrun), hends⟩

/-- What a search from `i` on has learnt when it ends at `k`. -/
structure Scanned (skip taken : Nat → Bool) (fails : Nat → Nat → Prop) (i k : Nat) : Prop where
  /-- It ends no earlier than it started. -/
  le : i ≤ k
  /-- No candidate it passed was free. -/
  free : ∀ j, i ≤ j → j < k → ¬ Free skip taken j
  /-- No candidate it passed broke it. -/
  broken : ∀ j, i ≤ j → j < k → ¬ Broken skip fails j

theorem Scanned.self (i : Nat) : Scanned skip taken fails i i :=
  ⟨Nat.le_refl i, fun j h1 h2 => absurd h2 (by omega), fun j h1 h2 => absurd h2 (by omega)⟩

theorem Scanned.cons {i k : Nat} (hf : ¬ Free skip taken i) (hb : ¬ Broken skip fails i)
    (h : Scanned skip taken fails (i + 1) k) : Scanned skip taken fails i k where
  le := by have := h.le; omega
  free := by
    intro j h1 h2
    rcases Nat.eq_or_lt_of_le h1 with rfl | hlt
    · exact hf
    · exact h.free j hlt h2
  broken := by
    intro j h1 h2
    rcases Nat.eq_or_lt_of_le h1 with rfl | hlt
    · exact hb
    · exact h.broken j hlt h2

/-- The outcome of a search and what it has learnt. -/
def Settled (skip taken : Nat → Bool) (fails : Nat → Nat → Prop) (i : Nat) : Outcome → Prop
  | .found k => Scanned skip taken fails i k ∧ Free skip taken k ∧ ¬ Broken skip fails k
  | .failed k => Scanned skip taken fails i k ∧ Broken skip fails k

theorem Settled.cons {i : Nat} {r : Outcome} (hf : ¬ Free skip taken i)
    (hb : ¬ Broken skip fails i) (h : Settled skip taken fails (i + 1) r) :
    Settled skip taken fails i r := by
  cases r with
  | found k => exact ⟨h.1.cons hf hb, h.2⟩
  | failed k => exact ⟨h.1.cons hf hb, h.2⟩

/-- **A search ends at the first free candidate, or at the first broken one.** -/
theorem Run.settled {i u : Nat} {r : Outcome} (h : Run skip taken fails i u r)
    (hu : u = probes skip i) : Settled skip taken fails i r := by
  -- along the run: a skipped candidate and a taken one are neither free nor broken
  induction h with
  | skip hs _ ih =>
      refine (ih (by rw [probes_skip hs, hu])).cons ?_ ?_
      · intro hf; rw [hf.1] at hs; exact Bool.noConfusion hs
      · intro hb; rw [hb.1] at hs; exact Bool.noConfusion hs
  | fail hs hf => exact ⟨Scanned.self _, hs, hu ▸ hf⟩
  | free hs hf ht => exact ⟨Scanned.self _, ⟨hs, ht⟩, fun hb => hf (hu ▸ hb.2)⟩
  | hit hs hf ht _ ih =>
      refine (ih (by rw [probes_probe hs, hu])).cons ?_ ?_
      · intro hfree; rw [hfree.2] at ht; exact Bool.noConfusion ht
      · intro hb; exact hf (hu ▸ hb.2)

variable (skip taken fails) in
/-- Among the candidates up to `b` one is free and one is really available, or a probe breaks
before any free candidate. -/
def Bounded (available : Nat → Prop) (b : Nat) : Prop :=
  ((∃ m, m ≤ b ∧ Free skip taken m) ∧ ∃ m, m ≤ b ∧ available m) ∨
    ∃ j, Broken skip fails j ∧ ∀ i, i < j → ¬ Free skip taken i

/-- Where finitely many candidates are skipped or taken, one is free. -/
theorem exists_free (hskip : {i | skip i = true}.Finite) (htaken : {i | taken i = true}.Finite) :
    ∃ k, IsLeast {i | Free skip taken i} k := by
  have hfin : ({i | skip i = true} ∪ {i | taken i = true}).Finite := hskip.union htaken
  obtain ⟨i, hi⟩ := hfin.exists_notMem
  simp only [Set.mem_union, Set.mem_ofPred_eq, not_or, Bool.not_eq_true] at hi
  have hex : ∃ i, Free skip taken i := ⟨i, hi⟩
  classical
  exact ⟨Nat.find hex, Nat.find_spec hex, fun m hm => Nat.find_min' hex hm⟩

/-- A settled search that found a candidate found the first free one. -/
theorem Settled.found_le {k m : Nat} (h : Settled skip taken fails 0 (.found k))
    (hm : Free skip taken m) : k ≤ m := by
  rcases Nat.lt_or_ge m k with hlt | hge
  · exact absurd hm (h.1.free m (Nat.zero_le m) hlt)
  · exact hge

/--
**When a search respects a bound.**

It returns only candidates up to `b`, and fails when none of those is available, exactly if
one of them is free and one available, or a probe breaks before any free candidate is met.
-/
theorem Settled.bounded_iff {r : Outcome} (h : Settled skip taken fails 0 r)
    (available : Nat → Prop) (b : Nat) :
    ((∀ k, r = .found k → k ≤ b) ∧
        ((∀ m, m ≤ b → ¬ available m) → ∃ k, r = .failed k)) ↔
      Bounded skip taken fails available b := by
  cases r with
  | found k =>
    obtain ⟨hscan, hfree, hok⟩ := h
    refine ⟨?_, ?_⟩
    · intro hboth
      obtain ⟨hb, hnone⟩ := hboth
      refine Or.inl ⟨⟨k, hb k rfl, hfree⟩, ?_⟩
      by_contra hno
      obtain ⟨k', hk'⟩ := hnone fun m hm hav => hno ⟨m, hm, hav⟩
      exact absurd hk' (by simp)
    · intro hcase
      rcases hcase with ⟨⟨m, hm, hfm⟩, m', hm', hav⟩ | ⟨j, hj, hno⟩
      · have hkm : k ≤ m := Settled.found_le ⟨hscan, hfree, hok⟩ hfm
        refine ⟨?_, fun hnone => absurd hav (hnone m' hm')⟩
        intro k' hk'
        obtain rfl : k = k' := by simpa using hk'
        omega
      · -- the broken probe would lie before the candidate found
        exfalso
        rcases Nat.lt_trichotomy j k with hlt | heq | hgt
        · exact hscan.broken j (Nat.zero_le j) hlt hj
        · exact hok (heq ▸ hj)
        · exact hno k hgt hfree
  | failed k =>
    obtain ⟨hscan, hbroken⟩ := h
    refine ⟨?_, ?_⟩
    · intro _
      exact Or.inr ⟨k, hbroken, fun i hi => hscan.free i (Nat.zero_le i) hi⟩
    · intro _
      exact ⟨fun k' hk' => absurd hk' (by simp), fun _ => ⟨k, rfl⟩⟩

/--
**More candidates taken, the same one found.**

Where candidates were only skipped or taken in addition, and the one found is free still, a
search that fails no more often finds it again: it makes no more probes than the first.
-/
theorem Settled.found_again {skip' taken' : Nat → Bool} {fails' : Nat → Nat → Prop} {k : Nat}
    {o : Outcome} (h : Settled skip taken fails 0 (.found k))
    (h' : Settled skip' taken' fails' 0 o) (hskip : ∀ i, skip i = true → skip' i = true)
    (htaken : ∀ i, taken i = true → taken' i = true) (hk : Free skip' taken' k)
    (hfails : ∀ u u' i, u' ≤ u → fails' u' i → fails u i) : o = .found k := by
  obtain ⟨hscan, hfree, hok⟩ := h
  have hskip' : ∀ i, skip' i = false → skip i = false := by
    intro i hi
    by_contra hne
    rw [hskip i (by simpa using hne)] at hi
    exact absurd hi (by simp)
  have htaken' : ∀ i, taken' i = false → taken i = false := by
    intro i hi
    by_contra hne
    rw [htaken i (by simpa using hne)] at hi
    exact absurd hi (by simp)
  cases o with
  | found k' =>
    have hle : k' ≤ k := h'.found_le hk
    have hge : ¬ k' < k := fun hlt =>
      hscan.free k' (Nat.zero_le k') hlt ⟨hskip' k' h'.2.1.1, htaken' k' h'.2.1.2⟩
    obtain rfl : k' = k := by omega
    rfl
  | failed k' =>
    -- the probe that broke it would have broken the first search too
    exfalso
    obtain ⟨hscan', hnot, hbroke⟩ := h'
    have hprobes : probes skip' k' ≤ probes skip k' :=
      Nat.count_mono_left fun i _ => hskip' i
    have hbroken : Broken skip fails k' := ⟨hskip' k' hnot, hfails _ _ k' hprobes hbroke⟩
    rcases Nat.lt_trichotomy k' k with hlt | heq | hgt
    · exact hscan.broken k' (Nat.zero_le k') hlt hbroken
    · exact hok (heq ▸ hbroken)
    · exact hscan'.free k (Nat.zero_le k) hgt hk

/-! ## Candidates taken by entries of a list -/

/-- **Each entry takes one candidate at most**: then no more candidates are taken than there are
entries. -/
theorem count_taken_le {ρ : Type} {takes : ρ → Nat → Bool} {l : List ρ}
    (hone : ∀ r ∈ l, ∀ i j, takes r i = true → takes r j = true → i = j) (k : Nat) :
    Nat.count (fun i => l.any (takes · i) = true) k ≤ l.length := by
  -- a taken candidate is sent to the first entry that takes it
  rw [Nat.count_eq_card_filter_range, ← Finset.card_range l.length]
  have hfirst : ∀ i, l.any (takes · i) = true → l.findIdx (takes · i) < l.length := fun i hi =>
    List.findIdx_lt_length_of_exists (List.any_eq_true.mp hi)
  refine Finset.card_le_card_of_injOn (fun i => l.findIdx (takes · i)) ?_ ?_
  · intro i hi
    obtain ⟨_, hi⟩ := Finset.mem_filter.mp (Finset.mem_coe.mp hi)
    exact Finset.mem_coe.mpr (Finset.mem_range.mpr (hfirst i hi))
  · intro i hi j hj heq
    obtain ⟨_, hi⟩ := Finset.mem_filter.mp (Finset.mem_coe.mp hi)
    obtain ⟨_, hj⟩ := Finset.mem_filter.mp (Finset.mem_coe.mp hj)
    have hlt := hfirst i hi
    have hlt' := hfirst j hj
    have h1 : takes l[l.findIdx (takes · i)] i = true :=
      List.findIdx_getElem (p := (takes · i))
    have h2 : takes l[l.findIdx (takes · j)] j = true :=
      List.findIdx_getElem (p := (takes · j))
    have hsame : l[l.findIdx (takes · i)] = l[l.findIdx (takes · j)] := by
      simp only [show l.findIdx (takes · i) = l.findIdx (takes · j) from heq]
    rw [← hsame] at h2
    exact hone _ (List.getElem_mem _) i j h1 h2

end Run

/-! ## The loop that passes over skipped candidates -/

/-- `while p(n): n = n + inc`, for at most `fuel` rounds. -/
def countUp (p : Nat → Bool) (inc : Nat) : Nat → Nat → Nat
  | 0, n => n
  | fuel + 1, n => if p n then countUp p inc fuel (n + inc) else n

/-- With a number within reach where the condition fails, the loop ends at the first one. -/
theorem countUp_spec {p : Nat → Bool} {inc : Nat} :
    ∀ {fuel n : Nat}, (∃ j, j < fuel ∧ p (n + inc * j) = false) →
      ∃ j, countUp p inc fuel n = n + inc * j ∧ p (n + inc * j) = false ∧
        ∀ i, i < j → p (n + inc * i) = true
  | 0, _, ⟨_, hj, _⟩ => absurd hj (Nat.not_lt_zero _)
  | fuel + 1, n, ⟨j, hj, hp⟩ => by
      rw [countUp]
      cases hn : p n with
      | false =>
        exact ⟨0, by simp, by simpa using hn, fun i hi => absurd hi (Nat.not_lt_zero i)⟩
      | true =>
        -- the condition holds here, so the number where it fails lies further on
        have hj0 : j ≠ 0 := by
          intro heq
          obtain rfl := heq
          rw [Nat.mul_zero, Nat.add_zero, hn] at hp
          exact Bool.noConfusion hp
        have hshift : ∀ i, n + inc * (i + 1) = n + inc + inc * i := fun i => by ring
        obtain ⟨j', rfl⟩ := Nat.exists_eq_succ_of_ne_zero hj0
        obtain ⟨l, h1, h2, h3⟩ :=
          @countUp_spec p inc fuel (n + inc) ⟨j', by omega, by rw [← hshift]; exact hp⟩
        refine ⟨l + 1, ?_, ?_, ?_⟩
        · rw [if_pos rfl, h1, hshift]
        · rw [hshift]; exact h2
        · intro i hi
          cases i with
          | zero => simpa using hn
          | succ i => rw [hshift]; exact h3 i (by omega)

/-- Among one more distinct values than a list has entries, one is not in the list. -/
theorem exists_not_mem {κ : Type} [DecidableEq κ] {f : Nat → κ} (hf : Function.Injective f)
    (l : List κ) : ∃ j, j < l.length + 1 ∧ f j ∉ l := by
  -- pigeonhole: the values are too many to be all in the list
  have hcard : l.toFinset.card < ((Finset.range (l.length + 1)).image f).card := by
    rw [Finset.card_image_of_injective _ hf, Finset.card_range]
    exact Nat.lt_succ_of_le l.toFinset_card_le
  obtain ⟨x, hx, hnx⟩ := Finset.exists_mem_notMem_of_card_lt_card hcard
  obtain ⟨j, hj, rfl⟩ := Finset.mem_image.mp hx
  exact ⟨j, Finset.mem_range.mp hj, fun h => hnx (List.mem_toFinset.mpr h)⟩

/-- **Passing over the keys of a dictionary** ends: with distinct candidates, one more round
than there are keys is enough to meet one that is not a key. -/
theorem countUp_dict {κ ν : Type} [DecidableEq κ] (d : Dict κ ν) {layout : Nat → κ}
    (hlayout : Function.Injective layout) {inc : Nat} (hinc : 0 < inc) (n : Nat) :
    ∃ j, countUp (fun m => d.has (layout m)) inc (d.length + 1) n = n + inc * j ∧
      d.has (layout (n + inc * j)) = false ∧ ∀ i, i < j → d.has (layout (n + inc * i)) = true := by
  have hinj : Function.Injective fun j => layout (n + inc * j) := by
    intro a b h
    have heq : inc * a = inc * b := by have := hlayout h; omega
    exact Nat.eq_of_mul_eq_mul_left hinc heq
  obtain ⟨j, hj, hnot⟩ := exists_not_mem hinj d.keys
  refine countUp_spec ⟨j, by simpa [Dict.keys] using hj, ?_⟩
  rw [Dict.mem_keys] at hnot
  simpa using hnot

end Search
