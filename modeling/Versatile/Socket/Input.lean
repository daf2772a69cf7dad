import Versatile.Lib.Bytes

/-!
# The receive routine of the kernel module

`flex_rcv` takes two blocks, copies the linear data of a frame to the one, as many bytes as the
frame has from there to the other, and prints some fields of the header. What it does to memory is a
trace of actions; the frame and the outcomes of the two allocations are not its choice.
-/

namespace Versatile.Socket

open Bytes

/-- The blocks `flex_rcv` asks for. -/
inductive Blk where
  | flex
  | data
  deriving DecidableEq, Repr

/-- What `flex_rcv` does to memory. An allocation that fails takes nothing. -/
inductive Action where
  | kmalloc (blk : Blk) (size : Nat)
  | store (blk : Blk) (index : Nat) (value : UInt8)
  | examine (offset size : Nat)
  | kfree (blk : Blk)
  deriving DecidableEq, Repr

/-- What `flex_rcv` uses of a frame: its length, and the bytes between `data` and `tail`. -/
structure SkBuff where
  len : Nat
  linear : List UInt8
  fits : linear.length ≤ len

/-- `sizeof(struct flexhdr)`. -/
def sizeofFlexhdr : Nat := 64

/-- The fields of the header that are printed: where each one stands, and its size. -/
def printed : List (Nat × Nat) := [(0, 1), (1, 1), (2, 1), (12, 21), (33, 21)]

/-- Store some bytes one behind the other. -/
def storeAll (blk : Blk) : Nat → List UInt8 → List Action
  | _, [] => []
  | index, b :: bs => .store blk index b :: storeAll blk (index + 1) bs

/-- `flex_rcv`. The flags say which of the allocations succeed, and `junk` is what the second block
holds when it is taken. -/
def flex_rcv (skb : SkBuff) (flex data : Bool) (junk : Nat → UInt8) : Int × List Action :=
  let taken := (if flex then [Action.kmalloc .flex sizeofFlexhdr] else []) ++
    (if data then [Action.kmalloc .data skb.len] else [])
  if !flex || !data then (-1, taken)
  else
    let copied := Block.fill ((List.range skb.len).map junk) skb.linear
    (0, taken ++ storeAll .data 0 skb.linear ++ storeAll .flex 0 copied ++
      printed.map (fun f => .examine f.1 f.2) ++ [.kfree .flex, .kfree .data])

/-- The action takes the block. -/
def Action.takes (blk : Blk) : Action → Bool
  | .kmalloc b _ => b == blk
  | _ => false

/-- The action gives the block back. -/
def Action.gives (blk : Blk) : Action → Bool
  | .kfree b => b == blk
  | _ => false

/-- Every store falls inside its block, the header is looked at only if the frame has one, and every
block is given back as often as it was taken. -/
structure Safe (skb : SkBuff) (actions : List Action) : Prop where
  flex_inside : ∀ i v, .store .flex i v ∈ actions → i < sizeofFlexhdr
  data_inside : ∀ i v, .store .data i v ∈ actions → i < skb.len
  examined : ∀ off n, .examine off n ∈ actions → sizeofFlexhdr ≤ skb.len
  released : ∀ blk, actions.countP (Action.gives blk) = actions.countP (Action.takes blk)

/-! ## The loop that stores -/

theorem mem_storeAll {blk blk' : Blk} {index i : Nat} {bs : List UInt8} {v : UInt8}
    (h : .store blk' i v ∈ storeAll blk index bs) : blk' = blk ∧ i < index + bs.length := by
  induction bs generalizing index with
  | nil => exact absurd h List.not_mem_nil
  | cons b bs ih =>
    rcases List.mem_cons.mp h with heq | hmem
    · obtain ⟨hblk, hi, -⟩ := Action.store.inj heq
      refine ⟨hblk, ?_⟩
      rw [hi, List.length_cons]
      omega
    · obtain ⟨hblk, hi⟩ := ih hmem
      refine ⟨hblk, ?_⟩
      rw [List.length_cons]
      omega

/-- Every index on the way is stored to. -/
theorem store_mem_storeAll (blk : Blk) {index i : Nat} {bs : List UInt8} (hlo : index ≤ i)
    (hhi : i < index + bs.length) : ∃ v, .store blk i v ∈ storeAll blk index bs := by
  induction bs generalizing index with
  | nil =>
    rw [List.length_nil] at hhi
    omega
  | cons b bs ih =>
    by_cases hi : i = index
    · exact ⟨b, hi ▸ List.mem_cons_self⟩
    · rw [List.length_cons] at hhi
      obtain ⟨v, hv⟩ := ih (show index + 1 ≤ i by omega) (by omega)
      exact ⟨v, List.mem_cons_of_mem _ hv⟩

/-- It does nothing else. -/
theorem storeAll_stores {blk : Blk} {index : Nat} {bs : List UInt8} {a : Action}
    (h : a ∈ storeAll blk index bs) : ∃ i v, a = .store blk i v := by
  induction bs generalizing index with
  | nil => exact absurd h List.not_mem_nil
  | cons b bs ih =>
    rcases List.mem_cons.mp h with heq | hmem
    · exact ⟨index, b, heq⟩
    · exact ih hmem

theorem countP_storeAll (p : Action → Bool) (hp : ∀ blk i v, p (.store blk i v) = false)
    (blk : Blk) (index : Nat) (bs : List UInt8) : (storeAll blk index bs).countP p = 0 := by
  rw [List.countP_eq_zero]
  intro a ha
  obtain ⟨i, v, rfl⟩ := storeAll_stores ha
  rw [hp]
  exact Bool.false_ne_true

/-! ## The whole routine -/

/-- The bytes that are copied to the header are as many as the frame has. -/
theorem copied_length (skb : SkBuff) (junk : Nat → UInt8) :
    (Block.fill ((List.range skb.len).map junk) skb.linear).length = skb.len := by
  have hfits := skb.fits
  rw [Block.fill, List.length_append, List.length_drop, List.length_map, List.length_range]
  omega

/-- Both blocks are taken: what is done to them. -/
theorem flex_rcv_both (skb : SkBuff) (junk : Nat → UInt8) :
    (flex_rcv skb true true junk).2 =
      [.kmalloc .flex sizeofFlexhdr, .kmalloc .data skb.len] ++ storeAll .data 0 skb.linear ++
        storeAll .flex 0 (Block.fill ((List.range skb.len).map junk) skb.linear) ++
        printed.map (fun f => .examine f.1 f.2) ++ [.kfree .flex, .kfree .data] := rfl

/-- **Where the routine stores**: in the one block as many bytes as are linear, in the other as many
as the frame has. -/
theorem store_flex_rcv {skb : SkBuff} {junk : Nat → UInt8} {blk : Blk} {i : Nat} {v : UInt8}
    (h : .store blk i v ∈ (flex_rcv skb true true junk).2) :
    (blk = .data ∧ i < skb.linear.length) ∨ (blk = .flex ∧ i < skb.len) := by
  rw [flex_rcv_both] at h
  simp only [List.mem_append] at h
  rcases h with (((h | h) | h) | h) | h
  · exact absurd h (by simp)
  · obtain ⟨hblk, hi⟩ := mem_storeAll h
    exact Or.inl ⟨hblk, by omega⟩
  · obtain ⟨hblk, hi⟩ := mem_storeAll h
    rw [copied_length] at hi
    exact Or.inr ⟨hblk, by omega⟩
  · exact absurd h (by simp [printed])
  · exact absurd h (by simp)

/-- Both blocks are given back. -/
theorem released_both (skb : SkBuff) (junk : Nat → UInt8) (blk : Blk) :
    (flex_rcv skb true true junk).2.countP (Action.gives blk) =
      (flex_rcv skb true true junk).2.countP (Action.takes blk) := by
  rw [flex_rcv_both]
  simp only [List.countP_append]
  rw [countP_storeAll (Action.gives blk) (fun _ _ _ => rfl),
    countP_storeAll (Action.gives blk) (fun _ _ _ => rfl),
    countP_storeAll (Action.takes blk) (fun _ _ _ => rfl),
    countP_storeAll (Action.takes blk) (fun _ _ _ => rfl)]
  cases blk <;> rfl

/-- With both blocks, the routine is safe for frames of the size of a header only. -/
theorem safe_both_iff (skb : SkBuff) (junk : Nat → UInt8) :
    Safe skb (flex_rcv skb true true junk).2 ↔ skb.len = sizeofFlexhdr := by
  refine ⟨fun h => ?_, fun hlen => ?_⟩
  · have hlow : sizeofFlexhdr ≤ skb.len := by
      refine h.examined 0 1 ?_
      rw [flex_rcv_both]
      simp [printed]
    by_cases hhigh : sizeofFlexhdr < skb.len
    · -- the byte behind the header is stored to
      obtain ⟨v, hv⟩ := store_mem_storeAll .flex (i := sizeofFlexhdr) (Nat.zero_le _)
        (by rw [copied_length skb junk, Nat.zero_add]; exact hhigh)
      have hmem : .store .flex sizeofFlexhdr v ∈ (flex_rcv skb true true junk).2 := by
        rw [flex_rcv_both]
        simp only [List.mem_append]
        exact Or.inl (Or.inl (Or.inr hv))
      exact absurd (h.flex_inside _ v hmem) (Nat.lt_irrefl _)
    · omega
  · refine ⟨fun i v hi => ?_, fun i v hi => ?_, fun _ _ _ => Nat.le_of_eq hlen.symm,
      released_both skb junk⟩
    · rcases store_flex_rcv hi with h | h
      · exact absurd h.1 (by decide)
      · rw [← hlen]
        exact h.2
    · have hfits := skb.fits
      rcases store_flex_rcv hi with h | h <;> omega

/-- With one block only, it is not given back. -/
theorem not_safe_one (skb : SkBuff) (junk : Nat → UInt8) :
    ¬ Safe skb (flex_rcv skb true false junk).2 ∧ ¬ Safe skb (flex_rcv skb false true junk).2 := by
  refine ⟨fun h => ?_, fun h => ?_⟩
  · exact absurd (h.released .flex) (by simp [flex_rcv, Action.gives, Action.takes])
  · exact absurd (h.released .data) (by simp [flex_rcv, Action.gives, Action.takes])

/-- With none, nothing is done. -/
theorem safe_none (skb : SkBuff) (junk : Nat → UInt8) :
    Safe skb (flex_rcv skb false false junk).2 := by
  have hnil : (flex_rcv skb false false junk).2 = [] := rfl
  rw [hnil]
  exact ⟨fun _ _ h => absurd h List.not_mem_nil, fun _ _ h => absurd h List.not_mem_nil,
    fun _ _ h => absurd h List.not_mem_nil, fun _ => rfl⟩

/--
**When the receive routine is safe**: if both allocations fail, or if both succeed and the frame is
exactly as long as a header.
-/
theorem flex_rcv_safe_iff (skb : SkBuff) (flex data : Bool) (junk : Nat → UInt8) :
    Safe skb (flex_rcv skb flex data junk).2 ↔
      (flex = false ∧ data = false) ∨
        (flex = true ∧ data = true ∧ skb.len = sizeofFlexhdr) := by
  cases flex with
  | true =>
    cases data with
    | true => simpa using safe_both_iff skb junk
    | false => simpa using (not_safe_one skb junk).1
  | false =>
    cases data with
    | true => simpa using (not_safe_one skb junk).2
    | false => simpa using safe_none skb junk

/-- A frame with one byte more than a header. -/
def longFrame : SkBuff := ⟨65, List.replicate 65 0, by decide⟩

/-- **The routine is not safe**: it stores behind the header of a longer frame, and keeps a block
when the other one was not to be had. -/
theorem not_flex_rcv_safe :
    ¬ Safe longFrame (flex_rcv longFrame true true fun _ => 0).2 ∧
      ¬ Safe longFrame (flex_rcv longFrame true false fun _ => 0).2 := by
  refine ⟨?_, (not_safe_one longFrame fun _ => 0).1⟩
  rw [safe_both_iff]
  decide

end Versatile.Socket
