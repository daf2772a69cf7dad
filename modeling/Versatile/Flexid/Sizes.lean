import Versatile.Flexid.Client

/-!
# The sizes of a header

Three numbers say how large a header is: the length byte `hash_len`, the word `header_len`, and the
size `serialize` asks `malloc` for. `flexidhdr_init` cuts the same length to eight bits in one field
and, doubled, to sixteen in the other; `serialize` asks for the size of the word, not for what the
word says.
-/

namespace Versatile.Flexid

open Bytes

/-! ## What `serialize` writes of a header with longer addresses -/

/-- The header with each address cut to the length the header says. -/
def Flexhdr.cut (h : Flexhdr) : Flexhdr :=
  { h with saddr := h.saddr.take h.hash_len.toNat, daddr := h.daddr.take h.hash_len.toNat }

/-- The addresses are at least as long as the header says. -/
def Flexhdr.Covers (h : Flexhdr) : Prop :=
  h.hash_len.toNat ≤ h.saddr.length ∧ h.hash_len.toNat ≤ h.daddr.length

theorem Flexhdr.Fits.covers {h : Flexhdr} (hfits : h.Fits) : h.Covers :=
  ⟨Nat.le_of_eq hfits.1.symm, Nat.le_of_eq hfits.2.symm⟩

theorem Flexhdr.cut_fits {h : Flexhdr} (hcov : h.Covers) : h.cut.Fits :=
  ⟨List.length_take_of_le hcov.1, List.length_take_of_le hcov.2⟩

/-- The bytes of the addresses behind that length are not looked at. -/
theorem serialize_cut (o : Order) (block : Block) {h : Flexhdr} (hcov : h.Covers) :
    serialize o block h = serialize o block h.cut := by
  have hread : ∀ (b : Block) (n : Nat), n ≤ b.length →
      b.read 0 n = Block.read (b.take n) 0 n := by
    intro b n hn
    have hlen : n ≤ (b.take n).length := by
      rw [List.length_take]
      omega
    rw [Block.read_take hn, Block.read_take hlen, List.take_take, Nat.min_self]
  unfold serialize
  rw [hread h.saddr _ hcov.1, hread h.daddr _ hcov.2]
  rfl

/-! ## The block `serialize` writes to -/

/-- `sizeof(fhdr->header_len)`: the size `serialize` asks `malloc` for. -/
def requested : Nat := 2

/-- The copies of `serialize`: where in the block each one begins, and how long it is. -/
def Flexhdr.copies (h : Flexhdr) : List (Nat × Nat) :=
  [(0, fixedLen), (fixedLen, h.hash_len.toNat),
    (fixedLen + h.hash_len.toNat, h.hash_len.toNat)]

/-- No copy falls outside the block, and the block has room for what the server sends of it. -/
def Inside (o : Order) (block : Block) (h : Flexhdr) : Prop :=
  (serialize o block h).isSome ∧ h.header_len.toNat ≤ block.length

theorem Flexhdr.size_eq (h : Flexhdr) :
    h.size = fixedLen + h.hash_len.toNat + h.hash_len.toNat := by
  unfold Flexhdr.size
  omega

/-- **`serialize` goes through** exactly if there is room for the whole header. -/
theorem serialize_isSome_iff (o : Order) (block : Block) {h : Flexhdr} (hcov : h.Covers) :
    (serialize o block h).isSome ↔ h.size ≤ block.length := by
  refine ⟨fun hsome => ?_, fun hroom => ?_⟩
  · -- the last copy is the one that reaches furthest
    obtain ⟨out, hout⟩ := Option.isSome_iff_exists.mp hsome
    unfold serialize at hout
    simp only [Option.bind_eq_bind, Option.bind_eq_some_iff] at hout
    obtain ⟨b1, h1, saddr, -, b2, h2, daddr, hdaddr, h3⟩ := hout
    have hfit := (Block.write_length h3).1
    rw [Block.read_length hdaddr, (Block.write_length h2).2, (Block.write_length h1).2] at hfit
    rw [h.size_eq]
    exact hfit
  · rw [serialize_cut o block hcov,
      serialize_eq o (Flexhdr.cut_fits hcov) (show h.cut.size ≤ block.length from hroom)]
    rfl

/--
**`serialize` writes outside its block, whatever the header.**

With a block that has room for both sizes of the header it would stay inside, and so would the
server; of the block it asks for, each of the three copies falls outside.
-/
theorem serialize_outside (o : Order) {h : Flexhdr} (hfits : h.Fits) :
    (∀ block, Inside o block h ↔ h.size ≤ block.length ∧ h.header_len.toNat ≤ block.length) ∧
      ∀ block : Block, block.length = requested →
        ¬ Inside o block h ∧ ∀ c ∈ h.copies, block.length < c.1 + c.2 := by
  have hiff : ∀ block, (serialize o block h).isSome ↔ h.size ≤ block.length :=
    fun block => serialize_isSome_iff o block hfits.covers
  refine ⟨fun block => and_congr_left' (hiff block), fun block hblock => ⟨?_, ?_⟩⟩
  · intro hin
    have hroom := (hiff block).mp hin.1
    unfold Flexhdr.size fixedLen at hroom
    unfold requested at hblock
    omega
  · unfold Flexhdr.copies requested fixedLen at *
    simp only [List.forall_mem_cons, List.not_mem_nil, false_imp_iff, implies_true, and_true]
    omega

/-- The header of the server does not fit, and none of its parts does. -/
theorem serialize_outside_server :
    ¬ Inside .little (List.replicate 2 0) staleHeader ∧
      ∀ c ∈ staleHeader.copies, 2 < c.1 + c.2 :=
  (serialize_outside .little ⟨rfl, rfl⟩).2 (List.replicate 2 0) rfl

/-- **The block is too small** for the header of the server. -/
theorem not_serialize_inside :
    ¬ Inside .little (List.replicate requested 0) staleHeader := by
  intro h
  have hroom := (serialize_isSome_iff _ _ (Flexhdr.Fits.covers ⟨rfl, rfl⟩)).mp h.1
  exact absurd hroom (by decide)

/-! ## The two sizes `flexidhdr_init` sets -/

/-- The word is the number of bytes that are written, and the server sends these: all of them, and
nothing else. -/
def SizesAgree (o : Order) (h : Flexhdr) : Prop :=
  h.header_len.toNat = h.size ∧
    ∀ block : Block, h.size ≤ block.length → h.header_len.toNat ≤ block.length →
      serverSends o block h = some (h.cut.wire o)

/-- The sizes of a header that was set up for addresses of `n` bytes. -/
theorem filled_sizes {heap : Scalars} {junk : Nat → UInt8} {n : Nat} {h : Flexhdr}
    (h0 : Filled (flexidhdr_init heap junk n).2 h n) :
    h.hash_len.toNat = n % 2 ^ 8 ∧ h.header_len.toNat = (fixedLen + 2 * n) % 2 ^ 16 := by
  refine ⟨?_, ?_⟩
  · rw [h0.1]
    exact UInt8.toNat_ofNat'
  · rw [h0.2.1]
    exact UInt16.toNat_ofNat'

theorem Filled.covers {heap : Scalars} {junk : Nat → UInt8} {n : Nat} {h : Flexhdr}
    (h0 : Filled (flexidhdr_init heap junk n).2 h n) : h.Covers := by
  have hle : h.hash_len.toNat ≤ n := by
    rw [(filled_sizes h0).1]
    exact Nat.mod_le n _
  obtain ⟨-, -, hs, hd⟩ := h0
  exact ⟨hs ▸ hle, hd ▸ hle⟩

/-- **The server sends what was written** if the two sizes are the same. -/
theorem sizesAgree_iff (o : Order) {h : Flexhdr} (hcov : h.Covers) :
    SizesAgree o h ↔ h.header_len.toNat = h.size := by
  refine ⟨fun hagree => hagree.1, fun hlen => ⟨hlen, ?_⟩⟩
  intro block hroom _
  have hcut : serverSends o block h = serverSends o block h.cut := by
    unfold serverSends
    rw [serialize_cut o block hcov]
    rfl
  rw [hcut]
  exact serverSends_eq o (Flexhdr.cut_fits hcov) hlen hroom

/--
**When `flexidhdr_init` and `serialize` agree on the size.**

The length is not looked at. Cut to eight bits it is the same as when, doubled, it is cut to
sixteen, exactly if no bit between them is set.
-/
theorem sizes_agree_iff (o : Order) {heap : Scalars} {junk : Nat → UInt8} {n : Nat} {h : Flexhdr}
    (h0 : Filled (flexidhdr_init heap junk n).2 h n) :
    (flexidhdr_init heap junk n).1 ≠ SUCCESS ∨ SizesAgree o h ↔ n % 2 ^ 15 < 2 ^ 8 := by
  have hsizes := filled_sizes h0
  have hret : ¬ (flexidhdr_init heap junk n).1 ≠ SUCCESS := fun h => h rfl
  rw [or_iff_right hret, sizesAgree_iff o (Filled.covers h0), hsizes.2, Flexhdr.size, hsizes.1]
  unfold fixedLen
  omega

/-- For the addresses of the server they agree. -/
theorem sizes_agree_server :
    (flexidhdr_init stale (fun _ => 0) 5).1 ≠ SUCCESS ∨
        SizesAgree .little staleHeader ↔ 5 % 2 ^ 15 < 2 ^ 8 :=
  sizes_agree_iff .little ⟨rfl, rfl, rfl, rfl⟩

/-- **They do not agree on every length**: addresses of 256 bytes have the length byte 0. -/
theorem not_sizes_agree :
    ¬ ((flexidhdr_init stale (fun _ => 0) 256).1 ≠ SUCCESS ∨
      SizesAgree .little (flexidhdr_init stale (fun _ => 0) 256).2) := by
  intro h
  have hlen := (h.resolve_left fun hne => hne rfl).1
  exact absurd hlen (by decide)

end Versatile.Flexid
