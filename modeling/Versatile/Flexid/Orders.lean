import Versatile.Flexid.Receive

/-!
# A header between machines of different byte order

`serialize` and `deserialize` copy the scalar fields as they stand in memory, so a machine of the
other order finds the two bytes of every word swapped. Nothing is lost by this: the header it reads
stands in its memory as the one that was sent does in the memory of the sender (`seen_bytes`). But
what it shows is the header that was sent only where a word reads the same both ways.
-/

namespace Versatile.Flexid

open Bytes

/-! ## What the other machine reads -/

/-- A word that a machine of order `o` wrote, as one of order `o'` reads it. -/
def seen16 (o o' : Order) (x : UInt16) : UInt16 := UInt16.ofNat (seenAs o o' 2 x.toNat)

/-- The scalar fields as the other machine reads them. -/
def Scalars.seen (o o' : Order) (h : Scalars) : Scalars :=
  { h with
    packet_len := seen16 o o' h.packet_len
    checksum := seen16 o o' h.checksum
    packet_id := seen16 o o' h.packet_id
    frag_off := seen16 o o' h.frag_off
    header_len := seen16 o o' h.header_len }

/-- The header as the other machine reads it. -/
def Flexhdr.seen (o o' : Order) (h : Flexhdr) : Flexhdr :=
  { h with toScalars := h.toScalars.seen o o' }

/-- The words of a header. -/
def Scalars.words (h : Scalars) : List UInt16 :=
  [h.packet_len, h.checksum, h.packet_id, h.frag_off, h.header_len]

/-- A word reads the same from either end. -/
def Mirrored (x : UInt16) : Prop := x.toNat / 256 = x.toNat % 256

theorem seen16_toNat (o o' : Order) (x : UInt16) :
    (seen16 o o' x).toNat = seenAs o o' 2 x.toNat := by
  have hlt : seenAs o o' 2 x.toNat < 2 ^ 16 := seenAs_lt o o' 2 x.toNat
  rw [seen16, UInt16.toNat_ofNat', Nat.mod_eq_of_lt hlt]

/-- It stands in the memory of the one as in the memory of the other. -/
theorem encode_seen16 (o o' : Order) (x : UInt16) :
    encode o' 2 (seen16 o o' x).toNat = encode o 2 x.toNat := by
  rw [seen16_toNat, encode_seenAs]

/-- **Which words are read as they were written.** -/
theorem seen16_eq_iff (o o' : Order) (x : UInt16) :
    seen16 o o' x = x ↔ o = o' ∨ Mirrored x := by
  have hlt : x.toNat < 2 ^ 16 := x.toNat_lt
  rw [← UInt16.toNat_inj, seen16_toNat]
  by_cases ho : o = o'
  · rw [← ho, seenAs_self]
    exact ⟨fun _ => Or.inl rfl, fun _ => Nat.mod_eq_of_lt hlt⟩
  · rw [seenAs_two ho, or_iff_right ho, Mirrored]
    omega

/-- **The memory of a header is the same on both machines.** -/
theorem seen_bytes (o o' : Order) (h : Scalars) : (h.seen o o').bytes o' = h.bytes o := by
  simp only [Scalars.bytes, Scalars.seen, encode_seen16, encode_one o' o]

theorem seen_wire (o o' : Order) (h : Flexhdr) : (h.seen o o').wire o' = h.wire o := by
  rw [Flexhdr.wire, Flexhdr.wire, ← seen_bytes o o' h.toScalars]
  rfl

theorem seen_fits (o o' : Order) {h : Flexhdr} (hfits : h.Fits) : (h.seen o o').Fits := hfits

theorem seen_size (o o' : Order) (h : Flexhdr) : (h.seen o o').size = h.size := rfl

/-- **Which headers are read as they were written**: those all of whose words are. -/
theorem seen_eq_iff (o o' : Order) (h : Flexhdr) :
    h.seen o o' = h ↔ o = o' ∨ ∀ w ∈ h.words, Mirrored w := by
  have hwords : h.seen o o' = h ↔ ∀ w ∈ h.words, seen16 o o' w = w := by
    simp only [Scalars.words, List.forall_mem_cons, List.not_mem_nil, false_imp_iff, implies_true,
      and_true]
    obtain ⟨⟨⟩, saddr, daddr⟩ := h
    simp only [Flexhdr.seen, Scalars.seen, Flexhdr.mk.injEq, Scalars.mk.injEq, true_and, and_true]
  rw [hwords]
  simp only [seen16_eq_iff]
  by_cases ho : o = o'
  · exact ⟨fun _ => Or.inl ho, fun _ _ _ => Or.inl ho⟩
  · simp only [ho, false_or]

/-! ## What the client shows -/

/-- `have_more_frag`. -/
def have_more_frag (fhdr : Flexhdr) : Nat := (fhdr.frag_off.toNat &&& 0x2000) >>> 13

/-- The text at the beginning of a block; `none` if no null byte ends it in the block. -/
def text (b : Block) : Option (List UInt8) :=
  if 0 ∈ b then some (b.takeWhile fun c => c ≠ 0) else none

theorem text_eq_some {b t : Block} : text b = some t → 0 ∈ b := by
  unfold text
  split
  · exact fun _ => ‹0 ∈ b›
  · exact fun h => absurd h (by simp)

theorem exists_text {b : Block} (h : 0 ∈ b) : ∃ t, text b = some t := ⟨_, if_pos h⟩

/-- What `main` of the client prints of a header. -/
structure Printed where
  version : Nat
  frag_off : Nat
  saddr : List UInt8
  daddr : List UInt8
  more : Nat

/-- The `printf` calls of `main`; `none` if a text does not end in its block. -/
def print (fhdr : Flexhdr) : Option Printed := do
  let saddr ← text fhdr.saddr
  let daddr ← text fhdr.daddr
  return {
    version := fhdr.version.toNat
    frag_off := fhdr.frag_off.toNat
    saddr, daddr
    more := have_more_frag fhdr }

/-- One header is shown, and shows what the other one does. -/
def ShowsAs (got sent : Flexhdr) : Prop :=
  ∃ shown, print got = some shown ∧ print sent = some shown

/-- Of the words, only the fragment offset is shown. -/
theorem shows_seen_iff (o o' : Order) (h : Flexhdr) :
    ShowsAs (h.seen o o') h ↔
      (0 ∈ h.saddr ∧ 0 ∈ h.daddr) ∧ (o = o' ∨ Mirrored h.frag_off) := by
  rw [← seen16_eq_iff]
  refine ⟨fun hshows => ?_, fun hseen => ?_⟩
  · obtain ⟨shown, hgot, hsent⟩ := hshows
    obtain ⟨saddr, hs, hsent⟩ := Option.bind_eq_some_iff.mp hsent
    obtain ⟨daddr, hd, hsent⟩ := Option.bind_eq_some_iff.mp hsent
    have hsaddr : text (h.seen o o').saddr = some saddr := hs
    have hdaddr : text (h.seen o o').daddr = some daddr := hd
    rw [print, hsaddr, hdaddr] at hgot
    -- both show their fragment offset
    have hsame := (Option.some.inj hgot).trans (Option.some.inj hsent).symm
    have hoff := congrArg Printed.frag_off hsame
    exact ⟨⟨text_eq_some hs, text_eq_some hd⟩, UInt16.toNat_inj.mp hoff⟩
  · obtain ⟨⟨hs, hd⟩, hfrag⟩ := hseen
    obtain ⟨saddr, hsaddr⟩ := exists_text hs
    obtain ⟨daddr, hdaddr⟩ := exists_text hd
    have hprint : print (h.seen o o') = print h := by
      have hfrag' : (h.seen o o').frag_off = h.frag_off := hfrag
      simp only [print, have_more_frag, hfrag']
      rfl
    have hshown : print h =
        some ⟨h.version.toNat, h.frag_off.toNat, saddr, daddr, have_more_frag h⟩ := by
      rw [print, hsaddr, hdaddr]
      rfl
    exact ⟨_, hprint.trans hshown, hshown⟩

/--
**A header that goes to another machine.**

A header set up for addresses of `n` bytes, with any contents, is sent by a server of one byte order
to a client of any, and split in any way; the blocks it is serialized to have room for it. The
client decodes the addresses and the single bytes as they were sent, and the header as a whole
exactly if the machines have the same order or every word reads the same both ways. It shows what
the server would exactly if the fragment offset does, and both addresses end in a zero byte.
Whatever it decoded, it serializes to the bytes the server did.
-/
theorem foreign_header (o o' : Order) {heap : Scalars} {junk : Nat → UInt8} {n : Nat} {h : Flexhdr}
    {block : Block} (hn : n ≤ 255) (h0 : Filled (flexidhdr_init heap junk n).2 h n)
    (hroom : fixedLen + 2 * n ≤ block.length) :
    ∃ sent, serverSends o block h = some sent ∧
      ∀ (buffer : Block) (pieces : List (List UInt8)), buffer.length = BUFFER →
        (∀ p ∈ pieces, p ≠ []) → pieces.flatten = sent →
        ∃ got, clientHeader o' buffer (deliver pieces) = some got ∧
          got.saddr = h.saddr ∧ got.daddr = h.daddr ∧ got.version = h.version ∧
          got.packet_type = h.packet_type ∧ got.hash_type = h.hash_type ∧
          got.hash_len = h.hash_len ∧ got.hop_limit = h.hop_limit ∧ got.reserved = h.reserved ∧
          (got = h ↔ o = o' ∨ ∀ w ∈ h.words, Mirrored w) ∧
          (ShowsAs got h ↔ (0 ∈ h.saddr ∧ 0 ∈ h.daddr) ∧ (o = o' ∨ Mirrored h.frag_off)) ∧
          ∀ block' : Block, fixedLen + 2 * n ≤ block'.length →
            serialize o' block' got = serialize o block' h := by
  obtain ⟨hfits, hlen⟩ := init_sizes hn h0
  have hsize : h.size = fixedLen + 2 * n := by rw [Flexhdr.size, ← hfits.1, h0.2.2.1]
  refine ⟨h.wire o, serverSends_eq o hfits hlen (by rwa [hsize]), ?_⟩
  intro buffer pieces hbuffer hne hsent
  have hfit : (h.seen o o').size ≤ buffer.length := by
    rw [seen_size, hsize, hbuffer, fixedLen, BUFFER]
    omega
  rw [← seen_wire o o'] at hsent
  refine ⟨_, clientHeader_deliver o' (seen_fits o o' hfits) hfit hne hsent, rfl, rfl, rfl, rfl, rfl,
    rfl, rfl, rfl, seen_eq_iff o o' h, shows_seen_iff o o' h, ?_⟩
  intro block' hroom'
  rw [serialize_eq o' (seen_fits o o' hfits) (by rwa [seen_size, hsize]),
    serialize_eq o hfits (by rwa [hsize]), seen_wire]

/-- The header of the server, on a client of the other order: it is not the one that was sent, and
what is shown is right all the same. -/
theorem foreign_header_server :
    ∃ sent, serverSends .little (List.replicate 26 0) staleHeader = some sent ∧
      ∀ (buffer : Block) (pieces : List (List UInt8)), buffer.length = BUFFER →
        (∀ p ∈ pieces, p ≠ []) → pieces.flatten = sent →
        ∃ got, clientHeader .big buffer (deliver pieces) = some got ∧ got ≠ staleHeader ∧
          ShowsAs got staleHeader := by
  have hfilled : Filled (flexidhdr_init stale (fun _ => 0) 5).2 staleHeader 5 :=
    ⟨rfl, rfl, rfl, rfl⟩
  obtain ⟨sent, hsent, hall⟩ := foreign_header .little .big (by decide) hfilled
    (show fixedLen + 2 * 5 ≤ (List.replicate 26 (0 : UInt8)).length by decide)
  refine ⟨sent, hsent, fun buffer pieces hbuffer hne hpieces => ?_⟩
  obtain ⟨got, hgot, -, -, -, -, -, -, -, -, hsame, hshown, -⟩ :=
    hall buffer pieces hbuffer hne hpieces
  have hmirrored : Mirrored staleHeader.frag_off := by
    unfold Mirrored
    decide
  refine ⟨got, hgot, fun heq => ?_, hshown.mpr ⟨by decide, Or.inr hmirrored⟩⟩
  -- the length of this header is 26, and of the one that is read 26 * 256
  rcases hsame.mp heq with horder | hwords
  · exact absurd horder (by decide)
  · have hlength : Mirrored 26 := hwords 26 (by decide)
    exact absurd hlength (by unfold Mirrored; decide)

end Versatile.Flexid
