import Versatile.Flexid.Header

/-!
# A header over the wire

`client.c` collects what the server sent, call of `recv` by call, and decodes it. TCP may
split the bytes in any way; the invariant of the loop is that the buffer begins with what
was received so far, and the header is told by the bytes that `serialize` made of it.
-/

namespace Versatile.Flexid

open Bytes

/-- A result of `recv`: some bytes (none when the peer has closed), or an error. -/
inductive Received where
  | data (bs : List UInt8)
  | failed

/-- How the loop of `client.c` ends. -/
inductive LoopEnd where
  /-- The peer closed the connection: the buffer, and the number of bytes in it. -/
  | closed (buffer : Block) (bytes : Nat)
  /-- `exit(1)`. -/
  | exited
  /-- A result was stored outside the buffer. -/
  | overrun
  /-- The results are used up, and `recv` blocks. -/
  | waiting

/-- The `recv` loop. -/
def recvLoop : List Received → Block → Nat → LoopEnd
  | [], _, _ => .waiting
  | .failed :: _, _, _ => .exited
  | .data bs :: rs, buffer, bytes =>
    match buffer.write bytes bs with
    | none => .overrun
    | some buffer =>
      if bs.length = 0 then .closed buffer (bytes + bs.length)
      else recvLoop rs buffer (bytes + bs.length)

/-- The header `main` prints: the one decoded from the buffer. -/
def clientHeader (o : Order) (buffer : Block) (rs : List Received) : Option Flexhdr :=
  match recvLoop rs buffer 0 with
  | .closed buffer _ => (deserialize o buffer).2
  | _ => none

/-- What the server sends: `header_len` bytes of the serialized block. -/
def serverSends (o : Order) (block : Block) (h : Flexhdr) : Option (List UInt8) := do
  let block ← serialize o block h
  block.read 0 h.header_len.toNat

/-- The results of `recv` for a stream that arrives in some pieces and then ends. -/
def deliver (pieces : List (List UInt8)) : List Received := pieces.map .data ++ [.data []]

/-- **The loop puts the pieces together.** The buffer begins with what was received. -/
theorem recvLoop_deliver {buffer : Block} :
    ∀ {pieces : List (List UInt8)} {got : List UInt8}, (∀ p ∈ pieces, p ≠ []) →
      (got ++ pieces.flatten).length ≤ buffer.length →
      recvLoop (deliver pieces) (buffer.fill got) got.length =
        .closed (buffer.fill (got ++ pieces.flatten)) (got ++ pieces.flatten).length
  | [], got, _, hroom => by
      have hwrite : (buffer.fill got).write got.length [] = some (buffer.fill (got ++ [])) :=
        Block.write_fill rfl (by simpa using hroom)
      simp [deliver, recvLoop, hwrite]
  | p :: pieces, got, hne, hroom => by
      have hp : p.length ≠ 0 := by
        rw [Ne, List.length_eq_zero_iff]
        exact hne p (List.mem_cons_self ..)
      rw [List.flatten_cons, ← List.append_assoc] at hroom ⊢
      have hwrite : (buffer.fill got).write got.length p = some (buffer.fill (got ++ p)) := by
        refine Block.write_fill rfl ?_
        rw [List.length_append] at hroom
        omega
      have hne' : ∀ q ∈ pieces, q ≠ [] := fun q hq => hne q (List.mem_cons_of_mem _ hq)
      have ih := @recvLoop_deliver buffer pieces (got ++ p) hne' hroom
      have hdeliver : deliver (p :: pieces) = .data p :: deliver pieces := rfl
      rw [hdeliver, recvLoop, hwrite]
      simp only [if_neg hp]
      rw [← List.length_append, ih]

/-- A header that was set up for addresses of `n` bytes, then given other contents: the two
lengths stay as they were set. -/
def Filled (h0 h : Flexhdr) (n : Nat) : Prop :=
  h.hash_len = h0.hash_len ∧ h.header_len = h0.header_len ∧ h.saddr.length = n ∧ h.daddr.length = n

/-- The lengths `flexidhdr_init` sets agree with the size of the header. -/
theorem init_sizes {heap : Scalars} {junk : Nat → UInt8} {n : Nat} {h : Flexhdr} (hn : n ≤ 255)
    (h0 : Filled (flexidhdr_init heap junk n).2 h n) : h.Fits ∧ h.header_len.toNat = h.size := by
  obtain ⟨hhash, hlen, hs, hd⟩ := h0
  have hhash' : h.hash_len.toNat = n := by
    rw [hhash]
    show (UInt8.ofNat n).toNat = n
    rw [UInt8.toNat_ofNat', Nat.mod_eq_of_lt (by omega)]
  have hlen' : h.header_len.toNat = fixedLen + 2 * n := by
    rw [hlen]
    show (UInt16.ofNat (fixedLen + 2 * n)).toNat = fixedLen + 2 * n
    rw [UInt16.toNat_ofNat', Nat.mod_eq_of_lt (by rw [fixedLen]; omega)]
  exact ⟨⟨hs.trans hhash'.symm, hd.trans hhash'.symm⟩, by rw [hlen', Flexhdr.size, hhash']⟩

/-- The server sends exactly the header as it is written. -/
theorem serverSends_eq (o : Order) {block : Block} {h : Flexhdr} (hfits : h.Fits)
    (hlen : h.header_len.toNat = h.size) (hroom : h.size ≤ block.length) :
    serverSends o block h = some (h.wire o) := by
  have hwire := Flexhdr.wire_length hfits o
  have hread : (block.fill (h.wire o)).read 0 h.header_len.toNat = some (h.wire o) := by
    rw [Block.read_fill (by omega), slice_zero, List.take_of_length_le (by omega)]
  rw [serverSends, serialize_eq o hfits hroom]
  exact hread

/-- The client decodes what the server sends, in whatever pieces it arrives. -/
theorem clientHeader_deliver (o : Order) {buffer : Block} {h : Flexhdr} {pieces : List (List UInt8)}
    (hfits : h.Fits) (hroom : h.size ≤ buffer.length) (hne : ∀ p ∈ pieces, p ≠ [])
    (hsent : pieces.flatten = h.wire o) : clientHeader o buffer (deliver pieces) = some h := by
  have hloop := @recvLoop_deliver buffer pieces [] hne
    (by rw [List.nil_append, hsent, Flexhdr.wire_length hfits]; exact hroom)
  rw [Block.fill_nil, List.nil_append, hsent] at hloop
  rw [clientHeader, show (0 : Nat) = ([] : List UInt8).length from rfl, hloop]
  exact congrArg Prod.snd (deserialize_wire o hfits)

/--
**The header codec loses nothing over the wire.**

A header set up for addresses of `n` bytes, with any contents, is decoded by the client from
what the server sends, however TCP splits it; and what is decoded from any bytes that hold a
whole header is serialized to these bytes again.
-/
theorem codec_lossless (o : Order) :
    (∀ (heap : Scalars) (junk : Nat → UInt8) (n : Nat) (h : Flexhdr) (block : Block), n ≤ 255 →
      Filled (flexidhdr_init heap junk n).2 h n → fixedLen + 2 * n ≤ block.length →
      ∃ sent, serverSends o block h = some sent ∧ sent.length = h.header_len.toNat ∧
        ∀ (buffer : Block) (pieces : List (List UInt8)), buffer.length = 1000 →
          (∀ p ∈ pieces, p ≠ []) → pieces.flatten = sent →
          clientHeader o buffer (deliver pieces) = some h) ∧
    ∀ (b block : Block) (n : UInt8), b[3]? = some n → fixedLen + 2 * n.toNat ≤ b.length →
      fixedLen + 2 * n.toNat ≤ block.length →
      ∃ h, deserialize o b = (SUCCESS, some h) ∧
        serialize o block h = some (block.fill (b.take (fixedLen + 2 * n.toNat))) := by
  refine ⟨?_, ?_⟩
  · intro heap junk n h block hn h0 hroom
    obtain ⟨hfits, hlen⟩ := init_sizes hn h0
    have hsize : h.size = fixedLen + 2 * n := by rw [Flexhdr.size, ← hfits.1, h0.2.2.1]
    refine ⟨h.wire o, serverSends_eq o hfits hlen (by rwa [hsize]), ?_, ?_⟩
    · rw [Flexhdr.wire_length hfits, hlen]
    · intro buffer pieces hbuffer hne hsent
      -- a header of the largest addresses still fits the buffer of the client
      have hfit : h.size ≤ buffer.length := by rw [hsize, hbuffer, fixedLen]; omega
      exact clientHeader_deliver o hfits hfit hne hsent
  · intro b block n hbn hlen hroom
    obtain ⟨h, hdec, hfits, hhash, hwire⟩ := wire_deserialize o hbn hlen
    refine ⟨h, hdec, ?_⟩
    rw [serialize_eq o hfits (by rw [Flexhdr.size, hhash]; exact hroom), hwire]

/-- The header of `server.c`: addresses of five bytes, two of the scalar fields assigned. -/
def serverHeader (heap : Scalars) (junk : Nat → UInt8) : Flexhdr :=
  { (flexidhdr_init heap junk 5).2 with
    version := 1, frag_off := 65535, saddr := [48, 49, 50, 51, 0], daddr := [97, 98, 99, 100, 0] }

/-- What a block of the heap may hold. -/
def stale : Scalars := ⟨1, 2, 3, 4, 0x0506, 0x0708, 0x090a, 0x0b0c, 0x0d0e, 15, 16⟩

/-- The header of the server on such a heap. -/
def staleHeader : Flexhdr := serverHeader stale fun _ => 0

/-- The header of the server goes over the wire, and its bytes are written as they were read. -/
theorem codec_lossless_server :
    (∃ sent, serverSends .little (List.replicate 26 0) staleHeader = some sent ∧
      sent.length = staleHeader.header_len.toNat ∧
      ∀ (buffer : Block) (pieces : List (List UInt8)), buffer.length = 1000 →
        (∀ p ∈ pieces, p ≠ []) → pieces.flatten = sent →
        clientHeader .little buffer (deliver pieces) = some staleHeader) ∧
      ∃ h, deserialize .big (staleHeader.wire .big) = (SUCCESS, some h) ∧
        serialize .big (List.replicate 30 0) h =
          some (Block.fill (List.replicate 30 0) ((staleHeader.wire .big).take 26)) :=
  ⟨(codec_lossless .little).1 stale (fun _ => 0) 5 _ _ (by decide) ⟨rfl, rfl, rfl, rfl⟩ (by decide),
    (codec_lossless .big).2 (staleHeader.wire .big) (List.replicate 30 0) 5 rfl (by decide)
      (by decide)⟩

end Versatile.Flexid
