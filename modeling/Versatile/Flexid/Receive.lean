import Versatile.Flexid.Sizes

/-!
# The buffer of the client

The loop of `client.c` asks `recv` for 1000 bytes each time, and has it put them behind what it
received before; the buffer is 1000 bytes long. Where that goes wrong is told by the number of bytes
that arrive, however they are split. The header is then decoded from the buffer without a look at
how much of it was received.
-/

namespace Versatile.Flexid

open Bytes

/-! ## The loop, turn by turn -/

/-- The size of the buffer, and what every call of `recv` asks for. -/
def BUFFER : Nat := 1000

/-- The variables of the loop. -/
structure Loop where
  buffer : Block
  bytes : Int

/-- What a turn of the loop leads to. -/
inductive Turn where
  | again (l : Loop)
  /-- `break`: the peer closed the connection. -/
  | closed (l : Loop)
  /-- `exit(1)`. -/
  | exited (l : Loop)
  /-- A byte was stored outside the buffer. -/
  | overrun

/-- A turn of the loop: the result of `recv`, also an error, is added to `bytes` before it is
looked at. -/
def turn (l : Loop) : Received → Turn
  | .failed => .exited { l with bytes := l.bytes + -1 }
  | .data bs =>
    match l.buffer.write l.bytes.toNat bs with
    | none => .overrun
    | some buffer =>
      if bs.length = 0 then .closed ⟨buffer, l.bytes + bs.length⟩
      else .again ⟨buffer, l.bytes + bs.length⟩

/-- The loop, on the results of `recv`. -/
def turns (l : Loop) : List Received → Turn
  | [] => .again l
  | r :: rs =>
    match turn l r with
    | .again l => turns l rs
    | ended => ended

/-- What `main` sees of it. -/
def Turn.loopEnd : Turn → LoopEnd
  | .again _ => .waiting
  | .closed l => .closed l.buffer l.bytes.toNat
  | .exited _ => .exited
  | .overrun => .overrun

/-- **It is the loop of the client.** -/
theorem turns_loopEnd (rs : List Received) (buffer : Block) (bytes : Nat) :
    (turns ⟨buffer, bytes⟩ rs).loopEnd = recvLoop rs buffer bytes := by
  induction rs generalizing buffer bytes with
  | nil => rfl
  | cons r rs ih =>
    cases r with
    | failed => rfl
    | data bs =>
      cases hwrite : buffer.write bytes bs with
      | none =>
        simp only [turns, turn, recvLoop, Int.toNat_natCast, hwrite]
        rfl
      | some buffer' =>
        simp only [turns, turn, recvLoop, Int.toNat_natCast, hwrite]
        rw [← Int.natCast_add]
        by_cases hbs : bs.length = 0
        · rw [if_pos hbs, if_pos hbs]
          rfl
        · rw [if_neg hbs, if_neg hbs]
          exact ih buffer' (bytes + bs.length)

/-! ## What arrives -/

/-- A run of `recv` on what a peer sends: some of it arrives, in pieces of at most the size that
was asked for, until the peer closes or the connection fails. -/
structure Delivery (stream : List UInt8) where
  pieces : List (List UInt8)
  ending : Received
  sized : ∀ p ∈ pieces, p ≠ [] ∧ p.length ≤ BUFFER
  sent : pieces.flatten <+: stream
  ends : ending = .data [] ∨ ending = .failed

/-- The bytes that arrived. -/
def Delivery.received {stream : List UInt8} (d : Delivery stream) : List UInt8 := d.pieces.flatten

/-- The results of `recv`. -/
def Delivery.results {stream : List UInt8} (d : Delivery stream) : List Received :=
  d.pieces.map .data ++ [d.ending]

/-- The variables when some bytes were received: the buffer begins with them. -/
def holding (b : Block) (got : List UInt8) : Loop := ⟨b.fill got, got.length⟩

/-- **One turn**: a piece that fits goes behind what was received before. -/
theorem turn_data {b : Block} {got p : List UInt8} (hgot : got.length ≤ b.length) (hp : p ≠ []) :
    turn (holding b got) (.data p) =
      if (got ++ p).length ≤ b.length then .again (holding b (got ++ p)) else .overrun := by
  have hne : ¬ p.length = 0 := fun h => hp (List.length_eq_zero_iff.mp h)
  have hbytes : (holding b got).bytes.toNat = got.length := Int.toNat_natCast _
  unfold turn
  dsimp only
  rw [hbytes]
  by_cases hroom : (got ++ p).length ≤ b.length
  · have hwrite : (holding b got).buffer.write got.length p = some (b.fill (got ++ p)) :=
      Block.write_fill rfl hroom
    rw [hwrite, if_pos hroom]
    dsimp only
    rw [if_neg hne, holding, holding, List.length_append, Int.natCast_add]
  · have hfull : (holding b got).buffer.length = b.length := by
      rw [holding, Block.fill, List.length_append, List.length_drop]
      omega
    have hwrite : (holding b got).buffer.write got.length p = none := by
      rw [List.length_append] at hroom
      rw [Block.write, if_neg (by omega)]
    rw [hwrite, if_neg hroom]

/-- **The whole run**: what matters is how many bytes arrive. -/
theorem turns_pieces {b : Block} {rs : List Received} :
    ∀ {pieces : List (List UInt8)} {got : List UInt8}, (∀ p ∈ pieces, p ≠ []) →
      got.length ≤ b.length →
      turns (holding b got) (pieces.map .data ++ rs) =
        if (got ++ pieces.flatten).length ≤ b.length
        then turns (holding b (got ++ pieces.flatten)) rs else .overrun
  | [], got, _, hgot => by
      rw [List.flatten_nil, List.append_nil, if_pos hgot]
      rfl
  | p :: pieces, got, hne, hgot => by
      have hne' : ∀ q ∈ pieces, q ≠ [] := fun q hq => hne q (List.mem_cons_of_mem _ hq)
      rw [List.map_cons, List.cons_append, turns, turn_data hgot (hne p List.mem_cons_self),
        List.flatten_cons, ← List.append_assoc]
      by_cases hroom : (got ++ p).length ≤ b.length
      · rw [if_pos hroom]
        exact turns_pieces hne' hroom
      · -- no later piece makes up for it
        have hover : ¬ (got ++ p ++ pieces.flatten).length ≤ b.length := by
          rw [List.length_append]
          omega
        rw [if_neg hroom, if_neg hover]

/-- A last result behind the pieces. -/
theorem turns_last (l : Loop) (r : Received) : turns l [r] = turn l r := by
  unfold turns
  cases turn l r <;> rfl

/-- **How a run ends**: with its last result, if the bytes fit the buffer. -/
theorem turns_results {stream : List UInt8} (d : Delivery stream) (b : Block) :
    turns ⟨b, 0⟩ d.results =
      if d.received.length ≤ b.length then turn (holding b d.received) d.ending else .overrun := by
  have hne : ∀ p ∈ d.pieces, p ≠ [] := fun p hp => (d.sized p hp).1
  have hrun := @turns_pieces b [d.ending] d.pieces [] hne (Nat.zero_le _)
  rw [List.nil_append, turns_last] at hrun
  exact hrun

/-- The last result of `recv`. -/
theorem turn_closed {b : Block} {got : List UInt8} (hgot : got.length ≤ b.length) :
    turn (holding b got) (.data []) = .closed (holding b got) := by
  have hwrite : (holding b got).buffer.write (holding b got).bytes.toNat [] =
      some (b.fill (got ++ [])) := by
    rw [holding, Int.toNat_natCast]
    exact Block.write_fill rfl (by rwa [List.append_nil])
  unfold turn
  dsimp only
  rw [hwrite, List.append_nil]
  rfl

theorem holding_take (b : Block) (got : List UInt8) {n : Nat} (hn : n ≤ got.length) :
    (holding b got).buffer.take n = got.take n := by
  rw [holding, Block.fill, List.take_append_of_le_length hn]

/-! ## Inside the buffer -/

/-- Every byte is stored inside the buffer, and in the end its first `bytes` bytes are those that
were received. When the connection failed, `bytes` is one less and the program exits. -/
def StaysInside (buffer : Block) {stream : List UInt8} (d : Delivery stream) : Prop :=
  match turns ⟨buffer, 0⟩ d.results with
  | .closed l => l.bytes = d.received.length ∧ l.buffer.take l.bytes.toNat = d.received
  | .exited l => l.bytes = (d.received.length : Int) - 1 ∧
      l.buffer.take l.bytes.toNat = d.received.take l.bytes.toNat
  | _ => False

theorem not_stays_of_overrun {stream : List UInt8} {d : Delivery stream} {buffer : Block}
    (hover : ¬ d.received.length ≤ buffer.length) : ¬ StaysInside buffer d := by
  intro h
  rw [StaysInside, turns_results, if_neg hover] at h
  exact h

/--
**When the loop stays inside its buffer**: if no more bytes arrive than the buffer holds, however
they are split and however the connection ends.
-/
theorem stays_inside_iff {stream : List UInt8} (d : Delivery stream) {buffer : Block}
    (hsize : buffer.length = BUFFER) :
    StaysInside buffer d ↔ d.received.length ≤ BUFFER := by
  rw [← hsize]
  refine ⟨fun h => ?_, fun hroom => ?_⟩
  · by_contra hover
    exact not_stays_of_overrun hover h
  · rw [StaysInside, turns_results, if_pos hroom]
    rcases d.ends with hend | hend
    · rw [hend, turn_closed hroom]
      refine ⟨rfl, ?_⟩
      have hbytes : (holding buffer d.received).bytes.toNat = d.received.length :=
        Int.toNat_natCast _
      rw [hbytes, holding_take _ _ (Nat.le_refl _), List.take_length]
    · rw [hend]
      refine ⟨rfl, holding_take buffer d.received ?_⟩
      show ((d.received.length : Int) + -1).toNat ≤ d.received.length
      omega

/-- A buffer of zeros. -/
def zeros : Block := List.replicate BUFFER 0

theorem zeros_length : zeros.length = BUFFER := List.length_replicate

/-- The header of the server arrives in three pieces, and the peer closes. -/
def threePieces : Delivery (staleHeader.wire .little) where
  pieces := [(staleHeader.wire .little).take 10, ((staleHeader.wire .little).drop 10).take 15,
    (staleHeader.wire .little).drop 25]
  ending := .data []
  sized := by decide
  sent := by decide
  ends := Or.inl rfl

theorem threePieces_fits : threePieces.received.length ≤ BUFFER := by
  have hlen : threePieces.received.length = 26 := by decide
  rw [hlen, BUFFER]
  omega

/-- A loop that receives a header in pieces stays inside. -/
theorem stays_inside_pieces : StaysInside zeros threePieces := by
  rw [stays_inside_iff threePieces zeros_length]
  exact threePieces_fits

/-- A piece of 600 bytes. -/
def piece : List UInt8 := List.replicate 600 0

theorem piece_length : piece.length = 600 := List.length_replicate

/-- Two such pieces. -/
def twoPieces : Delivery (piece ++ piece) where
  pieces := [piece, piece]
  ending := .data []
  sized := by
    intro p hp
    have hp' : p = piece := by
      simpa only [List.mem_cons, List.not_mem_nil, or_false, or_self] using hp
    rw [hp', ← List.length_pos_iff, piece_length, BUFFER]
    omega
  sent := ⟨[], by simp only [List.flatten_cons, List.flatten_nil, List.append_nil]⟩
  ends := Or.inl rfl

/-- **The loop does not stay inside its buffer** when more arrives than it holds. -/
theorem not_stays_inside : ¬ StaysInside zeros twoPieces := by
  have hreceived : twoPieces.received.length = 1200 := by
    show (piece ++ (piece ++ [])).length = 1200
    rw [List.append_nil, List.length_append, piece_length]
  have hover : ¬ twoPieces.received.length ≤ zeros.length := by
    rw [hreceived, zeros_length, BUFFER]
    omega
  exact not_stays_of_overrun hover

/-! ## Decoding what was received -/

/-- What `deserialize` reads of the buffer: where each copy begins, and how long it is. The number
of bytes received is not among what it is given. -/
def deserialize_reads (o : Order) (buffer : Block) : List (Nat × Nat) :=
  let hash_len := (Scalars.ofBytes o (buffer.take fixedLen)).hash_len.toNat
  [(0, fixedLen), (fixedLen, hash_len), (fixedLen + hash_len, hash_len)]

/-- These are the accesses of `deserialize`. -/
theorem deserialize_isSome_iff (o : Order) (buffer : Block) :
    (deserialize o buffer).2.isSome ↔
      ∀ c ∈ deserialize_reads o buffer, c.1 + c.2 ≤ buffer.length := by
  unfold deserialize deserialize_reads
  simp only [List.forall_mem_cons, List.not_mem_nil, false_imp_iff, implies_true, and_true,
    Nat.zero_add, Option.bind_eq_bind]
  by_cases hfixed : fixedLen ≤ buffer.length
  · rw [Block.read_take hfixed, Option.bind_some]
    generalize (Scalars.ofBytes o (buffer.take fixedLen)).hash_len.toNat = n
    by_cases hs : fixedLen + n ≤ buffer.length
    · by_cases hd : fixedLen + n + n ≤ buffer.length
      · simp [Block.read, hfixed, hs, hd]
      · simp [Block.read, hs, hd]
    · simp [Block.read, hs]
  · simp [Block.read, hfixed]

/-- What is read of the buffer was received, or a failure is reported. -/
def OnlyReceived (o : Order) (l : Loop) : Prop :=
  (deserialize o l.buffer).1 ≠ SUCCESS ∨
    ∀ c ∈ deserialize_reads o l.buffer, ∀ i : Nat, c.1 ≤ i → i < c.1 + c.2 → i < l.bytes

/-- The bytes received hold a whole header. -/
def HoldsHeader (got : List UInt8) : Prop :=
  ∃ hash_len : UInt8, got[3]? = some hash_len ∧ fixedLen + 2 * hash_len.toNat ≤ got.length

/-- The length byte that is read is the one received. -/
theorem holding_hash_len (o : Order) (b : Block) {got : List UInt8} {n : UInt8}
    (hn : got[3]? = some n) (hlen : fixedLen ≤ got.length) :
    (Scalars.ofBytes o ((holding b got).buffer.take fixedLen)).hash_len = n := by
  have hbyte : (got.take fixedLen)[3]? = some n := by
    rw [List.getElem?_take_of_lt (by decide), hn]
  rw [holding_take b got hlen]
  show UInt8.ofNat (readNat o (got.take fixedLen) 3 1) = n
  rw [readNat_one o hbyte, UInt8.ofNat_toNat]

/-- **Only received bytes are read** exactly if they hold the header. -/
theorem onlyReceived_iff (o : Order) (b : Block) (got : List UInt8) :
    OnlyReceived o (holding b got) ↔ HoldsHeader got := by
  have hret : ¬ (deserialize o (holding b got).buffer).1 ≠ SUCCESS := fun h => h rfl
  have hbytes : (holding b got).bytes = got.length := rfl
  rw [OnlyReceived, or_iff_right hret, hbytes, deserialize_reads]
  simp only [List.forall_mem_cons, List.not_mem_nil, false_imp_iff, implies_true, and_true]
  refine ⟨fun h => ?_, fun h => ?_⟩
  · obtain ⟨hfixed, -, hdaddr⟩ := h
    have hlast := hfixed 15 (Nat.zero_le _) (by decide)
    have hlen : fixedLen ≤ got.length := by
      unfold fixedLen
      omega
    obtain ⟨n, hn⟩ : ∃ n, got[3]? = some n := ⟨got[3], List.getElem?_eq_getElem (by omega)⟩
    rw [holding_hash_len o b hn hlen] at hdaddr
    refine ⟨n, hn, ?_⟩
    by_cases hzero : n.toNat = 0
    · rw [hzero]
      exact hlen
    · have hend := hdaddr (fixedLen + n.toNat + n.toNat - 1) (by omega) (by omega)
      omega
  · obtain ⟨n, hn, hlen⟩ := h
    rw [holding_hash_len o b hn (by omega)]
    refine ⟨fun i _ hi => ?_, fun i _ hi => ?_, fun i _ hi => ?_⟩ <;> omega

/--
**When decoding uses received bytes only.**

Whatever the client received when the peer closed, `deserialize` reports no failure, and reads
nothing else exactly if the two addresses of the length byte were received as well.
-/
theorem decode_received_iff (o : Order) {stream : List UInt8} (d : Delivery stream)
    {buffer : Block} {l : Loop} (hclosed : turns ⟨buffer, 0⟩ d.results = .closed l) :
    OnlyReceived o l ↔ HoldsHeader d.received := by
  rw [turns_results] at hclosed
  by_cases hroom : d.received.length ≤ buffer.length
  · rw [if_pos hroom] at hclosed
    rcases d.ends with hend | hend
    · rw [hend, turn_closed hroom] at hclosed
      rw [← Turn.closed.inj hclosed]
      exact onlyReceived_iff o buffer d.received
    · rw [hend] at hclosed
      exact absurd hclosed (by simp [turn])
  · rw [if_neg hroom] at hclosed
    exact absurd hclosed (by simp)

/-- What the client holds when the peer closes. -/
theorem turns_closed {stream : List UInt8} {d : Delivery stream} (hend : d.ending = .data [])
    (hroom : d.received.length ≤ BUFFER) :
    turns ⟨zeros, 0⟩ d.results = .closed (holding zeros d.received) := by
  rw [← zeros_length] at hroom
  rw [turns_results, if_pos hroom, hend]
  exact turn_closed hroom

/-- Of a header that arrived in pieces nothing else is read. -/
theorem decode_received_pieces : OnlyReceived .little (holding zeros threePieces.received) := by
  rw [decode_received_iff .little threePieces (turns_closed rfl threePieces_fits)]
  exact ⟨5, by decide, by decide⟩

/-- The header of the server, cut off where its addresses should begin. -/
def cutHeader : Delivery (staleHeader.wire .little) where
  pieces := [(staleHeader.wire .little).take fixedLen]
  ending := .data []
  sized := by decide
  sent := by decide
  ends := Or.inl rfl

/-- **More is read than was received**: the addresses the length byte promises. -/
theorem not_only_received :
    turns ⟨zeros, 0⟩ cutHeader.results = .closed (holding zeros cutHeader.received) ∧
      ¬ OnlyReceived .little (holding zeros cutHeader.received) := by
  have hfits : cutHeader.received.length ≤ BUFFER := by
    have hlen : cutHeader.received.length = 16 := by decide
    rw [hlen, BUFFER]
    omega
  refine ⟨turns_closed rfl hfits, ?_⟩
  rw [onlyReceived_iff]
  intro hwhole
  obtain ⟨n, hn, hlen⟩ := hwhole
  have hbyte : cutHeader.received[3]? = some 5 := by decide
  obtain rfl : (5 : UInt8) = n := Option.some.inj (hbyte.symm.trans hn)
  exact absurd hlen (by decide)

end Versatile.Flexid
