import Versatile.App.Session
import Versatile.Socket.Input

/-!
# The send routine of the kernel module

`sendmsg` of a datagram socket is `flex_unreliable_sendmsg_test`: it looks a device up by its name,
builds a frame with a join in it and queues it. The message it was called with is not looked at, the
result is -1 on every path, and neither the reference to the device nor a buffer whose frame header
could not be made is given back.

The functions it calls are the kernel's, and stand here as whatever meets their documentation
(`NetKernel.Documented`). What a call leaves behind is told once (`sendmsg_leaves`), and a run of
calls from that (`sends_leave`). The frames that are queued hold the same header as a join of the
applications, so the dissector shows it, and `flex_rcv` takes it.
-/

namespace Versatile.Socket

open Bytes App

/-! ## The kernel -/

/-- What the routine uses of the kernel: what a buffer holds, the room in front of it and behind
it, and the functions that are called. What they find may differ from moment to moment. -/
structure NetKernel (ω Dev Skb : Type) where
  data : Skb → List UInt8
  headroom : Skb → Nat
  tailroom : Skb → Nat
  dev_get_by_name : ω → String → Option Dev
  LL_RESERVED_SPACE : Dev → Nat
  alloc_skb : ω → Nat → Option Skb
  skb_reserve : Skb → Nat → Skb
  /-- `skb_put`, and what is then stored there. `none` is `skb_over_panic`. -/
  skb_put : Skb → List UInt8 → Option Skb
  /-- What it returns, and the buffer. `none` is `skb_under_panic`. -/
  dev_hard_header : ω → Skb → Dev → Option (Int × Skb)

variable {ω Dev Skb : Type}

/-- What the kernel documents of them. -/
structure NetKernel.Documented (k : NetKernel ω Dev Skb) : Prop where
  /-- A new buffer has no headroom, and as much tailroom as was asked for. -/
  alloc_skb : ∀ {w n skb}, k.alloc_skb w n = some skb →
    k.data skb = [] ∧ k.headroom skb = 0 ∧ n ≤ k.tailroom skb
  /-- The headroom of an empty buffer grows by what the tailroom is reduced. -/
  skb_reserve : ∀ {skb n}, k.data skb = [] → n ≤ k.tailroom skb →
    k.data (k.skb_reserve skb n) = [] ∧
      k.headroom (k.skb_reserve skb n) = k.headroom skb + n ∧
      k.tailroom (k.skb_reserve skb n) = k.tailroom skb - n
  /-- The data are extended into the tailroom. -/
  skb_put : ∀ {skb bs}, bs.length ≤ k.tailroom skb → ∃ skb', k.skb_put skb bs = some skb' ∧
    k.data skb' = k.data skb ++ bs ∧ k.headroom skb' = k.headroom skb
  /-- A header that is made stands in front of the data, in the room that is reserved for it. -/
  dev_hard_header : ∀ {w skb dev}, k.LL_RESERVED_SPACE dev ≤ k.headroom skb →
    ∃ rc skb', k.dev_hard_header w skb dev = some (rc, skb') ∧
      (0 ≤ rc → ∃ header, k.data skb' = header ++ k.data skb)

/-! ## Sending -/

/-- The values the routine gives the header. -/
def frameValues : Values where
  version := 0x10
  packet_type := 0x01
  hash_type := 0x01
  hop_limit := 128
  header_len := 64
  check := 0x1234
  packet_id := 0x7777
  frag_off := 0xA365
  sflex_id := FlexID.memset 49
  dflex_id := FlexID.memset 55
  packet_len := 64
  seq := 0x12345678
  ack := 0x98765432

/-- A call of `sendmsg`: when it is made, and the message. -/
structure Send (ω : Type) where
  moment : ω
  msg : List UInt8

/-- What the calls leave behind: the references to devices that were taken and not put, the buffers
that nobody holds any more, and the frames that were queued. -/
structure Traffic where
  refs : Nat
  lost : Nat
  queued : List (List UInt8)

/-- Nothing was sent. -/
def Traffic.none : Traffic := ⟨0, 0, []⟩

/-- `flex_unreliable_sendmsg_test`. `none`: the kernel faults or panics. -/
def flex_unreliable_sendmsg_test (k : NetKernel ω Dev Skb) (o : Order) (t : Traffic) (c : Send ω) :
    Option (Int × Traffic) := do
  -- `LL_RESERVED_SPACE` reads the device through a pointer that nobody looks at
  let dev ← k.dev_get_by_name c.moment "enp1s0"
  let t := { t with refs := t.refs + 1 }
  match k.alloc_skb c.moment (sizeofFlexhdr + k.LL_RESERVED_SPACE dev) with
  | .none => return (-1, t)
  | some skb =>
    let skb := k.skb_reserve skb (k.LL_RESERVED_SPACE dev)
    let skb ← k.skb_put skb ((frameValues.header o).bytes o)
    let (rc, skb) ← k.dev_hard_header c.moment skb dev
    if rc < 0 then return (-1, { t with lost := t.lost + 1 })
    else return (-1, { t with queued := t.queued ++ [k.data skb] })

/-- Some calls one behind the other: what they return, and what they leave behind. -/
def sends (k : NetKernel ω Dev Skb) (o : Order) :
    Traffic → List (Send ω) → Option (List Int × Traffic)
  | t, [] => some ([], t)
  | t, c :: cs => do
    let (rc, t) ← flex_unreliable_sendmsg_test k o t c
    let (rcs, t) ← sends k o t cs
    return (rc :: rcs, t)

/-! ## What a call does -/

variable {k : NetKernel ω Dev Skb}

/-- The call finds its device. -/
def NetKernel.finds (k : NetKernel ω Dev Skb) (c : Send ω) : Bool :=
  (k.dev_get_by_name c.moment "enp1s0").isSome

/-- The call is given a buffer. -/
def NetKernel.buffers (k : NetKernel ω Dev Skb) (c : Send ω) : Bool :=
  match k.dev_get_by_name c.moment "enp1s0" with
  | some dev => (k.alloc_skb c.moment (sizeofFlexhdr + k.LL_RESERVED_SPACE dev)).isSome
  | none => false

/-- Some header in front of the packet. -/
def IsFrame (frame : List UInt8) : Prop := ∃ header, frame = header ++ frameValues.wire

/-- What some calls leave behind, from one traffic to the next. -/
structure Leaves (k : NetKernel ω Dev Skb) (calls : List (Send ω)) (t t' : Traffic) : Prop where
  refs : t'.refs = t.refs + calls.length
  buffers : t'.lost + t'.queued.length = t.lost + t.queued.length + calls.countP k.buffers
  frames : ∀ frame ∈ t'.queued, frame ∈ t.queued ∨ IsFrame frame

theorem Leaves.nil (t : Traffic) : Leaves k [] t t := ⟨rfl, rfl, fun _ h => Or.inl h⟩

theorem Leaves.cons {c : Send ω} {calls : List (Send ω)} {t1 t2 t3 : Traffic}
    (h1 : Leaves k [c] t1 t2) (h2 : Leaves k calls t2 t3) : Leaves k (c :: calls) t1 t3 := by
  refine ⟨?_, ?_, fun frame hframe => ?_⟩
  · rw [h2.refs, h1.refs]
    simp only [List.length_cons, List.length_nil]
    omega
  · rw [h2.buffers, h1.buffers, List.countP_cons (l := calls), List.countP_singleton]
    omega
  · rcases h2.frames frame hframe with hold | hnew
    · exact h1.frames frame hold
    · exact Or.inr hnew

/-- The frame that is built in a buffer: neither the packet nor its header leaves the buffer. -/
theorem NetKernel.Documented.built (hk : k.Documented) (o : Order) {w : ω} {dev : Dev} {skb : Skb}
    (halloc : k.alloc_skb w (sizeofFlexhdr + k.LL_RESERVED_SPACE dev) = some skb) :
    ∃ put rc pushed,
      k.skb_put (k.skb_reserve skb (k.LL_RESERVED_SPACE dev)) ((frameValues.header o).bytes o) =
        some put ∧
      k.dev_hard_header w put dev = some (rc, pushed) ∧ (0 ≤ rc → IsFrame (k.data pushed)) := by
  obtain ⟨hempty, hhead, htail⟩ := hk.alloc_skb halloc
  obtain ⟨hdata, hroom, hleft⟩ :=
    hk.skb_reserve hempty (show k.LL_RESERVED_SPACE dev ≤ k.tailroom skb by omega)
  have hlen : ((frameValues.header o).bytes o).length = sizeofFlexhdr := by
    rw [header_bytes, wire_length]
    rfl
  have hfits : ((frameValues.header o).bytes o).length ≤
      k.tailroom (k.skb_reserve skb (k.LL_RESERVED_SPACE dev)) := by
    rw [hlen, hleft]
    omega
  obtain ⟨put, hput, hpacket, hfront⟩ := hk.skb_put hfits
  rw [hdata, List.nil_append, header_bytes] at hpacket
  have hreserved : k.LL_RESERVED_SPACE dev ≤ k.headroom put := by
    rw [hfront, hroom]
    omega
  obtain ⟨rc, pushed, hpush, hmade⟩ :
      ∃ rc pushed, k.dev_hard_header w put dev = some (rc, pushed) ∧
        (0 ≤ rc → ∃ header, k.data pushed = header ++ k.data put) := hk.dev_hard_header hreserved
  rw [hpacket] at hmade
  exact ⟨put, rc, pushed, hput, hpush, hmade⟩

/-- **A call whose device is there returns -1**, and never panics. -/
theorem sendmsg_leaves (hk : k.Documented) (o : Order) (t : Traffic) {c : Send ω}
    (hdev : k.finds c = true) :
    ∃ t', flex_unreliable_sendmsg_test k o t c = some (-1, t') ∧ Leaves k [c] t t' := by
  obtain ⟨dev, hdev⟩ := Option.isSome_iff_exists.mp hdev
  unfold flex_unreliable_sendmsg_test
  rw [hdev]
  simp only [Option.bind_eq_bind, Option.bind_some]
  cases halloc : k.alloc_skb c.moment (sizeofFlexhdr + k.LL_RESERVED_SPACE dev) with
  | none =>
    have hnone : k.buffers c = false := by simp [NetKernel.buffers, hdev, halloc]
    exact ⟨_, rfl, rfl, by simp [hnone], fun _ h => Or.inl h⟩
  | some skb =>
    have hsome : k.buffers c = true := by simp [NetKernel.buffers, hdev, halloc]
    obtain ⟨put, rc, pushed, hput, hpush, hmade⟩ := hk.built o halloc
    simp only [hput, hpush, Option.bind_some]
    by_cases hrc : rc < 0
    · rw [if_pos hrc]
      refine ⟨_, rfl, rfl, ?_, fun _ h => Or.inl h⟩
      simp only [List.countP_singleton, hsome, if_true]
      omega
    · rw [if_neg hrc]
      refine ⟨_, rfl, rfl, ?_, fun frame hframe => ?_⟩
      · simp only [List.countP_singleton, hsome, if_true, List.length_append,
          List.length_singleton]
        omega
      · rcases List.mem_append.mp hframe with hold | hnew
        · exact Or.inl hold
        · rw [List.mem_singleton.mp hnew]
          exact Or.inr (hmade (by omega))

/-- Without one, the kernel faults. -/
theorem sendmsg_faults (o : Order) (t : Traffic) {c : Send ω} (hdev : k.finds c = false) :
    flex_unreliable_sendmsg_test k o t c = .none := by
  have hnone : k.dev_get_by_name c.moment "enp1s0" = none := Option.isSome_eq_false_iff.mp hdev |>
    Option.isNone_iff_eq_none.mp
  rw [flex_unreliable_sendmsg_test, hnone]
  rfl

/-! ## What a run of calls does -/

/-- **What the calls leave behind**, as long as each finds its device. -/
theorem sends_leave (hk : k.Documented) (o : Order) (t : Traffic) {calls : List (Send ω)}
    (hdev : ∀ c ∈ calls, k.finds c = true) :
    ∃ t', sends k o t calls = some (List.replicate calls.length (-1), t') ∧
      Leaves k calls t t' := by
  induction calls generalizing t with
  | nil => exact ⟨t, rfl, Leaves.nil t⟩
  | cons c calls ih =>
    obtain ⟨t1, hfirst, hleaves1⟩ := sendmsg_leaves hk o t (hdev c List.mem_cons_self)
    obtain ⟨t2, hrest, hleaves2⟩ := ih t1 fun c hc => hdev c (List.mem_cons_of_mem _ hc)
    refine ⟨t2, ?_, hleaves1.cons hleaves2⟩
    rw [sends, hfirst]
    simp only [Option.bind_eq_bind, Option.bind_some, hrest]
    rfl

/-- The run ends at the first call that does not find its device. -/
theorem sends_faults (hk : k.Documented) (o : Order) (t : Traffic) {calls : List (Send ω)}
    {c : Send ω} (hc : c ∈ calls) (hdev : k.finds c = false) : sends k o t calls = .none := by
  induction calls generalizing t with
  | nil => exact absurd hc List.not_mem_nil
  | cons c' calls ih =>
    rw [sends]
    cases hc' : k.finds c' with
    | false => rw [sendmsg_faults o t hc']; rfl
    | true =>
      rcases List.mem_cons.mp hc with rfl | hmem
      · exact absurd (hdev.symm.trans hc') (by simp)
      · obtain ⟨t1, hfirst, -⟩ := sendmsg_leaves hk o t hc'
        rw [hfirst]
        simp only [Option.bind_eq_bind, Option.bind_some, ih t1 hmem]
        rfl

/-! ## The other end -/

/-- What is stored, and where. -/
theorem mem_storeAll_iff {blk blk' : Blk} {index i : Nat} {bs : List UInt8} {v : UInt8} :
    .store blk' i v ∈ storeAll blk index bs ↔
      blk' = blk ∧ index ≤ i ∧ bs[i - index]? = some v := by
  induction bs generalizing index with
  | nil => simp [storeAll]
  | cons b bs ih =>
    rw [storeAll, List.mem_cons, ih, Action.store.injEq]
    by_cases hi : i = index
    · simp [hi, eq_comm]
    · by_cases hlt : index ≤ i
      · have hsub : i - index = i - (index + 1) + 1 := by omega
        simp [hi, hsub]
        omega
      · simp [hi, hlt]
        omega

/-- **What `flex_rcv` makes of a frame that is as long as a header**: it copies just that. -/
theorem flex_rcv_header {skb : SkBuff} (hlinear : skb.linear.length = sizeofFlexhdr)
    (hlen : skb.len = skb.linear.length) (junk : Nat → UInt8) :
    Safe skb (flex_rcv skb true true junk).2 ∧
      ∀ i v, .store .flex i v ∈ (flex_rcv skb true true junk).2 ↔ skb.linear[i]? = some v := by
  refine ⟨(safe_both_iff skb junk).mpr (hlen.trans hlinear), fun i v => ?_⟩
  have hcopied : Block.fill ((List.range skb.len).map junk) skb.linear = skb.linear := by
    rw [Block.fill, List.drop_of_length_le (by rw [List.length_map, List.length_range, hlen]),
      List.append_nil]
  rw [flex_rcv_both, hcopied]
  simp only [List.mem_append, mem_storeAll_iff]
  simp [printed]

/-- What becomes of the packet at a machine that receives it. -/
theorem wire_received {skb : SkBuff} (hlinear : skb.linear = frameValues.wire)
    (hlen : skb.len = skb.linear.length) (junk : Nat → UInt8) :
    Safe skb (flex_rcv skb true true junk).2 ∧
      (∀ i v, .store .flex i v ∈ (flex_rcv skb true true junk).2 ↔
        frameValues.wire[i]? = some v) ∧
      Wireshark.dissect_flex skb.linear = some frameValues.tree := by
  have hsize : skb.linear.length = sizeofFlexhdr := by
    rw [hlinear, wire_length]
    rfl
  obtain ⟨hsafe, hstores⟩ := flex_rcv_header hsize hlen junk
  rw [hlinear] at hstores ⊢
  have hwhole : frameValues.wire <+: frameValues.wire ++ [] := List.prefix_append _ _
  refine ⟨hsafe, hstores, dissect_wire hwhole ?_⟩
  rw [wire_length]

/-- The texts that are printed end inside the header. -/
theorem texts_end : 0 ∈ frameValues.wire.drop 12 ∧ 0 ∈ frameValues.wire.drop 33 := by decide

/--
**What the send routine does, call after call.**

Whatever devices are found, whatever buffers are to be had and whatever messages are sent, on a host
of either byte order: the kernel faults exactly if a call does not find its device. Otherwise every
call returns -1 and keeps a reference to its device, every buffer is queued or lost, and what is
queued is a device header in front of one and the same packet. A machine that receives it copies
just that packet into its header, safely, the texts it prints end there, and the dissector shows its
values.
-/
theorem sends_sound (hk : k.Documented) (o : Order) (calls : List (Send ω)) :
    (sends k o .none calls = .none ↔ ∃ c ∈ calls, k.finds c = false) ∧
      ∀ rcs t, sends k o .none calls = some (rcs, t) →
        rcs = List.replicate calls.length (-1) ∧ t.refs = calls.length ∧
          t.lost + t.queued.length = calls.countP k.buffers ∧
            ∀ frame ∈ t.queued, ∃ header, frame = header ++ frameValues.wire ∧
              ∀ (skb : SkBuff) (junk : Nat → UInt8), skb.linear = frame.drop header.length →
                skb.len = skb.linear.length →
                Safe skb (flex_rcv skb true true junk).2 ∧
                  (∀ i v, .store .flex i v ∈ (flex_rcv skb true true junk).2 ↔
                    frameValues.wire[i]? = some v) ∧
                  (0 ∈ frameValues.wire.drop 12 ∧ 0 ∈ frameValues.wire.drop 33) ∧
                  Wireshark.dissect_flex skb.linear = some frameValues.tree := by
  by_cases hdev : ∀ c ∈ calls, k.finds c = true
  · obtain ⟨t', hrun, hleaves⟩ := sends_leave hk o .none hdev
    refine ⟨?_, fun rcs t hsome => ?_⟩
    · rw [hrun]
      refine ⟨fun h => absurd h (by simp), fun hnone => ?_⟩
      obtain ⟨c, hc, hc'⟩ := hnone
      exact absurd (hdev c hc) (by simp [hc'])
    · obtain ⟨rfl, rfl⟩ := Prod.mk.inj (Option.some.inj (hrun.symm.trans hsome))
      refine ⟨rfl, hleaves.refs.trans (Nat.zero_add _), ?_, fun frame hframe => ?_⟩
      · simpa [Traffic.none] using hleaves.buffers
      · rcases hleaves.frames frame hframe with hold | ⟨header, rfl⟩
        · exact absurd hold List.not_mem_nil
        · refine ⟨header, rfl, fun skb junk hlinear hlen => ?_⟩
          rw [List.drop_left] at hlinear
          obtain ⟨hsafe, hstores, hshown⟩ := wire_received hlinear hlen junk
          exact ⟨hsafe, hstores, texts_end, hshown⟩
  · have hmissing : ∃ c ∈ calls, k.finds c = false := by
      by_contra hno
      refine hdev fun c hc => ?_
      cases hc' : k.finds c with
      | false => exact absurd ⟨c, hc, hc'⟩ hno
      | true => rfl
    obtain ⟨c, hc, hc'⟩ := hmissing
    have hfault := sends_faults hk o .none hc hc'
    refine ⟨iff_of_true hfault ⟨c, hc, hc'⟩, fun rcs t hsome => ?_⟩
    exact absurd (hfault.symm.trans hsome) (by simp)

/-! ## An Ethernet device -/

/-- A buffer, by what it holds and the rooms around it. -/
structure SkBlock where
  headroom : List UInt8
  data : List UInt8
  tailroom : List UInt8

/-- The address of a device. -/
abbrev HwAddress := {bs : List UInt8 // bs.length = 6}

/-- What a call finds: its device, if it is there, and whether there is a buffer to be had. -/
structure Moment where
  dev : Option HwAddress
  memory : Bool

/-- `skb_push`, and what is then stored there. -/
def SkBlock.push (skb : SkBlock) (bs : List UInt8) : Option SkBlock :=
  if bs.length ≤ skb.headroom.length then
    some ⟨skb.headroom.take (skb.headroom.length - bs.length), bs ++ skb.data, skb.tailroom⟩
  else none

/-- A header of `ETH_P_FLEX` to everyone. -/
def etherHeader (dev : HwAddress) : List UInt8 := List.replicate 6 0xff ++ dev.val ++ [0x77, 0x88]

/-- A kernel with Ethernet devices: their headers have 14 bytes. -/
def ethernet : NetKernel Moment HwAddress SkBlock where
  data := SkBlock.data
  headroom skb := skb.headroom.length
  tailroom skb := skb.tailroom.length
  dev_get_by_name w _ := w.dev
  LL_RESERVED_SPACE _ := 16
  alloc_skb w n := if w.memory then some ⟨[], [], List.replicate n 0⟩ else none
  skb_reserve skb n :=
    { skb with headroom := skb.headroom ++ skb.tailroom.take n, tailroom := skb.tailroom.drop n }
  skb_put skb bs :=
    if bs.length ≤ skb.tailroom.length then
      some { skb with data := skb.data ++ bs, tailroom := skb.tailroom.drop bs.length }
    else none
  dev_hard_header _ skb dev := do
    let skb ← skb.push (etherHeader dev)
    return (14, skb)

theorem ethernet_documented : ethernet.Documented where
  alloc_skb := by
    intro w n skb h
    obtain ⟨_, h⟩ := Option.ite_none_right_eq_some.mp h
    obtain rfl := Option.some.inj h
    exact ⟨rfl, rfl, Nat.le_of_eq List.length_replicate.symm⟩
  skb_reserve := by
    intro skb n hdata hroom
    have hroom' : n ≤ skb.tailroom.length := hroom
    refine ⟨hdata, ?_, List.length_drop⟩
    show (skb.headroom ++ skb.tailroom.take n).length = skb.headroom.length + n
    rw [List.length_append, List.length_take, Nat.min_eq_left hroom']
  skb_put := by
    intro skb bs hroom
    exact ⟨_, if_pos hroom, rfl, rfl⟩
  dev_hard_header := by
    intro w skb dev hroom
    have hlen : (etherHeader dev).length = 14 := by
      rw [etherHeader, List.length_append, List.length_append, dev.property]
      rfl
    have hroom' : 16 ≤ skb.headroom.length := hroom
    obtain ⟨pushed, hpush, hdata⟩ : ∃ pushed, skb.push (etherHeader dev) = some pushed ∧
        pushed.data = etherHeader dev ++ skb.data :=
      ⟨_, if_pos (by rw [hlen]; omega), rfl⟩
    refine ⟨14, pushed, ?_, fun _ => ⟨etherHeader dev, hdata⟩⟩
    simp only [ethernet, hpush, Option.bind_eq_bind, Option.bind_some]
    rfl

/-- A message is sent when there is no memory, and another one when there is. -/
def twoCalls : List (Send Moment) :=
  [⟨⟨some ⟨[2, 0, 0, 0, 0, 1], rfl⟩, false⟩, [104]⟩,
    ⟨⟨some ⟨[2, 0, 0, 0, 0, 1], rfl⟩, true⟩, [105]⟩]

/-- Both calls return -1 and keep their references, and one frame is queued. -/
theorem sends_sound_ethernet :
    ∃ t, sends ethernet .little .none twoCalls = some ([-1, -1], t) ∧ t.refs = 2 ∧
      t.lost + t.queued.length = 1 ∧
      ∀ frame ∈ t.queued, ∃ header, frame = header ++ frameValues.wire := by
  have hruns := (sends_sound ethernet_documented .little twoCalls).1
  cases hrun : sends ethernet .little .none twoCalls with
  | none =>
    obtain ⟨c, hc, hmissing⟩ := hruns.mp hrun
    have hall : ∀ c ∈ twoCalls, ethernet.finds c = true := by decide
    exact absurd (hall c hc) (by simp [hmissing])
  | some ended =>
    obtain ⟨rcs, t⟩ := ended
    obtain ⟨hrcs, hrefs, hbuffers, hframes⟩ :=
      (sends_sound ethernet_documented .little twoCalls).2 rcs t hrun
    refine ⟨t, by rw [hrcs]; rfl, hrefs, hbuffers, fun frame hframe => ?_⟩
    obtain ⟨header, hheader, -⟩ := hframes frame hframe
    exact ⟨header, hheader⟩

end Versatile.Socket
