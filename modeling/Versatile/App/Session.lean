import Versatile.App.Receive

/-!
# A session of the two applications

`client.c` and `server.c` run on two machines, each with a byte order of its own, over a stream
that delivers the bytes in pieces. A `write` may put less into the stream than it was given, or
nothing, and neither program looks at its result; a `read` takes what has arrived so far, and its
length is only looked at by the parser.

The bytes of a packet are the same from either machine (`header_bytes`), so whichever machine
parses them finds the values that were stored. From this the invariant of a session follows: what
the server waits for is the beginning of a join, and what the client waits for the beginning of the
reply, as long as the server did not use a header that was never filled.
-/

namespace Versatile.App

open Bytes

/-! ## Packets on the wire -/

/-- The header of a packet on the wire: the thirteen fields in network order. -/
def Values.wire (v : Values) : List UInt8 :=
  encode .big 1 v.version.toNat ++ (encode .big 1 v.packet_type.toNat ++
    (encode .big 1 v.hash_type.toNat ++ (encode .big 1 v.hop_limit.toNat ++
      (encode .big 2 v.header_len.toNat ++ (encode .big 2 v.check.toNat ++
        (encode .big 2 v.packet_id.toNat ++ (encode .big 2 v.frag_off.toNat ++
          (v.sflex_id.val ++ (v.dflex_id.val ++ (encode .big 2 v.packet_len.toNat ++
            (encode .big 4 v.seq.toNat ++ (encode .big 4 v.ack.toNat ++ []))))))))))))

/-- The fields the dissector shows of such a header. -/
def Values.tree (v : Values) : List (Field × FieldValue) :=
  [(.version, .num v.version.toNat),
    (.packet_type, .num v.packet_type.toNat),
    (.hash_type, .num v.hash_type.toNat),
    (.hop_limit, .num v.hop_limit.toNat),
    (.header_len, .num v.header_len.toNat),
    (.check, .num v.check.toNat),
    (.packet_id, .num v.packet_id.toNat),
    (.frag_off, .num v.frag_off.toNat),
    (.ptc, .num ((v.frag_off.toNat &&& FLEX_PTC) >>> 15)),
    (.df, .num ((v.frag_off.toNat &&& FLEX_DF) >>> 14)),
    (.mf, .num ((v.frag_off.toNat &&& FLEX_MF) >>> 13)),
    (.sflex_id, .chars v.sflex_id.val),
    (.dflex_id, .chars v.dflex_id.val),
    (.packet_len, .num v.packet_len.toNat),
    (.seq, .num v.seq.toNat),
    (.ack, .num v.ack.toNat)]

theorem encode_htons (o : Order) (n : Nat) : encode o 2 (htons o n).toNat = encode .big 2 n := by
  have hlt : value o (encode .big 2 n) < 2 ^ 16 := by simpa using value_lt o (encode .big 2 n)
  rw [htons, UInt16.toNat_ofNat', Nat.mod_eq_of_lt hlt]
  simpa using encode_value o (encode .big 2 n)

theorem encode_htonl (o : Order) (n : Nat) : encode o 4 (htonl o n).toNat = encode .big 4 n := by
  have hlt : value o (encode .big 4 n) < 2 ^ 32 := by simpa using value_lt o (encode .big 4 n)
  rw [htonl, UInt32.toNat_ofNat', Nat.mod_eq_of_lt hlt]
  simpa using encode_value o (encode .big 4 n)

/-- **The memory of a header does not depend on the machine**, once its words are stored through
`htons` and `htonl`. -/
theorem header_bytes (o : Order) (v : Values) : (v.header o).bytes o = v.wire := by
  simp only [FlexHdr.bytes, Values.header, Values.wire, encode_htons, encode_htonl,
    encode_one o .big]

theorem wire_length (v : Values) : v.wire.length = headerSize := by
  rw [← header_bytes .big v]
  exact FlexHdr.bytes_length .big (v.header_full .big)

/-- A piece of a packet that holds its header. -/
theorem prefix_wire {v : Values} {message bs : List UInt8} (h : bs <+: v.wire ++ message)
    (hlen : headerSize ≤ bs.length) : ∃ m, bs = v.wire ++ m := by
  have hwire : v.wire <+: bs := by
    refine List.prefix_of_prefix_length_le (List.prefix_append v.wire message) h ?_
    rw [wire_length]
    exact hlen
  obtain ⟨m, rfl⟩ := hwire
  exact ⟨m, rfl⟩

/-- **What a machine parses** of a piece of a packet that holds its header. -/
theorem parse_wire (o : Order) {v : Values} {message : List UInt8} {r : Reading}
    (h : r.received <+: v.wire ++ message) (hlen : headerSize ≤ r.received.length) :
    parse_flex_header o r.buf r.received.length = (SUCCESS, some (v.header o)) := by
  obtain ⟨m, hm⟩ := prefix_wire h hlen
  rw [← header_bytes o v] at hm
  exact parse_received o (v.header_full o) hm

/-- What the dissector shows of such a piece. -/
theorem dissect_wire {v : Values} {message bs : List UInt8} (h : bs <+: v.wire ++ message)
    (hlen : headerSize ≤ bs.length) : Wireshark.dissect_flex bs = some v.tree := by
  obtain ⟨m, rfl⟩ := prefix_wire h hlen
  have hs : v.sflex_id.val.length = 21 := v.sflex_id.property
  have hd : v.dflex_id.val.length = 21 := v.dflex_id.property
  have h8 : ∀ x : UInt8, x.toNat % 256 ^ 1 = x.toNat := fun x => Nat.mod_eq_of_lt x.toNat_lt
  have h16 : ∀ x : UInt16, x.toNat % 256 ^ 2 = x.toNat := fun x => Nat.mod_eq_of_lt x.toNat_lt
  have h32 : ∀ x : UInt32, x.toNat % 256 ^ 4 = x.toNat := fun x => Nat.mod_eq_of_lt x.toNat_lt
  rw [Wireshark.dissect_eq hlen, Values.tree]
  simp only [Values.wire, List.append_assoc, readNat_self, readNat_append_right, slice_self,
    slice_append_right, encode_length, hs, hd, FLEX_ID_LENGTH, FLEX_PTC, FLEX_DF, FLEX_MF, h8, h16,
    h32, Nat.reduceLeDiff, Nat.reduceSub, Nat.le_refl, Nat.sub_self]

/--
**A packet is the same packet on every machine.**

Whatever values a program stores, with lengths that are those of the packet, and whatever it sends
behind them: the bytes sent do not depend on the byte order of the machine; any machine that
receives the header, in a piece of the packet, parses it to a header that holds these values, if
a zero byte ends the text behind the header, and does not come back from the parser otherwise; and
the dissector shows the values.
-/
theorem packet_neutral {v : Values} {message : List UInt8}
    (hheader : v.header_len.toNat = DEFAULT_HEADER_LEN)
    (hpacket : v.packet_len.toNat = DEFAULT_HEADER_LEN + message.length) :
    (∀ (o : Order) (buf : Block), v.packet_len.toNat ≤ buf.length →
      sendPacket o buf (v.header o) message = some (v.wire ++ message)) ∧
    (∀ (o : Order) (r : Reading), r.received <+: v.wire ++ message →
      headerSize ≤ r.received.length →
      ((∃ flex, Parses o r.buf r.received.length flex) ↔ 0 ∈ r.buf.drop headerSize) ∧
        ∀ flex, Parses o r.buf r.received.length flex → flex.Holds o v) ∧
    ∀ bs, bs <+: v.wire ++ message → headerSize ≤ bs.length →
      Wireshark.dissect_flex bs = some v.tree := by
  refine ⟨?_, ?_, ?_⟩
  · intro o buf hroom
    rw [sendPacket_eq o hheader hpacket hroom, header_bytes]
  · intro o r hpiece hlen
    have hparse := parse_wire o hpiece hlen
    refine ⟨?_, fun flex hparses => ?_⟩
    · rw [← message_in_parse_isSome]
      refine ⟨fun h => ?_, fun hend => ⟨_, hparse, hend⟩⟩
      obtain ⟨_, hparses⟩ := h
      exact hparses.printed
    · have heq : some flex = some (v.header o) :=
        congrArg Prod.snd (hparses.success.symm.trans hparse)
      rw [Option.some.inj heq]
      exact v.header_holds o
  · intro bs hpiece hlen
    exact dissect_wire hpiece hlen

/-- A `read` of as much as has arrived, into a buffer of zeros. -/
def readAll (stream : List UInt8) : Reading where
  received := stream.take 256
  rest := List.replicate (256 - stream.length) 0
  size := by
    rw [List.length_append, List.length_take, List.length_replicate]
    omega

/-- The join is the same on hosts of either order, parsed by a host that reads it into zeros, and
shown by the dissector. -/
theorem packet_neutral_join :
    sendPacket .little (List.replicate 256 0) (joinValues.header .little) joinMessage =
        sendPacket .big (List.replicate 256 0) (joinValues.header .big) joinMessage ∧
      (∃ flex, Parses .big (readAll (joinValues.wire ++ joinMessage)).buf
          (readAll (joinValues.wire ++ joinMessage)).received.length flex ∧
        flex.Holds .big joinValues) ∧
      Wireshark.dissect_flex (joinValues.wire ++ joinMessage) = some joinValues.tree := by
  obtain ⟨hsend, hparse, hshow⟩ := @packet_neutral joinValues joinMessage rfl rfl
  have hroom : joinValues.packet_len.toNat ≤ (List.replicate 256 (0 : UInt8)).length := by
    rw [List.length_replicate]
    decide
  have hlen : headerSize ≤ (joinValues.wire ++ joinMessage).length := by
    rw [List.length_append, wire_length]
    omega
  have hlen' : headerSize ≤ (readAll (joinValues.wire ++ joinMessage)).received.length := by
    rw [readAll, List.length_take]
    exact Nat.le_min.mpr ⟨by decide, hlen⟩
  obtain ⟨hends, hholds⟩ := hparse .big (readAll _) (List.take_prefix _ _) hlen'
  obtain ⟨flex, hflex⟩ := hends.mpr (by decide +kernel)
  exact ⟨(hsend .little _ hroom).trans (hsend .big _ hroom).symm, ⟨flex, hflex, hholds flex hflex⟩,
    hshow _ List.prefix_rfl hlen⟩

/-! ## The two programs -/

/-- Where one of the programs stands, from when the connection is there. -/
inductive Stage where
  /-- It has a packet to send. -/
  | writing
  /-- It waits in `read`. -/
  | reading
  /-- It has shown this header of what it read, and is through with the connection. -/
  | done (r : Reading) (flex : FlexHdr)
  /-- `error_handling`, as the `read` failed, or killed in a `write`. -/
  | failed
  /-- It used a header that was never assigned, or read a text past the end of the buffer. -/
  | undefined (r : Reading)

/-- The program does not come back to the connection. -/
def Stage.Over : Stage → Prop
  | .writing | .reading => False
  | .done _ _ | .failed | .undefined _ => True

/-- What becomes of a program that read something. The text behind the header is printed first, to
its null byte; then the header is parsed, and the name of its type is looked up. -/
def afterRead (o : Order) (r : Reading) : Stage :=
  if 0 ∈ r.buf.drop DEFAULT_HEADER_LEN then
    match (parse_flex_header o r.buf r.received.length).2 with
    | none => .undefined r
    | some flex =>
      if (packet_type_text flex.packet_type).isSome then .done r flex else .undefined r
  else .undefined r

/-- The two programs, and the bytes that were written and not read yet. -/
structure Session where
  client : Stage
  server : Stage
  toServer : List UInt8
  toClient : List UInt8

/-- The connection was accepted. -/
def Session.start : Session := ⟨.writing, .reading, [], []⟩

/-- A `read` takes the first of the bytes that wait, leaving `rest`. It returns with nothing only
at the end of the stream: the peer is over and nothing waits. -/
def Delivers (stream : List UInt8) (peer : Stage) (r : Reading) (rest : List UInt8) : Prop :=
  stream = r.received ++ rest ∧ (r.received = [] → stream = [] ∧ peer.Over)

/-- One step of a session, on a client and a server of some byte order. -/
inductive Step (oc os : Order) (s : Session) : Session → Prop where
  /-- Of the packet, `k` bytes are put into the stream. -/
  | client_write {buf : Block} {packet : List UInt8} (k : Nat) : s.client = .writing →
      buf.length = 256 → sendPacket oc buf (joinValues.header oc) joinMessage = some packet →
      Step oc os s { s with client := .reading, toServer := s.toServer ++ packet.take k }
  | server_reply {r : Reading} {flex : FlexHdr} {sent rest : List UInt8} (k : Nat) :
      s.server = .reading → Delivers s.toServer s.client r rest → afterRead os r = .done r flex →
      .reply (some flex) (some sent) ∈ server_main os r →
      Step oc os s { s with
        server := .done r flex, toServer := rest, toClient := s.toClient ++ sent.take k }
  /-- There is no telling what a server sends that went on with such a header. -/
  | server_undefined {r : Reading} {rest : List UInt8} (stray : List UInt8) :
      s.server = .reading → Delivers s.toServer s.client r rest → afterRead os r = .undefined r →
      Step oc os s { s with
        server := .undefined r, toServer := rest, toClient := s.toClient ++ stray }
  /-- The client has set its buffer to zero. -/
  | client_read {r : Reading} {rest : List UInt8} : s.client = .reading →
      Delivers s.toClient s.server r rest → (∀ b ∈ r.rest, b = 0) →
      Step oc os s { s with client := afterRead oc r, toClient := rest }

/-- The connection broke: a `read` failed, or a `write` to it killed the program. -/
inductive Breaks (s : Session) : Session → Prop where
  | server : s.server = .reading → Breaks s { s with server := .failed }
  | client : ¬ s.client.Over → Breaks s { s with client := .failed }

/-- The sessions after some number of steps. -/
inductive After (oc os : Order) : Nat → Session → Prop where
  | start : After oc os 0 .start
  | step {n : Nat} {s s' : Session} : After oc os n s → Step oc os s s' → After oc os (n + 1) s'
  | broke {n : Nat} {s s' : Session} : After oc os n s → Breaks s s' → After oc os (n + 1) s'

/-! ## What a program makes of what it read -/

/-- The header arrived in full, and the text behind it ends inside the buffer. -/
def Whole (r : Reading) : Prop := headerSize ≤ r.received.length ∧ 0 ∈ r.buf.drop DEFAULT_HEADER_LEN

theorem afterRead_cases (o : Order) (r : Reading) :
    afterRead o r = .undefined r ∨
      ∃ flex, afterRead o r = .done r flex ∧
        (parse_flex_header o r.buf r.received.length).2 = some flex := by
  unfold afterRead
  split
  · cases hparse : (parse_flex_header o r.buf r.received.length).2 with
    | none => exact Or.inl rfl
    | some flex =>
      dsimp only
      split
      · exact Or.inr ⟨flex, rfl, rfl⟩
      · exact Or.inl rfl
  · exact Or.inl rfl

theorem afterRead_over (o : Order) (r : Reading) : (afterRead o r).Over := by
  rcases afterRead_cases o r with h | ⟨flex, h, -⟩ <;> rw [h] <;> trivial

/-- Too little of a header is not parsed. -/
theorem parse_short (o : Order) {r : Reading} (h : ¬ headerSize ≤ r.received.length) :
    (parse_flex_header o r.buf r.received.length).2 = none := by
  have hle := r.length_le
  rw [parse_flex_header, if_pos (by omega)]

theorem afterRead_short (o : Order) {r : Reading} (h : ¬ headerSize ≤ r.received.length) :
    afterRead o r = .undefined r := by
  rw [afterRead, parse_short o h]
  split <;> rfl

/-- **A piece of a packet is shown** as the header that was sent, if the piece is whole. -/
theorem afterRead_whole (o : Order) {v : Values} {message : List UInt8} {r : Reading}
    (hname : (packet_type_text v.packet_type).isSome) (hpiece : r.received <+: v.wire ++ message)
    (h : Whole r) : afterRead o r = .done r (v.header o) := by
  rw [afterRead, if_pos h.2, parse_wire o hpiece h.1]
  exact if_pos hname

theorem afterRead_not_whole (o : Order) {r : Reading} (h : ¬ Whole r) :
    afterRead o r = .undefined r := by
  by_cases hlen : headerSize ≤ r.received.length
  · rw [afterRead, if_neg fun hend => h ⟨hlen, hend⟩]
  · exact afterRead_short o hlen

/-- Behind a header that is read into zeros, the text ends, if the buffer was not filled. -/
theorem whole_of_zeros {r : Reading} (hzero : ∀ b ∈ r.rest, b = 0)
    (hlen : headerSize ≤ r.received.length) (hroom : r.received.length < 256) : Whole r := by
  have hsize := r.size
  rw [List.length_append] at hsize
  obtain ⟨b, rest, hrest⟩ : ∃ b rest, r.rest = b :: rest := by
    cases hr : r.rest with
    | nil =>
      rw [hr, List.length_nil] at hsize
      omega
    | cons b rest => exact ⟨b, rest, rfl⟩
  have hb : b = 0 := hzero b (by rw [hrest]; exact List.mem_cons_self)
  refine ⟨hlen, ?_⟩
  have hdrop : r.buf.drop DEFAULT_HEADER_LEN =
      r.received.drop DEFAULT_HEADER_LEN ++ r.rest :=
    List.drop_append_of_le_length hlen
  rw [hdrop, hrest, hb]
  exact List.mem_append_right _ List.mem_cons_self

/-! ## The invariant of a session -/

/-- The join of the client on the wire. -/
def joinPacket : List UInt8 := joinValues.wire ++ joinMessage

/-- The values of the reply to the join. -/
def ackValues : Values := replyValues .big (joinValues.header .big)

/-- The reply on the wire. -/
def ackPacket : List UInt8 := ackValues.wire ++ replyMessage

/-- The server of either byte order gives its reply these values. -/
theorem replyValues_join (o : Order) : replyValues o (joinValues.header o) = ackValues := by
  have hlen : ∀ o : Order, ntohs o (joinValues.header o).packet_len = joinValues.packet_len.toNat :=
    fun o => (joinValues.header_holds o).packet_len
  rw [ackValues, replyValues, replyValues, hlen o, hlen .big]

theorem sendPacket_join (o : Order) {buf : Block} (hbuf : buf.length = 256) :
    sendPacket o buf (joinValues.header o) joinMessage = some joinPacket := by
  have hroom : joinValues.packet_len.toNat ≤ buf.length := by
    rw [hbuf]
    decide
  rw [sendPacket_eq o rfl rfl hroom, header_bytes]
  rfl

/-- The reply to a header that was shown. -/
theorem sent_reply {o : Order} {r : Reading} {flex flex' : FlexHdr} {sent : List UInt8}
    (hparse : (parse_flex_header o r.buf r.received.length).2 = some flex)
    (h : .reply (some flex') (some sent) ∈ server_main o r) :
    flex' = flex ∧ sent = (replyValues o flex).wire ++ replyMessage := by
  have hreply := server_replies o hparse
  simp only [server_main, hparse, List.mem_cons, reduceCtorEq, Call.reply.injEq,
    List.not_mem_nil, or_false, false_or, true_and] at h hreply
  obtain ⟨hflex, hsent⟩ := h
  refine ⟨Option.some.inj hflex, ?_⟩
  rw [← header_bytes o]
  exact Option.some.inj (hsent.trans hreply.symm)

/-- The invariant of a session. -/
structure Sound (oc os : Order) (s : Session) : Prop where
  listens : s.server ≠ .writing
  /-- What the server waits for is the beginning of a join. -/
  unread : s.server = .reading → s.toServer <+: joinPacket
  /-- Nothing was sent before the client writes. -/
  unwritten : s.client = .writing → s.toServer = []
  /-- A server that did not reply sent nothing. -/
  silent : s.server = .reading ∨ s.server = .failed → s.toClient = []
  /-- What the client of a server that replied waits for is the beginning of the reply. -/
  unanswered : ∀ r flex, s.server = .done r flex → s.client.Over ∨ s.toClient <+: ackPacket
  /-- The server shows the join. -/
  server_done : ∀ r flex, s.server = .done r flex → Whole r ∧ flex = joinValues.header os
  server_undefined : ∀ r, s.server = .undefined r → ¬ Whole r
  /-- The client shows the reply to it. -/
  client_done : ∀ r resp, s.client = .done r resp →
    (∃ r', s.server = .undefined r') ∨
      Whole r ∧ resp = ackValues.header oc ∧ ∃ r' flex, s.server = .done r' flex
  client_undefined : ∀ r, s.client = .undefined r →
    (∃ r', s.server = .undefined r') ∨ ¬ headerSize ≤ r.received.length

theorem sound_start (oc os : Order) : Sound oc os .start where
  listens := by
    intro h
    cases h
  unread _ := List.nil_prefix
  unwritten _ := rfl
  silent _ := rfl
  unanswered _ _ h := by cases h
  server_done _ _ h := by cases h
  server_undefined _ h := by cases h
  client_done _ _ h := by cases h
  client_undefined _ h := by cases h

/-- **What the server makes of a join**: what it read was the beginning of one. -/
theorem server_read {oc os : Order} {s : Session} {r : Reading} {rest : List UInt8}
    (h : Sound oc os s) (hs : s.server = .reading) (hr : Delivers s.toServer s.client r rest) :
    afterRead os r = .done r (joinValues.header os) ∧ Whole r ∨
      afterRead os r = .undefined r ∧ ¬ Whole r := by
  have hpiece : r.received <+: joinPacket := by
    refine List.IsPrefix.trans ?_ (h.unread hs)
    rw [hr.1]
    exact List.prefix_append r.received rest
  by_cases hwhole : Whole r
  · exact Or.inl ⟨afterRead_whole os (by decide) hpiece hwhole, hwhole⟩
  · exact Or.inr ⟨afterRead_not_whole os hwhole, hwhole⟩

/-- **What the client makes of a reply.** -/
theorem client_read {oc os : Order} {s : Session} {r : Reading} {rest : List UInt8}
    (h : Sound oc os s) (hc : s.client = .reading) (hr : Delivers s.toClient s.server r rest)
    (hzero : ∀ b ∈ r.rest, b = 0) :
    (∃ r', s.server = .undefined r') ∨
      afterRead oc r = .undefined r ∧ ¬ headerSize ≤ r.received.length ∨
        afterRead oc r = .done r (ackValues.header oc) ∧ Whole r ∧
          ∃ r' flex, s.server = .done r' flex := by
  by_cases hlen : headerSize ≤ r.received.length
  · have hsent : s.toClient ≠ [] := by
      intro hnil
      rw [hr.1, List.append_eq_nil_iff] at hnil
      rw [hnil.1] at hlen
      exact absurd hlen (by decide)
    cases hs : s.server with
    | writing => exact absurd hs h.listens
    | reading => exact absurd (h.silent (Or.inl hs)) hsent
    | failed => exact absurd (h.silent (Or.inr hs)) hsent
    | undefined r' => exact Or.inl ⟨r', rfl⟩
    | done r' flex =>
      have hpiece : r.received <+: ackPacket := by
        rcases h.unanswered r' flex hs with hover | hack
        · rw [hc] at hover
          exact absurd hover id
        · refine List.IsPrefix.trans ?_ hack
          rw [hr.1]
          exact List.prefix_append r.received rest
      have hroom : r.received.length < 256 := by
        have hle := hpiece.length_le
        have hack : ackPacket.length < 256 := by decide
        omega
      have hwhole := whole_of_zeros hzero hlen hroom
      have hdone := afterRead_whole oc (by decide) hpiece hwhole
      exact Or.inr (Or.inr ⟨hdone, hwhole, r', flex, rfl⟩)
  · exact Or.inr (Or.inl ⟨afterRead_short oc hlen, hlen⟩)

/-- Nothing is left of a stream that held nothing. -/
theorem Delivers.rest_nil {stream : List UInt8} {peer : Stage} {r : Reading} {rest : List UInt8}
    (h : Delivers stream peer r rest) (hnil : stream = []) : rest = [] := by
  rw [h.1, List.append_eq_nil_iff] at hnil
  exact hnil.2

/-- As long as the server waits, the client has shown nothing. -/
theorem Sound.not_shown {oc os : Order} {s : Session} (h : Sound oc os s)
    (hs : s.server = .reading) {r : Reading} {resp : FlexHdr} : s.client ≠ .done r resp := by
  intro hc
  rcases h.client_done r resp hc with ⟨r', hu⟩ | ⟨-, -, r', flex, hd⟩
  · rw [hs] at hu
    cases hu
  · rw [hs] at hd
    cases hd

theorem Sound.short {oc os : Order} {s : Session} (h : Sound oc os s) (hs : s.server = .reading)
    {r : Reading} (hc : s.client = .undefined r) : ¬ headerSize ≤ r.received.length := by
  rcases h.client_undefined r hc with ⟨r', hu⟩ | hlen
  · rw [hs] at hu
    cases hu
  · exact hlen

theorem sound_write {oc os : Order} {s : Session} (h : Sound oc os s) (k : Nat)
    (hc : s.client = .writing) :
    Sound oc os { s with client := .reading, toServer := s.toServer ++ joinPacket.take k } where
  listens := h.listens
  unread _ := by
    rw [h.unwritten hc]
    exact List.take_prefix k joinPacket
  unwritten hw := by cases hw
  silent := h.silent
  unanswered r flex hdone := by
    rcases h.unanswered r flex hdone with hover | hack
    · rw [hc] at hover
      exact absurd hover id
    · exact Or.inr hack
  server_done := h.server_done
  server_undefined := h.server_undefined
  client_done _ _ hd := by cases hd
  client_undefined _ hu := by cases hu

theorem sound_reply {oc os : Order} {s : Session} {r : Reading} {rest : List UInt8}
    (h : Sound oc os s) (k : Nat) (hs : s.server = .reading)
    (hr : Delivers s.toServer s.client r rest) (hwhole : Whole r) :
    Sound oc os { s with
      server := .done r (joinValues.header os), toServer := rest,
      toClient := s.toClient ++ ackPacket.take k } where
  listens hw := by cases hw
  unread hw := by cases hw
  unwritten hc := hr.rest_nil (h.unwritten hc)
  silent hw := by rcases hw with hw | hw <;> cases hw
  unanswered _ _ _ := by
    rw [h.silent (Or.inl hs)]
    exact Or.inr (List.take_prefix k ackPacket)
  server_done _ _ hd := by
    obtain ⟨rfl, rfl⟩ := Stage.done.inj hd
    exact ⟨hwhole, rfl⟩
  server_undefined _ hu := by cases hu
  client_done _ _ hc := absurd hc (h.not_shown hs)
  client_undefined _ hc := Or.inr (h.short hs hc)

theorem sound_undefined {oc os : Order} {s : Session} {r : Reading} {rest : List UInt8}
    (h : Sound oc os s) (stray : List UInt8) (hr : Delivers s.toServer s.client r rest)
    (hwhole : ¬ Whole r) :
    Sound oc os { s with
      server := .undefined r, toServer := rest, toClient := s.toClient ++ stray } where
  listens hw := by cases hw
  unread hw := by cases hw
  unwritten hc := hr.rest_nil (h.unwritten hc)
  silent hw := by rcases hw with hw | hw <;> cases hw
  unanswered _ _ hd := by cases hd
  server_done _ _ hd := by cases hd
  server_undefined _ hu := Stage.undefined.inj hu ▸ hwhole
  client_done _ _ _ := Or.inl ⟨r, rfl⟩
  client_undefined _ _ := Or.inl ⟨r, rfl⟩

theorem sound_read {oc os : Order} {s : Session} {r : Reading} {rest : List UInt8}
    (h : Sound oc os s) (hc : s.client = .reading) (hr : Delivers s.toClient s.server r rest)
    (hzero : ∀ b ∈ r.rest, b = 0) :
    Sound oc os { s with client := afterRead oc r, toClient := rest } where
  listens := h.listens
  unread := h.unread
  unwritten hw := by
    change afterRead oc r = .writing at hw
    have hover := afterRead_over oc r
    rw [hw] at hover
    exact absurd hover id
  silent hw := hr.rest_nil (h.silent hw)
  unanswered _ _ _ := Or.inl (afterRead_over oc r)
  server_done := h.server_done
  server_undefined := h.server_undefined
  client_done r' resp hd := by
    change afterRead oc r = .done r' resp at hd
    rcases client_read h hc hr hzero with hu | ⟨hafter, -⟩ | ⟨hafter, hwhole, hserver⟩
    · exact Or.inl hu
    · rw [hafter] at hd
      cases hd
    · rw [hafter] at hd
      obtain ⟨rfl, rfl⟩ := Stage.done.inj hd
      exact Or.inr ⟨hwhole, rfl, hserver⟩
  client_undefined r' hu := by
    change afterRead oc r = .undefined r' at hu
    rcases client_read h hc hr hzero with hserver | ⟨hafter, hlen⟩ | ⟨hafter, -⟩
    · exact Or.inl hserver
    · rw [hafter] at hu
      exact Or.inr (Stage.undefined.inj hu ▸ hlen)
    · rw [hafter] at hu
      cases hu

/-- **Every step keeps the invariant.** -/
theorem sound_step {oc os : Order} {s s' : Session} (h : Sound oc os s) (hs : Step oc os s s') :
    Sound oc os s' := by
  cases hs with
  | client_write k hc hbuf hpacket =>
    rw [sendPacket_join oc hbuf] at hpacket
    rw [← Option.some.inj hpacket]
    exact sound_write h k hc
  | @server_reply r flex sent rest k hserver hr hdone hreply =>
    rcases afterRead_cases os r with hlost | ⟨flex', hdone', hparse⟩
    · exact absurd (hlost.symm.trans hdone) (by simp)
    · obtain ⟨rfl, rfl⟩ := sent_reply hparse hreply
      rcases server_read h hserver hr with ⟨hjoin, hwhole⟩ | ⟨hlost, -⟩
      · obtain ⟨-, rfl⟩ := Stage.done.inj (hjoin.symm.trans hdone)
        rw [replyValues_join os]
        exact sound_reply h k hserver hr hwhole
      · exact absurd (hlost.symm.trans hdone) (by simp)
  | server_undefined stray hserver hr hlost =>
    rcases server_read h hserver hr with ⟨hjoin, -⟩ | ⟨-, hwhole⟩
    · exact absurd (hjoin.symm.trans hlost) (by simp)
    · exact sound_undefined h stray hr hwhole
  | client_read hc hr hzero => exact sound_read h hc hr hzero

/-- So does a connection that breaks. -/
theorem sound_broke {oc os : Order} {s s' : Session} (h : Sound oc os s) (hs : Breaks s s') :
    Sound oc os s' := by
  cases hs with
  | server hserver =>
    exact {
      listens := fun hw => by cases hw
      unread := fun hw => by cases hw
      unwritten := h.unwritten
      silent := fun _ => h.silent (Or.inl hserver)
      unanswered := fun _ _ hd => by cases hd
      server_done := fun _ _ hd => by cases hd
      server_undefined := fun _ hu => by cases hu
      client_done := fun _ _ hc => absurd hc (h.not_shown hserver)
      client_undefined := fun _ hc => Or.inr (h.short hserver hc) }
  | client hclient =>
    exact {
      listens := h.listens
      unread := h.unread
      unwritten := fun hw => by cases hw
      silent := h.silent
      unanswered := fun _ _ _ => Or.inl trivial
      server_done := h.server_done
      server_undefined := h.server_undefined
      client_done := fun _ _ hd => by cases hd
      client_undefined := fun _ hu => by cases hu }

theorem sound_after {oc os : Order} {n : Nat} {s : Session} (h : After oc os n s) :
    Sound oc os s := by
  induction h with
  | start => exact sound_start oc os
  | step _ hs ih => exact sound_step ih hs
  | broke _ hs ih => exact sound_broke ih hs

/-! ## How a session goes on -/

/-- How often a program still comes back to the connection. -/
def Stage.left : Stage → Nat
  | .writing => 2
  | .reading => 1
  | .done _ _ | .failed | .undefined _ => 0

theorem Stage.cases_over (stage : Stage) :
    stage = .writing ∨ stage = .reading ∨ stage.Over := by
  cases stage with
  | writing => exact Or.inl rfl
  | reading => exact Or.inr (Or.inl rfl)
  | done r flex => exact Or.inr (Or.inr trivial)
  | failed => exact Or.inr (Or.inr trivial)
  | undefined r => exact Or.inr (Or.inr trivial)

theorem Stage.Over.left {stage : Stage} (h : stage.Over) : stage.left = 0 := by
  cases stage with
  | writing => exact absurd h id
  | reading => exact absurd h id
  | done r flex => rfl
  | failed => rfl
  | undefined r => rfl

theorem Stage.left_pos {stage : Stage} (h : ¬ stage.Over) : 0 < stage.left := by
  rcases stage.cases_over with rfl | rfl | hover
  · decide
  · decide
  · exact absurd hover h

/-- No session has more than three steps. -/
theorem after_left {oc os : Order} {n : Nat} {s : Session} (h : After oc os n s) :
    n + s.client.left + s.server.left ≤ 3 := by
  induction h with
  | start => decide
  | step _ hs ih =>
    cases hs with
    | client_write k hc hbuf hpacket =>
      simp only [hc, Stage.left] at ih ⊢
      omega
    | server_reply k hserver hr hdone hreply =>
      simp only [hserver, Stage.left] at ih ⊢
      omega
    | server_undefined stray hserver hr hlost =>
      simp only [hserver, Stage.left] at ih ⊢
      omega
    | @client_read r rest hc hr hzero =>
      have hover := (afterRead_over oc r).left
      simp only [hc] at ih ⊢
      rw [hover]
      simp only [Stage.left] at ih ⊢
      omega
  | broke _ hs ih =>
    cases hs with
    | server hserver =>
      simp only [hserver, Stage.left] at ih ⊢
      omega
    | client hclient =>
      have hleft := Stage.left_pos hclient
      simp only [Stage.left] at hleft ih ⊢
      omega

theorem readAll_delivers {stream : List UInt8} {peer : Stage} (h : stream ≠ [] ∨ peer.Over) :
    Delivers stream peer (readAll stream) (stream.drop 256) := by
  refine ⟨(List.take_append_drop 256 stream).symm, fun hnil => ?_⟩
  have hstream : stream = [] := by simpa [readAll] using hnil
  exact ⟨hstream, h.resolve_left (fun hne => hne hstream)⟩

/-- A client that has something to send goes on. -/
theorem client_writes (oc os : Order) {s : Session} (hc : s.client = .writing) :
    ∃ s', Step oc os s s' := by
  have hbuf : (List.replicate 256 (0 : UInt8)).length = 256 := List.length_replicate
  exact ⟨_, .client_write 0 hc hbuf (sendPacket_join oc hbuf)⟩

/-- A server that can read goes on. -/
theorem server_reads (oc os : Order) {s : Session} (hs : s.server = .reading)
    (h : s.toServer ≠ [] ∨ s.client.Over) : ∃ s', Step oc os s s' := by
  have hr := readAll_delivers h
  rcases afterRead_cases os (readAll s.toServer) with hlost | ⟨flex, hdone, hparse⟩
  · exact ⟨_, .server_undefined [] hs hr hlost⟩
  · exact ⟨_, .server_reply 0 hs hr hdone (server_replies os hparse)⟩

theorem client_reads (oc os : Order) {s : Session} (hc : s.client = .reading)
    (h : s.toClient ≠ [] ∨ s.server.Over) : ∃ s', Step oc os s s' :=
  ⟨_, .client_read hc (readAll_delivers h) fun _ hb => List.eq_of_mem_replicate hb⟩

/-- **Where a session stops**: at the end of both programs, or where each waits for the other
since nothing was written. -/
theorem stops {oc os : Order} {s : Session} (h : Sound oc os s) (hstop : ∀ s', ¬ Step oc os s s') :
    s.client.Over ∧ s.server.Over ∨
      s.client = .reading ∧ s.server = .reading ∧ s.toServer = [] := by
  have hclient : s.client ≠ .writing := by
    intro hc
    obtain ⟨s', hs'⟩ := client_writes oc os hc
    exact hstop s' hs'
  rcases s.server.cases_over with hs | hs | hs
  · exact absurd hs h.listens
  · have hwait : ¬ (s.toServer ≠ [] ∨ s.client.Over) := by
      intro hread
      obtain ⟨s', hs'⟩ := server_reads oc os hs hread
      exact hstop s' hs'
    rw [not_or, not_not] at hwait
    rcases s.client.cases_over with hc | hc | hc
    · exact absurd hc hclient
    · exact Or.inr ⟨hc, hs, hwait.1⟩
    · exact absurd hc hwait.2
  · rcases s.client.cases_over with hc | hc | hc
    · exact absurd hc hclient
    · obtain ⟨s', hs'⟩ := client_reads oc os hc (Or.inr hs)
      exact absurd hs' (hstop s')
    · exact Or.inl ⟨hc, hs⟩

/-- The reply acknowledges the join, and its length. -/
theorem ack_toNat :
    ackValues.ack.toNat = joinValues.seq.toNat + joinValues.packet_len.toNat := by
  have hack : ackValues.ack = UInt32.ofNat (0x12345678 + joinValues.packet_len.toNat) := by
    rw [← (joinValues.header_holds .big).packet_len]
    rfl
  have hseq : joinValues.seq.toNat = 0x12345678 := rfl
  have hlt : joinValues.packet_len.toNat < 2 ^ 16 := joinValues.packet_len.toNat_lt
  rw [hack, hseq, UInt32.toNat_ofNat', Nat.mod_eq_of_lt (by omega)]

/--
**What a session shows.**

Whatever the byte orders of the two machines, whatever their buffers held, and however the stream
splits the bytes or breaks: the server shows a header only if it read one in full, with a text that
ends inside its buffer, and then the header holds the values of the join; otherwise it is undefined
what the server does. As long as it is not, the client shows a header only of a server that replied,
holding the values of the reply, which acknowledges the number of the join and its length; a client
that is undefined received less than a header. After at most three steps both programs are at their
end, unless each waits for the other since nothing was written.
-/
theorem session_sound (oc os : Order) {n : Nat} {s : Session} (h : After oc os n s) :
    n ≤ 3 ∧
      (∀ r flex, s.server = .done r flex → Whole r ∧ flex.Holds os joinValues) ∧
        (∀ r, s.server = .undefined r → ¬ Whole r) ∧
          ((∀ r, s.server ≠ .undefined r) →
            (∀ r resp, s.client = .done r resp →
              Whole r ∧ (∃ r' flex, s.server = .done r' flex) ∧ resp.Holds oc ackValues ∧
                ntohl oc resp.ack = joinValues.seq.toNat + joinValues.packet_len.toNat) ∧
            (∀ r, s.client = .undefined r → r.received.length < headerSize) ∧
            ((∀ s', ¬ Step oc os s s') →
              s.client.Over ∧ s.server.Over ∨
                s.client = .reading ∧ s.server = .reading ∧ s.toServer = [])) := by
  have hsound := sound_after h
  have hleft := after_left h
  refine ⟨by omega, ?_, hsound.server_undefined, fun hdefined => ⟨?_, ?_, stops hsound⟩⟩
  · intro r flex hdone
    obtain ⟨hwhole, rfl⟩ := hsound.server_done r flex hdone
    exact ⟨hwhole, joinValues.header_holds os⟩
  · intro r resp hdone
    rcases hsound.client_done r resp hdone with ⟨r', hu⟩ | ⟨hwhole, rfl, hserver⟩
    · exact absurd hu (hdefined r')
    · have hholds := ackValues.header_holds oc
      exact ⟨hwhole, hserver, hholds, hholds.ack.trans ack_toNat⟩
  · intro r hundefined
    rcases hsound.client_undefined r hundefined with ⟨r', hu⟩ | hlen
    · exact absurd hu (hdefined r')
    · omega

/-- Of a packet that fits the buffer, all is read at once. -/
theorem readAll_packet {stream : List UInt8} (h : stream.length < 256) :
    (readAll stream).received = stream ∧ stream.drop 256 = [] :=
  ⟨List.take_of_length_le (by omega), List.drop_of_length_le (by omega)⟩

theorem readAll_done (o : Order) {v : Values} {message : List UInt8}
    (hname : (packet_type_text v.packet_type).isSome)
    (hlen : (v.wire ++ message).length < 256) :
    afterRead o (readAll (v.wire ++ message)) =
      .done (readAll (v.wire ++ message)) (v.header o) := by
  obtain ⟨hreceived, -⟩ := readAll_packet hlen
  have hzero : ∀ b ∈ (readAll (v.wire ++ message)).rest, b = 0 :=
    fun _ hb => List.eq_of_mem_replicate hb
  have hwhole : Whole (readAll (v.wire ++ message)) := by
    refine whole_of_zeros hzero ?_ ?_
    · rw [hreceived, List.length_append, wire_length]
      omega
    · rwa [hreceived]
  have hpiece : (readAll (v.wire ++ message)).received <+: v.wire ++ message :=
    List.take_prefix 256 _
  exact afterRead_whole o hname hpiece hwhole

/-- The server that shows the join replies to it. -/
theorem server_acks {o : Order} {r : Reading}
    (hdone : afterRead o r = .done r (joinValues.header o)) :
    .reply (some (joinValues.header o)) (some ackPacket) ∈ server_main o r := by
  rcases afterRead_cases o r with hlost | ⟨flex, hdone', hparse⟩
  · exact absurd (hlost.symm.trans hdone) (by simp)
  · obtain ⟨-, rfl⟩ := Stage.done.inj (hdone'.symm.trans hdone)
    have hreply := server_replies o hparse
    rwa [replyValues_join, header_bytes] at hreply

/-- The session in which every write and every read takes the whole packet. -/
def written : Session := ⟨.reading, .reading, joinPacket, []⟩
def replied (os : Order) : Session :=
  ⟨.reading, .done (readAll joinPacket) (joinValues.header os), [], ackPacket⟩
def joined (oc os : Order) : Session :=
  ⟨.done (readAll ackPacket) (ackValues.header oc),
    .done (readAll joinPacket) (joinValues.header os), [], []⟩

/-- **Undisturbed, a session comes to its end**, on any two machines. -/
theorem after_joined (oc os : Order) : After oc os 3 (joined oc os) := by
  have hbuf : (List.replicate 256 (0 : UInt8)).length = 256 := List.length_replicate
  have hjoin : joinPacket.length < 256 := by
    rw [joinPacket, List.length_append, wire_length]
    decide
  have hack : ackPacket.length < 256 := by decide
  have hne : joinPacket ≠ [] := by decide
  have hwrite : Step oc os .start written := by
    have hs : Step oc os .start ⟨.reading, .reading, [] ++ joinPacket.take joinPacket.length, []⟩ :=
      .client_write _ rfl hbuf (sendPacket_join oc hbuf)
    rwa [List.take_length, List.nil_append] at hs
  have hreply : Step oc os written (replied os) := by
    have hdone : afterRead os (readAll joinPacket) = .done _ _ := readAll_done os (by decide) hjoin
    have hr := @readAll_delivers joinPacket .reading (Or.inl hne)
    rw [(readAll_packet hjoin).2] at hr
    have hs := @Step.server_reply oc os written _ _ _ _ ackPacket.length rfl hr hdone
      (server_acks hdone)
    rwa [List.take_length] at hs
  have hread : Step oc os (replied os) (joined oc os) := by
    have hdone : afterRead oc (readAll ackPacket) = .done _ _ := readAll_done oc (by decide) hack
    have hr := @readAll_delivers ackPacket (replied os).server (Or.inr trivial)
    rw [(readAll_packet hack).2] at hr
    have hzero : ∀ b ∈ (readAll ackPacket).rest, b = 0 := fun _ hb => List.eq_of_mem_replicate hb
    have hs := @Step.client_read oc os (replied os) _ _ rfl hr hzero
    rwa [hdone] at hs
  exact .step (.step (.step .start hwrite) hreply) hread

/-- A client of one order and a server of the other. -/
theorem session_sound_joined :
    After .little .big 3 (joined .little .big) ∧
      (joinValues.header .big).Holds .big joinValues ∧
        (ackValues.header .little).Holds .little ackValues := by
  have hafter := after_joined .little .big
  obtain ⟨-, hserver, -, hclient⟩ := session_sound .little .big hafter
  have hshown := hserver _ _ rfl
  have hreplied := (hclient (fun r hu => by cases hu)).1 _ _ rfl
  exact ⟨hafter, hshown.2, hreplied.2.2.1⟩

end Versatile.App
