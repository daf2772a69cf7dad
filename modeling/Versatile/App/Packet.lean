import Versatile.App.Header

/-!
# Packets of the applications

`client.c`, `server.c` and `test_flex.c` assemble a packet alike: the fields of the header are
stored in network order, the structure is copied to the front of a buffer and the message behind
it. The wire image is the structure as it stands in memory, so the law of the codec is that the
thirteen fields lie one behind the other without a gap: the memory of a header tells its fields
(`FlexHdr.ofBytes_bytes`), and its fields tell its memory (`FlexHdr.bytes_ofBytes`).
-/

namespace Versatile.App

open Bytes

/-- `DEFAULT_HEADER_LEN`. -/
def DEFAULT_HEADER_LEN : Nat := 64

/-- `htons`: the word whose bytes are those of a number in network order. -/
def htons (o : Order) (n : Nat) : UInt16 := UInt16.ofNat (value o (encode .big 2 n))

/-- `htonl`, the same for four bytes. -/
def htonl (o : Order) (n : Nat) : UInt32 := UInt32.ofNat (value o (encode .big 4 n))

theorem ntohs_htons (o : Order) (n : Nat) : ntohs o (htons o n) = n % 2 ^ 16 := by
  have hlt : value o (encode .big 2 n) < 2 ^ 16 := by simpa using value_lt o (encode .big 2 n)
  have hbytes : encode o 2 (value o (encode .big 2 n)) = encode .big 2 n := by
    simpa using encode_value o (encode .big 2 n)
  rw [ntohs, htons, UInt16.toNat_ofNat', Nat.mod_eq_of_lt hlt, hbytes, value_encode]
  rfl

theorem ntohl_htonl (o : Order) (n : Nat) : ntohl o (htonl o n) = n % 2 ^ 32 := by
  have hlt : value o (encode .big 4 n) < 2 ^ 32 := by simpa using value_lt o (encode .big 4 n)
  have hbytes : encode o 4 (value o (encode .big 4 n)) = encode .big 4 n := by
    simpa using encode_value o (encode .big 4 n)
  rw [ntohl, htonl, UInt32.toNat_ofNat', Nat.mod_eq_of_lt hlt, hbytes, value_encode]
  rfl

/-! ## The header in memory -/

/-- The header as it stands in memory. -/
def FlexHdr.bytes (o : Order) (h : FlexHdr) : List UInt8 :=
  encode o 1 h.version.toNat ++ (encode o 1 h.packet_type.toNat ++
    (encode o 1 h.hash_type.toNat ++ (encode o 1 h.hop_limit.toNat ++
      (encode o 2 h.header_len.toNat ++ (encode o 2 h.check.toNat ++
        (encode o 2 h.packet_id.toNat ++ (encode o 2 h.frag_off.toNat ++
          (h.sflex_id ++ (h.dflex_id ++ (encode o 2 h.packet_len.toNat ++
            (encode o 4 h.seq.toNat ++ (encode o 4 h.ack.toNat ++ []))))))))))))

/-- Both identifiers fill their arrays. -/
structure FlexHdr.Full (h : FlexHdr) : Prop where
  sflex_id : h.sflex_id.length = FLEX_ID_LENGTH
  dflex_id : h.dflex_id.length = FLEX_ID_LENGTH

theorem FlexHdr.bytes_length (o : Order) {h : FlexHdr} (hfull : h.Full) :
    (h.bytes o).length = headerSize := by
  simp [FlexHdr.bytes, headerSize, hfull.sflex_id, hfull.dflex_id, FLEX_ID_LENGTH]

/-- **The memory of a header tells its fields.** -/
theorem FlexHdr.ofBytes_bytes (o : Order) {h : FlexHdr} (hfull : h.Full) :
    FlexHdr.ofBytes o (h.bytes o) = h := by
  obtain ⟨hs, hd⟩ := hfull
  rw [FLEX_ID_LENGTH] at hs hd
  simp only [FlexHdr.ofBytes, FlexHdr.bytes, readNat_self, readNat_append_right, slice_self,
    slice_append_right, encode_length, hs, hd, FLEX_ID_LENGTH, ofNat8_toNat, ofNat16_toNat,
    ofNat32_toNat, Nat.reduceLeDiff, Nat.reduceSub, Nat.le_refl, Nat.sub_self]

/-- **The fields of a header tell its memory.** -/
theorem FlexHdr.bytes_ofBytes (o : Order) {bs : List UInt8} (h : bs.length = headerSize) :
    (FlexHdr.ofBytes o bs).bytes o = bs := by
  rw [headerSize] at h
  have hall : slice bs 0 64 = bs := by rw [slice_zero, List.take_of_length_le (by rw [h])]
  -- the fields stand one behind the other, from the last one on
  simp only [FlexHdr.bytes, FlexHdr.ofBytes, FLEX_ID_LENGTH]
  rw [encode_read8 o (by omega), encode_read8 o (by omega), encode_read8 o (by omega),
    encode_read8 o (by omega), encode_read16 o (by omega), encode_read16 o (by omega),
    encode_read16 o (by omega), encode_read16 o (by omega), encode_read16 o (by omega),
    encode_read32 o (by omega), encode_read32 o (by omega), List.append_nil,
    ← slice_add bs 56 4 4, ← slice_add bs 54 2 8, ← slice_add bs 33 21 10,
    ← slice_add bs 12 21 31, ← slice_add bs 10 2 52, ← slice_add bs 8 2 54,
    ← slice_add bs 6 2 56, ← slice_add bs 4 2 58, ← slice_add bs 3 1 60, ← slice_add bs 2 1 61,
    ← slice_add bs 1 1 62, ← slice_add bs 0 1 63]
  exact hall

/-! ## The values of a header -/

/-- An identifier, which fills its array. -/
abbrev FlexID := {bs : List UInt8 // bs.length = FLEX_ID_LENGTH}

/-- `memset` of an identifier. -/
def FlexID.memset (c : UInt8) : FlexID := ⟨List.replicate FLEX_ID_LENGTH c, List.length_replicate⟩

/-- The values a program gives the fields of a header. -/
structure Values where
  version : UInt8
  packet_type : UInt8
  hash_type : UInt8
  hop_limit : UInt8
  header_len : UInt16
  check : UInt16
  packet_id : UInt16
  frag_off : UInt16
  sflex_id : FlexID
  dflex_id : FlexID
  packet_len : UInt16
  seq : UInt32
  ack : UInt32

/-- The header that holds some values, each word stored through `htons` or `htonl`. -/
def Values.header (o : Order) (v : Values) : FlexHdr where
  version := v.version
  packet_type := v.packet_type
  hash_type := v.hash_type
  hop_limit := v.hop_limit
  header_len := htons o v.header_len.toNat
  check := htons o v.check.toNat
  packet_id := htons o v.packet_id.toNat
  frag_off := htons o v.frag_off.toNat
  sflex_id := v.sflex_id.val
  dflex_id := v.dflex_id.val
  packet_len := htons o v.packet_len.toNat
  seq := htonl o v.seq.toNat
  ack := htonl o v.ack.toNat

/-- A header holds some values: those of its words are read through `ntohs` or `ntohl`. -/
structure FlexHdr.Holds (o : Order) (flex : FlexHdr) (v : Values) : Prop where
  version : flex.version = v.version
  packet_type : flex.packet_type = v.packet_type
  hash_type : flex.hash_type = v.hash_type
  hop_limit : flex.hop_limit = v.hop_limit
  header_len : ntohs o flex.header_len = v.header_len.toNat
  check : ntohs o flex.check = v.check.toNat
  packet_id : ntohs o flex.packet_id = v.packet_id.toNat
  frag_off : ntohs o flex.frag_off = v.frag_off.toNat
  sflex_id : flex.sflex_id = v.sflex_id.val
  dflex_id : flex.dflex_id = v.dflex_id.val
  packet_len : ntohs o flex.packet_len = v.packet_len.toNat
  seq : ntohl o flex.seq = v.seq.toNat
  ack : ntohl o flex.ack = v.ack.toNat

theorem Values.header_full (o : Order) (v : Values) : (v.header o).Full :=
  ⟨v.sflex_id.property, v.dflex_id.property⟩

/-- A word of sixteen bits is stored and read as it is. -/
@[simp] theorem ntohs_htons_word (o : Order) (x : UInt16) :
    ntohs o (htons o x.toNat) = x.toNat := by
  rw [ntohs_htons, Nat.mod_eq_of_lt x.toNat_lt]

@[simp] theorem ntohl_htonl_word (o : Order) (x : UInt32) :
    ntohl o (htonl o x.toNat) = x.toNat := by
  rw [ntohl_htonl, Nat.mod_eq_of_lt x.toNat_lt]

/-- A header holds the values that were stored in it. -/
theorem Values.header_holds (o : Order) (v : Values) : (v.header o).Holds o v where
  version := rfl
  packet_type := rfl
  hash_type := rfl
  hop_limit := rfl
  header_len := ntohs_htons_word o _
  check := ntohs_htons_word o _
  packet_id := ntohs_htons_word o _
  frag_off := ntohs_htons_word o _
  sflex_id := rfl
  dflex_id := rfl
  packet_len := ntohs_htons_word o _
  seq := ntohl_htonl_word o _
  ack := ntohl_htonl_word o _

/-! ## Packets -/

/-- Assemble a packet: `ntohs(flex->header_len)` bytes of the header are copied to the front of
the buffer, and the message behind them. `none` if a copy leaves a block. -/
def assemble (o : Order) (buf : Block) (flex : FlexHdr) (message : List UInt8) : Option Block := do
  let header ← Block.read (flex.bytes o) 0 (ntohs o flex.header_len)
  let buf ← buf.write 0 header
  buf.write (ntohs o flex.header_len) message

/-- **What is assembled**, in a buffer with room for it. -/
theorem assemble_eq (o : Order) {buf : Block} {flex : FlexHdr} {message : List UInt8}
    (hfull : flex.Full) (hlen : ntohs o flex.header_len = DEFAULT_HEADER_LEN)
    (hroom : DEFAULT_HEADER_LEN + message.length ≤ buf.length) :
    assemble o buf flex message = some (buf.fill (flex.bytes o ++ message)) := by
  have hbytes : (flex.bytes o).length = DEFAULT_HEADER_LEN := FlexHdr.bytes_length o hfull
  have hread : Block.read (flex.bytes o) 0 DEFAULT_HEADER_LEN = some (flex.bytes o) := by
    rw [← hbytes]
    exact Block.read_all _
  have hfront : buf.write 0 (flex.bytes o) = some (buf.fill (flex.bytes o)) := by
    have hroom' : ([] ++ flex.bytes o).length ≤ buf.length := by
      rw [List.nil_append, hbytes]
      omega
    simpa using @Block.write_fill buf 0 [] (flex.bytes o) rfl hroom'
  have hbehind : (buf.fill (flex.bytes o)).write DEFAULT_HEADER_LEN message =
      some (buf.fill (flex.bytes o ++ message)) := by
    refine Block.write_fill hbytes.symm ?_
    rw [List.length_append, hbytes]
    exact hroom
  simp only [assemble, hlen, hread, hfront, hbehind, Option.bind_eq_bind, Option.bind_some]

/-- **What is parsed of a buffer** that begins with a header. -/
theorem parse_fill (o : Order) {buf : Block} {flex : FlexHdr} (hfull : flex.Full)
    (message : List UInt8) {hdr_len : Int} (h1 : headerSize ≤ hdr_len) (h2 : hdr_len < 2 ^ 31) :
    parse_flex_header o (buf.fill (flex.bytes o ++ message)) hdr_len = (SUCCESS, some flex) := by
  have hbytes := FlexHdr.bytes_length o hfull
  have hread : (buf.fill (flex.bytes o ++ message)).read 0 headerSize = some (flex.bytes o) := by
    rw [Block.read_fill (by rw [List.length_append, hbytes]; omega), slice_self message hbytes]
  rw [headerSize] at h1
  rw [parse_flex_header, if_neg (by rw [headerSize]; omega), hread, Option.map_some,
    FlexHdr.ofBytes_bytes o hfull]

theorem FlexHdr.full_ofBytes (o : Order) {bs : List UInt8} (h : headerSize ≤ bs.length) :
    (FlexHdr.ofBytes o bs).Full := by
  rw [headerSize] at h
  exact ⟨slice_length (by rw [FLEX_ID_LENGTH]; omega), slice_length (by rw [FLEX_ID_LENGTH]; omega)⟩

/-- A header that was parsed holds the first bytes of the buffer. -/
theorem parse_ok {o : Order} {hdr : Block} {hdr_len : Int} {flex : FlexHdr}
    (h : parse_flex_header o hdr hdr_len = (SUCCESS, some flex)) :
    headerSize ≤ hdr.length ∧ flex.Full ∧ flex.bytes o = hdr.take headerSize := by
  unfold parse_flex_header at h
  split at h
  · exact absurd (congrArg Prod.snd h) (by simp)
  · obtain ⟨bs, hread, rfl⟩ := Option.map_eq_some_iff.mp (congrArg Prod.snd h)
    obtain ⟨hroom, rfl⟩ := Block.read_eq_some.mp hread
    have hlen : (slice hdr 0 headerSize).length = headerSize := slice_length hroom
    refine ⟨by omega, FlexHdr.full_ofBytes o (by rw [hlen]), ?_⟩
    rw [FlexHdr.bytes_ofBytes o hlen, slice_zero]

/-- **A packet that was assembled is parsed** to what was put into it. -/
theorem parse_assembled (o : Order) {v : Values} {message : List UInt8} {buf : Block}
    (hheader : v.header_len.toNat = DEFAULT_HEADER_LEN)
    (hpacket : v.packet_len.toNat = DEFAULT_HEADER_LEN + message.length)
    (hroom : v.packet_len.toNat ≤ buf.length) :
    ∃ packet flex, assemble o buf (v.header o) message = some packet ∧
      parse_flex_header o packet v.packet_len.toNat = (SUCCESS, some flex) ∧ flex.Holds o v ∧
      slice packet (ntohs o flex.header_len) (v.packet_len.toNat - ntohs o flex.header_len) =
        message ∧
      packet.drop headerSize = message ++ buf.drop v.packet_len.toNat := by
  have hfull := v.header_full o
  have hholds := v.header_holds o
  have hlen : ntohs o (v.header o).header_len = DEFAULT_HEADER_LEN :=
    hholds.header_len.trans hheader
  have hbytes : ((v.header o).bytes o).length = DEFAULT_HEADER_LEN :=
    FlexHdr.bytes_length o hfull
  have h1 : (headerSize : Int) ≤ (v.packet_len.toNat : Int) := by
    have h64 : headerSize = DEFAULT_HEADER_LEN := rfl
    omega
  have h2 : (v.packet_len.toNat : Int) < 2 ^ 31 := by
    have hlt : v.packet_len.toNat < 2 ^ 16 := v.packet_len.toNat_lt
    omega
  refine ⟨_, _, assemble_eq o hfull hlen (hpacket ▸ hroom), parse_fill o hfull message h1 h2,
    hholds, ?_, ?_⟩
  · rw [hlen, hpacket, Nat.add_sub_cancel_left, Block.fill, List.append_assoc, ← hbytes,
      ← List.append_assoc]
    exact slice_middle _ message _
  · have hsize : headerSize = ((v.header o).bytes o).length := hbytes.symm
    rw [Block.fill, List.length_append, hbytes, ← hpacket, List.append_assoc, hsize,
      List.drop_left]

/-- **A packet that was parsed is assembled** as it stood. -/
theorem assemble_parsed (o : Order) {packet : Block} {flex : FlexHdr}
    (hparse : parse_flex_header o packet packet.length = (SUCCESS, some flex))
    (hheader : ntohs o flex.header_len = DEFAULT_HEADER_LEN)
    (hpacket : ntohs o flex.packet_len = packet.length) {buf : Block}
    (hroom : packet.length ≤ buf.length) :
    assemble o buf flex (slice packet (ntohs o flex.header_len)
      (ntohs o flex.packet_len - ntohs o flex.header_len)) = some (buf.fill packet) := by
  obtain ⟨hlong, hfull, hbytes⟩ := parse_ok hparse
  have h64 : headerSize = DEFAULT_HEADER_LEN := rfl
  have hbehind : slice packet DEFAULT_HEADER_LEN (packet.length - DEFAULT_HEADER_LEN) =
      packet.drop DEFAULT_HEADER_LEN := by
    rw [slice, List.take_of_length_le (by rw [List.length_drop])]
  have hroom' : DEFAULT_HEADER_LEN + (packet.drop DEFAULT_HEADER_LEN).length ≤ buf.length := by
    rw [List.length_drop]
    omega
  rw [hheader, hpacket, hbehind, assemble_eq o hfull hheader hroom', hbytes, h64,
    List.take_append_drop]

/-- A packet comes through: it is assembled in a buffer, the call of the parser with its length
returns a header that holds the values it was assembled from, and the message lies behind. -/
def ComesThrough (o : Order) (v : Values) (message : List UInt8) (buf : Block) : Prop :=
  ∃ packet flex, assemble o buf (v.header o) message = some packet ∧
    Parses o packet v.packet_len.toNat flex ∧ flex.Holds o v ∧
    slice packet (ntohs o flex.header_len) (v.packet_len.toNat - ntohs o flex.header_len) =
      message

/-- **When a packet comes through**: the text that is printed of it ends in the message, or in
the buffer behind. -/
theorem comesThrough_iff (o : Order) {v : Values} {message : List UInt8} {buf : Block}
    (hheader : v.header_len.toNat = DEFAULT_HEADER_LEN)
    (hpacket : v.packet_len.toNat = DEFAULT_HEADER_LEN + message.length)
    (hroom : v.packet_len.toNat ≤ buf.length) :
    ComesThrough o v message buf ↔ 0 ∈ message ∨ 0 ∈ buf.drop v.packet_len.toNat := by
  obtain ⟨packet, flex, hassemble, hparse, hholds, hmessage, hbehind⟩ :=
    parse_assembled o hheader hpacket hroom
  have hprinted : (message_in_parse packet).isSome ↔
      0 ∈ message ∨ 0 ∈ buf.drop v.packet_len.toNat := by
    rw [message_in_parse_isSome, hbehind, List.mem_append]
  rw [← hprinted]
  refine ⟨fun h => ?_, fun h => ⟨packet, flex, hassemble, ⟨hparse, h⟩, hholds, hmessage⟩⟩
  obtain ⟨packet', _, hassemble', hparses, _⟩ := h
  obtain rfl : packet = packet' := Option.some.inj (hassemble.symm.trans hassemble')
  exact hparses.printed

/--
**When assembling and parsing a packet are inverse.**

Whatever the values of a header and the message, the packet comes through exactly if a zero byte
ends the text the parser prints of it: one of the message, or one that the buffer holds behind it.
And a packet that was parsed is assembled again from its header and what lies behind it. The buffer
is the block of `packet_len` bytes of `test_flex.c`, or a longer one.
-/
theorem packets_inverse_iff (o : Order) :
    (∀ (v : Values) (message : List UInt8) (buf : Block),
      v.header_len.toNat = DEFAULT_HEADER_LEN →
      v.packet_len.toNat = DEFAULT_HEADER_LEN + message.length →
      v.packet_len.toNat ≤ buf.length →
      (ComesThrough o v message buf ↔ 0 ∈ message ∨ 0 ∈ buf.drop v.packet_len.toNat)) ∧
    ∀ (packet : Block) (flex : FlexHdr),
      parse_flex_header o packet packet.length = (SUCCESS, some flex) →
      ntohs o flex.header_len = DEFAULT_HEADER_LEN → ntohs o flex.packet_len = packet.length →
      ∀ buf : Block, packet.length ≤ buf.length →
        assemble o buf flex (slice packet (ntohs o flex.header_len)
          (ntohs o flex.packet_len - ntohs o flex.header_len)) = some (buf.fill packet) := by
  refine ⟨?_, ?_⟩
  · intro v message buf hheader hpacket hroom
    exact comesThrough_iff o hheader hpacket hroom
  · intro packet flex hparse hheader hpacket buf hroom
    exact assemble_parsed o hparse hheader hpacket hroom

/-- The characters of a text in memory. -/
def chars (s : String) : List UInt8 := s.toList.map fun c => UInt8.ofNat c.toNat

/-- The message of `client.c`. -/
def joinMessage : List UInt8 :=
  chars "\x7b \"interface\" : \"wire\", \"bandwidth\" : \"10 Mbps\" \x7d"

/-- The values `client.c` gives the header of its join. -/
def joinValues : Values where
  version := 0x10
  packet_type := 0x01
  hash_type := 0x01
  hop_limit := 128
  header_len := 64
  check := 0x1234
  packet_id := 0x7777
  frag_off := 0xA365
  sflex_id := FlexID.memset 49
  dflex_id := FlexID.memset 55
  packet_len := UInt16.ofNat (DEFAULT_HEADER_LEN + joinMessage.length)
  seq := 0x12345678
  ack := 0x98765432

/-- A packet with a short message. -/
def shortPacket : Block :=
  [0x10, 1, 1, 128, 0, 64, 0x12, 0x34, 0x77, 0x77, 0xA3, 0x65] ++ List.replicate 21 1 ++
    List.replicate 21 7 ++ [0, 66, 0x12, 0x34, 0x56, 0x78, 0x09, 0x87, 0x65, 0x43] ++ [104, 105]

/-- The join of the client comes through in its buffer, and a packet with a message is parsed and
assembled again. -/
theorem packets_inverse_join :
    ComesThrough .little joinValues joinMessage (List.replicate 256 0) ∧
    ∃ flex, parse_flex_header .big shortPacket shortPacket.length = (SUCCESS, some flex) ∧
      assemble .big (List.replicate 70 0) flex (slice shortPacket (ntohs .big flex.header_len)
        (ntohs .big flex.packet_len - ntohs .big flex.header_len)) =
          some (Block.fill (List.replicate 70 0) shortPacket) := by
  refine ⟨?_, ?_⟩
  · refine ((packets_inverse_iff .little).1 joinValues joinMessage _ rfl rfl ?_).mpr (Or.inr ?_)
    · decide +kernel
    · decide +kernel
  · have hparse : parse_flex_header .big shortPacket shortPacket.length =
        (SUCCESS, some (FlexHdr.ofBytes .big shortPacket)) := by rfl
    exact ⟨_, hparse, (packets_inverse_iff .big).2 shortPacket _ hparse (by decide) (by decide) _
      (by decide)⟩

/-- The message of `test_flex.c`. -/
def testMessage : List UInt8 :=
  chars "\x7b \"interface\" : \"wifi\", \"bandwidth\" : \"10 Mbps\" \x7d"

/-- The values `test_flex.c` gives its header. -/
def testValues : Values :=
  { joinValues with
    sflex_id := FlexID.memset 1
    dflex_id := FlexID.memset 7
    packet_len := UInt16.ofNat (DEFAULT_HEADER_LEN + testMessage.length)
    ack := 0x09876543 }

/-- **Not every packet comes through**: the one of `test_flex.c` fills its block, and nothing ends
the text that is printed of it. -/
theorem not_packets_inverse :
    ¬ ∀ (o : Order) (v : Values) (message : List UInt8) (buf : Block),
      v.header_len.toNat = DEFAULT_HEADER_LEN →
      v.packet_len.toNat = DEFAULT_HEADER_LEN + message.length →
      buf.length = v.packet_len.toNat → ComesThrough o v message buf := by
  intro h
  have hthrough := h .little testValues testMessage (List.replicate testValues.packet_len.toNat 0)
    rfl rfl List.length_replicate
  have hroom : testValues.packet_len.toNat ≤
      (List.replicate testValues.packet_len.toNat (0 : UInt8)).length :=
    Nat.le_of_eq List.length_replicate.symm
  rcases (comesThrough_iff .little rfl rfl hroom).mp hthrough with hin | hbehind
  · exact absurd hin (by decide)
  · rw [List.drop_of_length_le (Nat.le_of_eq List.length_replicate)] at hbehind
    exact absurd hbehind (by simp)

end Versatile.App
