import Versatile.App.Packet
import Versatile.Wireshark.Dissector

/-!
# The receive path of the applications

`server.c` and `client.c` parse what one `read` delivered, and hand the header to everything that
comes after without a look at the result: a header that was not parsed is a pointer that was never
assigned. `print_flex_header` picks the name of the packet type from a table by the two halves of
the type, of which the upper one is shifted away.
-/

namespace Versatile.App

open Bytes

/-! ## The name of the packet type -/

/-- `NUM_OF_CONTROL`. -/
def NUM_OF_CONTROL : Nat := 7

/-- `message`, row by row. The initializer of the last row is short: null pointers follow. -/
def message : List (List (Option String)) :=
  [[some "Join", some "Status", some "Leave", some "Register", some "Update", some "Query",
      some "Request"],
    [some "Join ACK", some "Status ACK", some "Leave ACK", some "Register ACK",
      some "Update ACK", some "Reply", some "Response"],
    [some "Interest", some "Data", some "Data ACK", none, none, none, none]]

/-- `message[major][minor]`: the rows lie one behind the other in memory. `none` if this is
outside the table. -/
def messageAt (major minor : Int) : Option (Option String) :=
  let i := major * NUM_OF_CONTROL + minor
  if i < 0 then none else message.flatten[i.toNat]?

/-- The text `print_flex_header` reads for a packet type. -/
def packet_type_text (packet_type : UInt8) : Option (Option String) :=
  let major_type := (packet_type.toNat &&& 0xf0) >>> 8
  let minor_type := ((packet_type.toNat &&& 0x0f : Nat) : Int) - 1
  messageAt major_type minor_type

/-- The text is the name the dissector registers for the type, or, where it registers none, a text
that is no name of a type. -/
def NamedRight (packet_type : UInt8) : Prop :=
  match Wireshark.try_val_to_str packet_type.toNat Wireshark.packet_type_names with
  | some name => packet_type_text packet_type = some (some name)
  | none => ∃ text, packet_type_text packet_type = some (some text) ∧
      ∀ e ∈ Wireshark.packet_type_names, e.2 ≠ text

/-- The upper half of the type is gone: the first row is looked up, or what lies behind it. -/
theorem packet_type_text_eq (packet_type : UInt8) :
    packet_type_text packet_type = messageAt 0 (((packet_type.toNat % 16 : Nat) : Int) - 1) := by
  have hlt : packet_type.toNat < 256 := packet_type.toNat_lt
  have hmajor : (packet_type.toNat &&& 0xf0) >>> 8 = 0 := by
    have hle : packet_type.toNat &&& 0xf0 ≤ packet_type.toNat := Nat.and_le_left
    rw [Nat.shiftRight_eq_div_pow]
    omega
  have hminor : packet_type.toNat &&& 0x0f = packet_type.toNat % 16 :=
    Nat.and_two_pow_sub_one_eq_mod packet_type.toNat 4
  simp only [packet_type_text, hmajor, hminor]
  rfl

/-- Every text of the table names a type. -/
theorem message_names {text : String} (h : some text ∈ message.flatten) :
    ∃ e ∈ Wireshark.packet_type_names, e.2 = text := by
  have hall : ∀ m ∈ message.flatten,
      m = none ∨ ∃ e ∈ Wireshark.packet_type_names, m = some e.2 := by decide
  rcases hall _ h with hnone | ⟨e, he, htext⟩
  · exact absurd hnone (by simp)
  · exact ⟨e, he, (Option.some.inj htext).symm⟩

theorem mem_message {major minor : Int} {text : String}
    (h : messageAt major minor = some (some text)) : some text ∈ message.flatten := by
  unfold messageAt at h
  dsimp only at h
  split at h
  · exact absurd h (by simp)
  · exact List.mem_of_getElem? h

/-- Of the types the dissector registers, those of the control plane are named right. -/
theorem registered_named : ∀ e ∈ Wireshark.packet_type_names,
    (messageAt 0 (((e.1 % 16 : Nat) : Int) - 1) = some (some e.2) ↔ 1 ≤ e.1 ∧ e.1 ≤ 7) := by
  decide

theorem control_registered : ∀ n, n ≤ 7 → 1 ≤ n →
    ∃ e ∈ Wireshark.packet_type_names, e.1 = n := by
  decide

/-- **Which packet types are named right**: the requests of the control plane. -/
theorem namedRight_iff (packet_type : UInt8) :
    NamedRight packet_type ↔ 1 ≤ packet_type.toNat ∧ packet_type.toNat ≤ 7 := by
  unfold NamedRight
  rw [packet_type_text_eq]
  cases hname : Wireshark.try_val_to_str packet_type.toNat Wireshark.packet_type_names with
  | some name =>
    have hmem := Wireshark.mem_of_try_val_to_str hname
    have hright := registered_named (packet_type.toNat, name) hmem
    dsimp only at hright ⊢
    exact hright
  | none =>
    have hne := Wireshark.ne_of_try_val_to_str hname
    dsimp only
    refine ⟨fun h => ?_, fun h => ?_⟩
    · -- the text that is read is the name of another type
      obtain ⟨text, htext, hother⟩ := h
      obtain ⟨e, he, heq⟩ := message_names (mem_message htext)
      exact absurd heq (hother e he)
    · obtain ⟨e, he, heq⟩ := control_registered _ h.2 h.1
      exact absurd heq (hne e he)

/-! ## What a header is passed on to -/

/-- What one `read` delivers: the bytes received, in front of what the buffer held behind them. -/
structure Reading where
  received : List UInt8
  rest : List UInt8
  size : (received ++ rest).length = 256

/-- The buffer after the `read`. -/
def Reading.buf (r : Reading) : Block := r.received ++ r.rest

/-- The calls that are given the header of a received packet, each with the pointer it is given:
`none` is one that was never assigned. With the reply stand the bytes that are sent. -/
inductive Call where
  | print_flex_header (flex : Option FlexHdr)
  | reply (flex : Option FlexHdr) (sent : Option (List UInt8))
  | free_flex_header (flex : Option FlexHdr)

/-- The header a call is given. -/
def Call.header : Call → Option FlexHdr
  | .print_flex_header flex => flex
  | .reply flex _ => flex
  | .free_flex_header flex => flex

/-- The message of `server.c`. -/
def replyMessage : List UInt8 := chars "\x7b \"error\" : \"0\"\x7d"

/-- The values `server.c` gives the header of its reply. -/
def replyValues (o : Order) (flex : FlexHdr) : Values where
  version := 0x10
  packet_type := 0x11
  hash_type := 0x01
  hop_limit := 128
  header_len := 64
  check := 0x1234
  packet_id := 0x7777
  frag_off := 0xA365
  sflex_id := FlexID.memset 55
  dflex_id := FlexID.memset 49
  packet_len := UInt16.ofNat (DEFAULT_HEADER_LEN + replyMessage.length)
  seq := 0x98765431
  ack := UInt32.ofNat (0x12345678 + ntohs o flex.packet_len)

/-- Assemble a packet in a buffer and send it: `packet_len` bytes of the buffer. -/
def sendPacket (o : Order) (buf : Block) (flex : FlexHdr) (message : List UInt8) :
    Option (List UInt8) := do
  let buf ← assemble o buf flex message
  buf.read 0 (ntohs o flex.packet_len)

/-- `main` of `server.c`, behind its `read`: the result of the parser is not looked at. -/
def server_main (o : Order) (r : Reading) : List Call :=
  let flex := (parse_flex_header o r.buf r.received.length).2
  let sent := flex.bind fun flex =>
    sendPacket o r.buf ((replyValues o flex).header o) replyMessage
  [.print_flex_header flex, .reply flex sent, .free_flex_header flex]

/-- `main` of `client.c`, behind its `read`. -/
def client_main (o : Order) (r : Reading) : List Call :=
  let resp := (parse_flex_header o r.buf r.received.length).2
  [.print_flex_header resp, .free_flex_header resp]

/-- The header was filled from received bytes, and enough of them. -/
def Filled (o : Order) (r : Reading) (flex : Option FlexHdr) : Prop :=
  headerSize ≤ r.received.length ∧ flex = some (FlexHdr.ofBytes o (r.received.take headerSize))

theorem Reading.length_le (r : Reading) : r.received.length ≤ 256 := by
  have hsize := r.size
  rw [List.length_append] at hsize
  omega

/-- **A header is filled** exactly if as many bytes were received. -/
theorem filled_parse_iff (o : Order) (r : Reading) :
    Filled o r (parse_flex_header o r.buf r.received.length).2 ↔
      headerSize ≤ r.received.length := by
  refine ⟨fun h => h.1, fun h => ⟨h, ?_⟩⟩
  have hle := r.length_le
  have hbuf : headerSize ≤ r.buf.length := by
    rw [Reading.buf, List.length_append]
    omega
  have hread : r.buf.read 0 headerSize = some (r.received.take headerSize) := by
    refine Block.read_eq_some.mpr ⟨by omega, ?_⟩
    rw [Reading.buf, slice_append_left _ (by omega), slice_zero]
  have hlong : ¬ (r.received.length : Int) % 2 ^ 64 < headerSize := by omega
  rw [parse_flex_header, if_neg hlong, hread]
  rfl

theorem server_header {o : Order} {r : Reading} {c : Call} (h : c ∈ server_main o r) :
    c.header = (parse_flex_header o r.buf r.received.length).2 := by
  simp only [server_main, List.mem_cons, List.not_mem_nil, or_false] at h
  rcases h with rfl | rfl | rfl <;> rfl

theorem client_header {o : Order} {r : Reading} {c : Call} (h : c ∈ client_main o r) :
    c.header = (parse_flex_header o r.buf r.received.length).2 := by
  simp only [client_main, List.mem_cons, List.not_mem_nil, or_false] at h
  rcases h with rfl | rfl <;> rfl

/-- Calls that are all given what the parser left are given a filled header exactly then. -/
theorem filled_calls_iff (o : Order) {r : Reading} {calls : List Call} {c : Call} (hc : c ∈ calls)
    (hcalls : ∀ c ∈ calls, c.header = (parse_flex_header o r.buf r.received.length).2) :
    (∀ c ∈ calls, Filled o r c.header) ↔ headerSize ≤ r.received.length := by
  refine ⟨fun h => (h c hc).1, fun h c hc => ?_⟩
  rw [hcalls c hc]
  exact (filled_parse_iff o r).mpr h

/-- What is sent is the header as it stands in memory, and the message. -/
theorem sendPacket_eq (o : Order) {buf : Block} {v : Values} {message : List UInt8}
    (hheader : v.header_len.toNat = DEFAULT_HEADER_LEN)
    (hpacket : v.packet_len.toNat = DEFAULT_HEADER_LEN + message.length)
    (hroom : v.packet_len.toNat ≤ buf.length) :
    sendPacket o buf (v.header o) message = some ((v.header o).bytes o ++ message) := by
  have hfull := v.header_full o
  have hholds := v.header_holds o
  have hlen : ((v.header o).bytes o ++ message).length = v.packet_len.toNat := by
    rw [List.length_append, FlexHdr.bytes_length o hfull, hpacket]
    rfl
  rw [sendPacket, assemble_eq o hfull (hholds.header_len.trans hheader) (hpacket ▸ hroom),
    hholds.packet_len, ← hlen]
  show Block.read _ _ _ = _
  rw [Block.read_fill (by omega), slice_zero, List.take_length]

/-- A packet that was received is parsed to the header that was sent. -/
theorem parse_received (o : Order) {r : Reading} {flex : FlexHdr} (hfull : flex.Full)
    {message : List UInt8} (h : r.received = flex.bytes o ++ message) :
    parse_flex_header o r.buf r.received.length = (SUCCESS, some flex) := by
  have hle := r.length_le
  have hlen : r.received.length = headerSize + message.length := by
    rw [h, List.length_append, FlexHdr.bytes_length o hfull]
  have hbuf : r.buf = Block.fill r.buf (flex.bytes o ++ message) := by
    rw [← h, Block.fill, Reading.buf, List.drop_left]
  rw [hbuf]
  exact parse_fill o hfull message (by omega) (by omega)

/-- The server replies to a packet whose header was filled. -/
theorem server_replies (o : Order) {r : Reading} {flex : FlexHdr}
    (hflex : (parse_flex_header o r.buf r.received.length).2 = some flex) :
    .reply (some flex) (some (((replyValues o flex).header o).bytes o ++ replyMessage)) ∈
      server_main o r := by
  have hsize : DEFAULT_HEADER_LEN + replyMessage.length ≤ 256 := by decide
  have hroom : (replyValues o flex).packet_len.toNat ≤ r.buf.length := by
    rw [Reading.buf, r.size]
    exact hsize
  have hsent : sendPacket o r.buf ((replyValues o flex).header o) replyMessage =
      some (((replyValues o flex).header o).bytes o ++ replyMessage) :=
    sendPacket_eq o rfl rfl hroom
  simp only [server_main, hflex, Option.bind_some, hsent]
  exact List.mem_cons_of_mem _ List.mem_cons_self

/-- **The client parses what the server replies** to such a packet. -/
theorem reply_parsed (o : Order) {r : Reading} (h : headerSize ≤ r.received.length) :
    ∃ flex sent, .reply (some flex) (some sent) ∈ server_main o r ∧
      ∀ r' : Reading, r'.received = sent →
        ∃ resp, .print_flex_header (some resp) ∈ client_main o r' ∧
          resp.Holds o (replyValues o flex) := by
  obtain ⟨_, hflex⟩ := (filled_parse_iff o r).mpr h
  refine ⟨_, _, server_replies o hflex, ?_⟩
  intro r' hr'
  have hparse := parse_received o (Values.header_full o _) hr'
  refine ⟨_, ?_, Values.header_holds o _⟩
  rw [client_main, hparse]
  exact List.mem_cons_self

/--
**When the receive path is safe.**

The header that `server.c` or `client.c` passes on was filled exactly if it was received in full,
and the name of a packet type is looked up right exactly for the requests of the control plane.
-/
theorem receive_safe_iff (o : Order) (r : Reading) (packet_type : UInt8) :
    ((∀ c ∈ server_main o r, Filled o r c.header) ↔ headerSize ≤ r.received.length) ∧
      ((∀ c ∈ client_main o r, Filled o r c.header) ↔ headerSize ≤ r.received.length) ∧
        (NamedRight packet_type ↔ 1 ≤ packet_type.toNat ∧ packet_type.toNat ≤ 7) := by
  refine ⟨filled_calls_iff o List.mem_cons_self ?_, filled_calls_iff o List.mem_cons_self ?_,
    namedRight_iff packet_type⟩
  · exact fun c hc => server_header hc
  · exact fun c hc => client_header hc

/-- A connection that was closed at once. -/
def nothingReceived : Reading :=
  ⟨[], List.replicate 256 0, by rw [List.nil_append, List.length_replicate]⟩

/-- **The receive path is not safe**: of a connection that was closed at once a header is passed
on, and the acknowledgement of a join is named as the join. -/
theorem not_receive_safe :
    (¬ ∀ c ∈ server_main .little nothingReceived, Filled .little nothingReceived c.header) ∧
      ¬ NamedRight 0x11 := by
  refine ⟨fun h => ?_, fun h => ?_⟩
  · have hlen : headerSize ≤ 0 := (h _ List.mem_cons_self).1
    exact absurd hlen (by decide)
  · exact absurd ((namedRight_iff 0x11).mp h).2 (by decide)

end Versatile.App
