import Versatile.App.Header

/-!
# The Wireshark dissector

`packet-flex.c`: `dissect_flex` walks over the packet with a running offset and adds one item
after the other, and the table of `proto_register_flex` says of what type each field is and
which bits of its bytes it shows.
-/

namespace Versatile.Wireshark

open Bytes App

/-- The types of the registered fields. -/
inductive FieldType where
  | FT_UINT8
  | FT_UINT16
  | FT_UINT32
  | FT_BOOLEAN
  | FT_STRING
  deriving DecidableEq, Repr

/-- One entry of `hf`: the type and the bit mask. -/
structure HfInfo where
  type : FieldType
  bitmask : Nat

/-- The table `hf` of `proto_register_flex`. -/
def hf : Field → HfInfo
  | .version => ⟨.FT_UINT8, 0x0⟩
  | .packet_type => ⟨.FT_UINT8, 0x0⟩
  | .hash_type => ⟨.FT_UINT8, 0x0⟩
  | .hop_limit => ⟨.FT_UINT8, 0x0⟩
  | .header_len => ⟨.FT_UINT16, 0x0⟩
  | .check => ⟨.FT_UINT16, 0x0⟩
  | .packet_id => ⟨.FT_UINT16, 0x0⟩
  | .ptc => ⟨.FT_BOOLEAN, FLEX_PTC⟩
  | .df => ⟨.FT_BOOLEAN, FLEX_DF⟩
  | .mf => ⟨.FT_BOOLEAN, FLEX_MF⟩
  | .frag_off => ⟨.FT_UINT16, 0x0⟩
  | .sflex_id => ⟨.FT_STRING, 0x0⟩
  | .dflex_id => ⟨.FT_STRING, 0x0⟩
  | .packet_len => ⟨.FT_UINT16, 0x0⟩
  | .seq => ⟨.FT_UINT32, 0x0⟩
  | .ack => ⟨.FT_UINT32, 0x0⟩

/-- The packet types: the control plane, its acknowledgements, and the data plane. -/
def FLEX_JOIN : Nat := 0x01
def FLEX_STATUS : Nat := 0x02
def FLEX_LEAVE : Nat := 0x03
def FLEX_REGISTER : Nat := 0x04
def FLEX_UPDATE : Nat := 0x05
def FLEX_QUERY : Nat := 0x06
def FLEX_REQUEST : Nat := 0x07
def FLEX_JOIN_ACK : Nat := 0x11
def FLEX_STATUS_ACK : Nat := 0x12
def FLEX_LEAVE_ACK : Nat := 0x13
def FLEX_REGISTER_ACK : Nat := 0x14
def FLEX_UPDATE_ACK : Nat := 0x15
def FLEX_REPLY : Nat := 0x16
def FLEX_RESPONSE : Nat := 0x17
def FLEX_INTEREST : Nat := 0x21
def FLEX_DATA : Nat := 0x22
def FLEX_DATA_ACK : Nat := 0x23

/-- `packet_type_names`. -/
def packet_type_names : List (Nat × String) :=
  [(FLEX_JOIN, "Join"), (FLEX_STATUS, "Status"), (FLEX_LEAVE, "Leave"),
    (FLEX_REGISTER, "Register"), (FLEX_UPDATE, "Update"), (FLEX_QUERY, "Query"),
    (FLEX_REQUEST, "Request"), (FLEX_JOIN_ACK, "Join ACK"), (FLEX_STATUS_ACK, "Status ACK"),
    (FLEX_LEAVE_ACK, "Leave ACK"), (FLEX_REGISTER_ACK, "Register ACK"),
    (FLEX_UPDATE_ACK, "Update ACK"), (FLEX_REPLY, "Reply"), (FLEX_RESPONSE, "Response"),
    (FLEX_INTEREST, "Interest"), (FLEX_DATA, "Data"), (FLEX_DATA_ACK, "Data ACK")]

/-- The text a table gives a value; `val_to_str` writes `Unknown` and the value where there is
none. -/
def try_val_to_str (val : Nat) (vs : List (Nat × String)) : Option String :=
  (vs.find? fun e => e.1 = val).map Prod.snd

theorem mem_of_try_val_to_str {val : Nat} {vs : List (Nat × String)} {name : String}
    (h : try_val_to_str val vs = some name) : (val, name) ∈ vs := by
  obtain ⟨e, hfind, rfl⟩ := Option.map_eq_some_iff.mp h
  obtain rfl : e.1 = val := by simpa using List.find?_some hfind
  exact List.mem_of_find?_eq_some hfind

theorem ne_of_try_val_to_str {val : Nat} {vs : List (Nat × String)}
    (h : try_val_to_str val vs = none) : ∀ e ∈ vs, e.1 ≠ val := by
  intro e he
  have hnone := List.find?_eq_none.mp (Option.map_eq_none_iff.mp h) e he
  simpa using hnone

/-- The number of low bits that are not in a mask. -/
def bitshift (mask : Nat) : Nat := ((List.range 16).find? mask.testBit).getD 0

/-- The value of an item of a packet: a string as it stands, a number in network order with
the bits of the mask moved down, if there is one. -/
def itemValue (info : HfInfo) (bs : List UInt8) : FieldValue :=
  if info.type = .FT_STRING then .chars bs
  else if info.bitmask = 0 then .num (value .big bs)
  else .num ((value .big bs &&& info.bitmask) >>> bitshift info.bitmask)

/-- One `proto_tree_add_item`: the field, its length, and how far the offset moves on. -/
structure Item where
  field : Field
  length : Nat
  advance : Nat

/-- The calls of `dissect_flex`. The flags are read from the word of the fragment offset. -/
def items : List Item :=
  [⟨.version, 1, 1⟩, ⟨.packet_type, 1, 1⟩, ⟨.hash_type, 1, 1⟩, ⟨.hop_limit, 1, 1⟩,
    ⟨.header_len, 2, 2⟩, ⟨.check, 2, 2⟩, ⟨.packet_id, 2, 2⟩,
    ⟨.frag_off, 2, 0⟩, ⟨.ptc, 2, 0⟩, ⟨.df, 2, 0⟩, ⟨.mf, 2, 2⟩,
    ⟨.sflex_id, FLEX_ID_LENGTH, FLEX_ID_LENGTH⟩, ⟨.dflex_id, FLEX_ID_LENGTH, FLEX_ID_LENGTH⟩,
    ⟨.packet_len, 2, 2⟩, ⟨.seq, 4, 4⟩, ⟨.ack, 4, 4⟩]

/-- Add some items from an offset on; `none` where the packet is too short for one. -/
def addItems (tvb : Block) : Nat → List Item → Option (List (Field × FieldValue))
  | _, [] => some []
  | offset, item :: rest => do
    let bs ← tvb.read offset item.length
    let tree ← addItems tvb (offset + item.advance) rest
    return (item.field, itemValue (hf item.field) bs) :: tree

/-- `dissect_flex`: the fields it adds. -/
def dissect_flex (tvb : Block) : Option (List (Field × FieldValue)) := addItems tvb 0 items

/-- The items with the offsets they are added at. -/
def placed : Nat → List Item → List (Item × Nat)
  | _, [] => []
  | offset, item :: rest => (item, offset) :: placed (offset + item.advance) rest

/-- In a packet that is long enough, every item shows the bytes at its offset. -/
theorem addItems_eq {tvb : Block} : ∀ {offset : Nat} {its : List Item},
    (∀ p ∈ placed offset its, p.2 + p.1.length ≤ tvb.length) →
    addItems tvb offset its = some ((placed offset its).map fun p =>
      (p.1.field, itemValue (hf p.1.field) (slice tvb p.2 p.1.length)))
  | _, [], _ => rfl
  | offset, item :: rest, h => by
      have hread : tvb.read offset item.length = some (slice tvb offset item.length) :=
        Block.read_eq_some.mpr ⟨h _ (List.mem_cons_self ..), rfl⟩
      have hrest := addItems_eq fun p hp => h p (List.mem_cons_of_mem _ hp)
      simp only [addItems, hread, hrest, Option.bind_eq_bind, Option.bind_some, placed,
        List.map_cons]
      rfl

/-- **What the dissector adds** for a packet with a whole header. -/
theorem dissect_eq {tvb : Block} (h : headerSize ≤ tvb.length) :
    dissect_flex tvb = some
      [(.version, .num (readNat .big tvb 0 1)),
        (.packet_type, .num (readNat .big tvb 1 1)),
        (.hash_type, .num (readNat .big tvb 2 1)),
        (.hop_limit, .num (readNat .big tvb 3 1)),
        (.header_len, .num (readNat .big tvb 4 2)),
        (.check, .num (readNat .big tvb 6 2)),
        (.packet_id, .num (readNat .big tvb 8 2)),
        (.frag_off, .num (readNat .big tvb 10 2)),
        (.ptc, .num ((readNat .big tvb 10 2 &&& 0x8000) >>> 15)),
        (.df, .num ((readNat .big tvb 10 2 &&& 0x4000) >>> 14)),
        (.mf, .num ((readNat .big tvb 10 2 &&& 0x2000) >>> 13)),
        (.sflex_id, .chars (slice tvb 12 FLEX_ID_LENGTH)),
        (.dflex_id, .chars (slice tvb 33 FLEX_ID_LENGTH)),
        (.packet_len, .num (readNat .big tvb 54 2)),
        (.seq, .num (readNat .big tvb 56 4)),
        (.ack, .num (readNat .big tvb 60 4))] := by
  have hfit : ∀ p ∈ placed 0 items, p.2 + p.1.length ≤ headerSize := by decide
  rw [dissect_flex, addItems_eq fun p hp => Nat.le_trans (hfit p hp) h]
  rfl

/-! ## Against the applications -/

/-- **The two decoders agree** on a buffer: every value that `print_flex_header` shows of it is
the one the dissector adds for the same field. -/
def Agree (o : Order) (hdr : Block) (hdr_len : Int) : Prop :=
  ∃ flex tree, parse_flex_header o hdr hdr_len = (SUCCESS, some flex) ∧
    dissect_flex hdr = some tree ∧ ∀ shown ∈ print_flex_header o flex, shown ∈ tree

/-- No flag is set in the word of the fragment offset. -/
def FlagsClear (hdr : Block) : Prop := readNat .big hdr 10 2 ≤ FLEX_OFFSET

/-- A fragment offset that is shown as it stands has no flag above it. -/
theorem masked_eq_iff (n : Nat) : n &&& 0x1fff = n ↔ n ≤ FLEX_OFFSET := by
  have hmod : n &&& 0x1fff = n % 2 ^ 13 := Nat.and_two_pow_sub_one_eq_mod n 13
  rw [hmod, FLEX_OFFSET]
  omega

/--
**The decoders agree exactly on headers without flags.**

The application takes the flags out of the fragment offset, and the dissector does not: its
field is registered without the mask of thirteen bits. All the other fields agree.
-/
theorem agree_iff (o : Order) {hdr : Block} {hdr_len : Int} (h1 : headerSize ≤ hdr_len)
    (h2 : hdr_len < 2 ^ 31) (h3 : headerSize ≤ hdr.length) :
    Agree o hdr hdr_len ↔ FlagsClear hdr := by
  obtain ⟨flex, hparse, hprint⟩ := print_parsed o h1 h2 h3
  have htree := dissect_eq h3
  refine ⟨?_, ?_⟩
  · intro hsome
    obtain ⟨flex', tree, hparse', htree', hall⟩ := hsome
    obtain rfl : flex = flex' := by simpa using hparse.symm.trans hparse'
    obtain rfl := Option.some.inj (htree.symm.trans htree')
    have hoff := hall (.frag_off, .num (readNat .big hdr 10 2 &&& 0x1fff)) (by rw [hprint]; simp)
    exact (masked_eq_iff _).mp (by simpa using hoff)
  · intro hclear
    refine ⟨flex, _, hparse, htree, ?_⟩
    rw [hprint, (masked_eq_iff _).mpr hclear]
    simp

/-- Whatever the flags, every other field agrees. -/
theorem agree_others (o : Order) {hdr : Block} {hdr_len : Int} (h1 : headerSize ≤ hdr_len)
    (h2 : hdr_len < 2 ^ 31) (h3 : headerSize ≤ hdr.length) :
    ∃ flex tree, parse_flex_header o hdr hdr_len = (SUCCESS, some flex) ∧
      dissect_flex hdr = some tree ∧
      ∀ shown ∈ print_flex_header o flex, shown.1 ≠ .frag_off → shown ∈ tree := by
  obtain ⟨flex, hparse, hprint⟩ := print_parsed o h1 h2 h3
  refine ⟨flex, _, hparse, dissect_eq h3, ?_⟩
  rw [hprint]
  simp

/-- The header of the join that `client.c` sends. -/
def joinHeader : Block :=
  [0x10, 0x01, 0x01, 128, 0x00, 64, 0x12, 0x34, 0x77, 0x77, 0xA3, 0x65] ++ List.replicate 21 49 ++
    List.replicate 21 55 ++ [0x00, 113, 0x12, 0x34, 0x56, 0x78, 0x98, 0x76, 0x54, 0x32]

/-- The header of the join, without its flags. -/
def plainHeader : Block :=
  [0x10, 0x01, 0x01, 128, 0x00, 64, 0x12, 0x34, 0x77, 0x77, 0x03, 0x65] ++ List.replicate 21 49 ++
    List.replicate 21 55 ++ [0x00, 113, 0x12, 0x34, 0x56, 0x78, 0x98, 0x76, 0x54, 0x32]

/-- The decoders agree on it. -/
theorem agree_plain : Agree .little plainHeader 64 :=
  (agree_iff .little (by decide) (by decide) (by decide)).mpr (by unfold FlagsClear; decide)

/-- **A header on which they differ**: the join of the client sets two flags. -/
theorem not_agree : ¬ ∀ hdr : Block, headerSize ≤ hdr.length → Agree .little hdr hdr.length := by
  intro h
  obtain ⟨flex, tree, hparse, htree, hall⟩ := h joinHeader (by decide)
  have hp : parse_flex_header .little joinHeader joinHeader.length =
      (SUCCESS, some (FlexHdr.ofBytes .little joinHeader)) := by rfl
  obtain rfl : _ = flex := by simpa using hp.symm.trans hparse
  obtain rfl := Option.some.inj ((dissect_eq (by decide)).symm.trans htree)
  have hoff := hall (.frag_off, .num 0x365) (by decide)
  exact absurd hoff (by decide)

end Versatile.Wireshark
