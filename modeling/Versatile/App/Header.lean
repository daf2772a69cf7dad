import Versatile.Lib.Bytes

/-!
# The Flex header of the applications

`proto_flex.h` and `process_flex.c`: the header of 64 bytes, how it is parsed from a buffer,
and the values `print_flex_header` shows of it. The structure has no padding, so the header
is copied as it stands; a field of more than one byte is in network order, which `ntohs` and
`ntohl` turn into the one of the host.
-/

namespace Versatile.App

open Bytes

/-- The fields of the header, in the order of the structure. The flags and the fragment
offset share one word. -/
inductive Field where
  | version
  | packet_type
  | hash_type
  | hop_limit
  | header_len
  | check
  | packet_id
  | ptc
  | df
  | mf
  | frag_off
  | sflex_id
  | dflex_id
  | packet_len
  | seq
  | ack
  deriving DecidableEq, Repr

/-- What a field shows: a number, or the characters of an identifier. -/
inductive FieldValue where
  | num (n : Nat)
  | chars (bs : List UInt8)
  deriving DecidableEq, Repr

/-- `FLEX_ID_LENGTH`. -/
def FLEX_ID_LENGTH : Nat := 21

/-- `FLEX_PTC`, `FLEX_DF`, `FLEX_MF` and `FLEX_OFFSET`. -/
def FLEX_PTC : Nat := 0x8000
def FLEX_DF : Nat := 0x4000
def FLEX_MF : Nat := 0x2000
def FLEX_OFFSET : Nat := 0x1FFF

/-- `struct flexhdr`. A word of network order is kept as the host reads its bytes. -/
structure FlexHdr where
  version : UInt8
  packet_type : UInt8
  hash_type : UInt8
  hop_limit : UInt8
  header_len : UInt16
  check : UInt16
  packet_id : UInt16
  frag_off : UInt16
  sflex_id : List UInt8
  dflex_id : List UInt8
  packet_len : UInt16
  seq : UInt32
  ack : UInt32
  deriving DecidableEq, Repr

/-- `sizeof(struct flexhdr)`. -/
def headerSize : Nat := 64

/-- The structure whose memory holds some bytes. -/
def FlexHdr.ofBytes (o : Order) (bs : List UInt8) : FlexHdr where
  version := UInt8.ofNat (readNat o bs 0 1)
  packet_type := UInt8.ofNat (readNat o bs 1 1)
  hash_type := UInt8.ofNat (readNat o bs 2 1)
  hop_limit := UInt8.ofNat (readNat o bs 3 1)
  header_len := UInt16.ofNat (readNat o bs 4 2)
  check := UInt16.ofNat (readNat o bs 6 2)
  packet_id := UInt16.ofNat (readNat o bs 8 2)
  frag_off := UInt16.ofNat (readNat o bs 10 2)
  sflex_id := slice bs 12 FLEX_ID_LENGTH
  dflex_id := slice bs 33 FLEX_ID_LENGTH
  packet_len := UInt16.ofNat (readNat o bs 54 2)
  seq := UInt32.ofNat (readNat o bs 56 4)
  ack := UInt32.ofNat (readNat o bs 60 4)

/-- `ntohs`: the two bytes of a word, read in network order. -/
def ntohs (o : Order) (x : UInt16) : Nat := value .big (encode o 2 x.toNat)

/-- `ntohl`: the four bytes of a word, read in network order. -/
def ntohl (o : Order) (x : UInt32) : Nat := value .big (encode o 4 x.toNat)

/-- `SUCCESS` and `FAILURE`. -/
def SUCCESS : Int := 0
def FAILURE : Int := -1

/-- `parse_flex_header`: its result, and the header it fills. The test compares with a
`size_t`, so a negative length passes it. `none` for the header: none was allocated, or the
copy leaves the buffer. Before it returns a header it prints the `message_in_parse`. -/
def parse_flex_header (o : Order) (hdr : Block) (hdr_len : Int) : Int × Option FlexHdr :=
  if hdr_len % 2 ^ 64 < headerSize then (FAILURE, none)
  else (SUCCESS, (hdr.read 0 headerSize).map (FlexHdr.ofBytes o))

/-- The text `parse_flex_header` prints with `%s`: what lies behind the header, up to a zero
byte. `none`: the block has none there, and is read past its end. -/
def message_in_parse (hdr : Block) : Option (List UInt8) :=
  let hdr := hdr.drop headerSize
  if 0 ∈ hdr then some (hdr.takeWhile (· ≠ 0)) else none

/-- A call of `parse_flex_header` that comes back with a header. -/
structure Parses (o : Order) (hdr : Block) (hdr_len : Int) (flex : FlexHdr) : Prop where
  success : parse_flex_header o hdr hdr_len = (SUCCESS, some flex)
  printed : (message_in_parse hdr).isSome

/-- The values `print_flex_header` shows, line by line: what a `printf` is given, or what a
`switch` picks the text by. The name of the packet type is read from a table. -/
def print_flex_header (o : Order) (flex : FlexHdr) : List (Field × FieldValue) :=
  [(.version, .num flex.version.toNat),
    (.hash_type, .num flex.hash_type.toNat),
    (.hop_limit, .num flex.hop_limit.toNat),
    (.header_len, .num (ntohs o flex.header_len)),
    (.check, .num (ntohs o flex.check)),
    (.packet_id, .num (ntohs o flex.packet_id)),
    (.ptc, .num ((ntohs o flex.frag_off &&& 0x8000) >>> 15)),
    (.df, .num ((ntohs o flex.frag_off &&& 0x4000) >>> 14)),
    (.mf, .num ((ntohs o flex.frag_off &&& 0x2000) >>> 13)),
    (.frag_off, .num (ntohs o flex.frag_off &&& 0x1fff)),
    (.sflex_id, .chars flex.sflex_id),
    (.dflex_id, .chars flex.dflex_id),
    (.packet_len, .num (ntohs o flex.packet_len)),
    (.seq, .num (ntohl o flex.seq)),
    (.ack, .num (ntohl o flex.ack))]

theorem message_in_parse_isSome {hdr : Block} :
    (message_in_parse hdr).isSome ↔ 0 ∈ hdr.drop headerSize := by
  unfold message_in_parse
  dsimp only
  split <;> simp [*]

/-! ## What is shown of a buffer -/

theorem ntohs_read (o : Order) {bs : List UInt8} {off : Nat} (h : off + 2 ≤ bs.length) :
    ntohs o (UInt16.ofNat (readNat o bs off 2)) = readNat .big bs off 2 := by
  rw [ntohs, encode_read16 o h, readNat]

theorem ntohl_read (o : Order) {bs : List UInt8} {off : Nat} (h : off + 4 ≤ bs.length) :
    ntohl o (UInt32.ofNat (readNat o bs off 4)) = readNat .big bs off 4 := by
  rw [ntohl, encode_read32 o h, readNat]

theorem byte_read (o : Order) {bs : List UInt8} {off : Nat} (h : off + 1 ≤ bs.length) :
    (UInt8.ofNat (readNat o bs off 1)).toNat = readNat .big bs off 1 := by
  have hb : bs[off]? = some bs[off] := List.getElem?_eq_getElem (by omega)
  rw [readNat_one o hb, readNat_one .big hb, UInt8.ofNat_toNat]

/-- **What is shown of a header parsed from a buffer**, by the bytes of the buffer. -/
theorem print_parsed (o : Order) {hdr : Block} {hdr_len : Int} (h1 : headerSize ≤ hdr_len)
    (h2 : hdr_len < 2 ^ 31) (h3 : headerSize ≤ hdr.length) :
    ∃ flex, parse_flex_header o hdr hdr_len = (SUCCESS, some flex) ∧
      print_flex_header o flex =
        [(.version, .num (readNat .big hdr 0 1)),
          (.hash_type, .num (readNat .big hdr 2 1)),
          (.hop_limit, .num (readNat .big hdr 3 1)),
          (.header_len, .num (readNat .big hdr 4 2)),
          (.check, .num (readNat .big hdr 6 2)),
          (.packet_id, .num (readNat .big hdr 8 2)),
          (.ptc, .num ((readNat .big hdr 10 2 &&& 0x8000) >>> 15)),
          (.df, .num ((readNat .big hdr 10 2 &&& 0x4000) >>> 14)),
          (.mf, .num ((readNat .big hdr 10 2 &&& 0x2000) >>> 13)),
          (.frag_off, .num (readNat .big hdr 10 2 &&& 0x1fff)),
          (.sflex_id, .chars (slice hdr 12 FLEX_ID_LENGTH)),
          (.dflex_id, .chars (slice hdr 33 FLEX_ID_LENGTH)),
          (.packet_len, .num (readNat .big hdr 54 2)),
          (.seq, .num (readNat .big hdr 56 4)),
          (.ack, .num (readNat .big hdr 60 4))] := by
  rw [headerSize] at h1 h3
  have hread : hdr.read 0 headerSize = some (slice hdr 0 headerSize) :=
    Block.read_eq_some.mpr ⟨by rw [headerSize]; omega, rfl⟩
  have hlen : (slice hdr 0 headerSize).length = 64 := slice_length (by rw [headerSize]; omega)
  refine ⟨FlexHdr.ofBytes o (slice hdr 0 headerSize), ?_, ?_⟩
  · rw [parse_flex_header, if_neg (by rw [headerSize]; omega), hread]
    rfl
  · have hslice : ∀ off n, off + n ≤ 64 →
        slice (slice hdr 0 headerSize) off n = slice hdr off n := by
      intro off n hoff
      rw [slice_slice (by rw [headerSize]; exact hoff), Nat.zero_add]
    have hnat : ∀ off n, off + n ≤ 64 →
        readNat .big (slice hdr 0 headerSize) off n = readNat .big hdr off n := by
      intro off n hoff
      rw [readNat, readNat, hslice off n hoff]
    have h8 : ∀ off, off + 1 ≤ 64 →
        (UInt8.ofNat (readNat o (slice hdr 0 headerSize) off 1)).toNat =
          readNat .big hdr off 1 := by
      intro off hoff
      rw [byte_read o (by rw [hlen]; exact hoff), hnat off 1 hoff]
    have h16 : ∀ off, off + 2 ≤ 64 →
        ntohs o (UInt16.ofNat (readNat o (slice hdr 0 headerSize) off 2)) =
          readNat .big hdr off 2 := by
      intro off hoff
      rw [ntohs_read o (by rw [hlen]; exact hoff), hnat off 2 hoff]
    have h32 : ∀ off, off + 4 ≤ 64 →
        ntohl o (UInt32.ofNat (readNat o (slice hdr 0 headerSize) off 4)) =
          readNat .big hdr off 4 := by
      intro off hoff
      rw [ntohl_read o (by rw [hlen]; exact hoff), hnat off 4 hoff]
    simp only [print_flex_header, FlexHdr.ofBytes, h8 0 (by decide), h8 2 (by decide),
      h8 3 (by decide), h16 4 (by decide), h16 6 (by decide), h16 8 (by decide), h16 10 (by decide),
      hslice 12 FLEX_ID_LENGTH (by decide), hslice 33 FLEX_ID_LENGTH (by decide),
      h16 54 (by decide), h32 56 (by decide), h32 60 (by decide)]

end Versatile.App
