import Versatile.Lib.Bytes

/-!
# The FlexID header and its codec

`flexidhdr_fn.c`: how a header is set up, and how it is written to a buffer and read back.
The scalar fields of `Flexhdr` occupy the first 16 bytes of the structure, without padding,
in the byte order of the host; `serialize` copies them as they are and puts the two
addresses behind them.

A block that `malloc` returns has a content of its own, which is a parameter here.
-/

namespace Versatile.Flexid

open Bytes

/-- The scalar fields of `Flexhdr`, in the order of the structure. -/
structure Scalars where
  version : UInt8
  packet_type : UInt8
  hash_type : UInt8
  hash_len : UInt8
  packet_len : UInt16
  checksum : UInt16
  packet_id : UInt16
  frag_off : UInt16
  header_len : UInt16
  hop_limit : UInt8
  reserved : UInt8
  deriving DecidableEq, Repr

/-- `Flexhdr`: the scalar fields, and the blocks of the two addresses. -/
structure Flexhdr extends Scalars where
  saddr : Block
  daddr : Block
  deriving DecidableEq, Repr

/-- `sizeof(Flexhdr) - 2 * sizeof(uint8_t*)`: where the scalar fields end. -/
def fixedLen : Nat := 16

/-! ## The scalar fields in memory -/

/-- The `uint8_t` at an offset. -/
def read8 (o : Order) (bs : List UInt8) (off : Nat) : UInt8 := UInt8.ofNat (readNat o bs off 1)

/-- The `uint16_t` at an offset. -/
def read16 (o : Order) (bs : List UInt8) (off : Nat) : UInt16 := UInt16.ofNat (readNat o bs off 2)

/-- The scalar fields as they stand in memory. -/
def Scalars.bytes (o : Order) (h : Scalars) : List UInt8 :=
  encode o 1 h.version.toNat ++ (encode o 1 h.packet_type.toNat ++
    (encode o 1 h.hash_type.toNat ++ (encode o 1 h.hash_len.toNat ++
      (encode o 2 h.packet_len.toNat ++ (encode o 2 h.checksum.toNat ++
        (encode o 2 h.packet_id.toNat ++ (encode o 2 h.frag_off.toNat ++
          (encode o 2 h.header_len.toNat ++ (encode o 1 h.hop_limit.toNat ++
            (encode o 1 h.reserved.toNat ++ []))))))))))

/-- The scalar fields that some bytes in memory stand for. -/
def Scalars.ofBytes (o : Order) (bs : List UInt8) : Scalars where
  version := read8 o bs 0
  packet_type := read8 o bs 1
  hash_type := read8 o bs 2
  hash_len := read8 o bs 3
  packet_len := read16 o bs 4
  checksum := read16 o bs 6
  packet_id := read16 o bs 8
  frag_off := read16 o bs 10
  header_len := read16 o bs 12
  hop_limit := read8 o bs 14
  reserved := read8 o bs 15

@[simp] theorem Scalars.bytes_length (o : Order) (h : Scalars) :
    (h.bytes o).length = fixedLen := by
  simp [Scalars.bytes, fixedLen]

/-- **The memory of the scalar fields tells them.** -/
theorem Scalars.ofBytes_bytes (o : Order) (h : Scalars) : Scalars.ofBytes o (h.bytes o) = h := by
  simp only [Scalars.ofBytes, Scalars.bytes, read8, read16, readNat_skip, readNat_self,
    ofNat8_toNat, ofNat16_toNat, Nat.reduceLeDiff, Nat.reduceSub, Nat.le_refl, Nat.sub_self]

/-- **The scalar fields tell their memory.** -/
theorem Scalars.bytes_ofBytes (o : Order) {bs : List UInt8} (h : bs.length = fixedLen) :
    (Scalars.ofBytes o bs).bytes o = bs := by
  have h8 : ∀ off, off + 1 ≤ 16 → encode o 1 (read8 o bs off).toNat = slice bs off 1 :=
    fun off hoff => encode_read8 o (by rwa [h])
  have h16 : ∀ off, off + 2 ≤ 16 → encode o 2 (read16 o bs off).toNat = slice bs off 2 :=
    fun off hoff => encode_read16 o (by rwa [h])
  have hall : slice bs 0 16 = bs := by rw [slice_zero, List.take_of_length_le (by rw [h, fixedLen])]
  -- the fields stand one behind the other, from the last one on
  simp only [Scalars.bytes, Scalars.ofBytes]
  rw [h8 0 (by omega), h8 1 (by omega), h8 2 (by omega), h8 3 (by omega), h16 4 (by omega),
    h16 6 (by omega), h16 8 (by omega), h16 10 (by omega), h16 12 (by omega), h8 14 (by omega),
    h8 15 (by omega), List.append_nil, ← slice_add bs 14 1 1, ← slice_add bs 12 2 2,
    ← slice_add bs 10 2 4, ← slice_add bs 8 2 6, ← slice_add bs 6 2 8, ← slice_add bs 4 2 10,
    ← slice_add bs 3 1 12, ← slice_add bs 2 1 13, ← slice_add bs 1 1 14, ← slice_add bs 0 1 15]
  exact hall

/-! ## The functions -/

/-- What the functions return when they went through. -/
def SUCCESS : Int := 0

/-- `flexidhdr_init`: what it returns, and the header. The scalar fields it does not assign, and
the addresses, are whatever the blocks hold. It returns the same for every length; where
`2 * len` overflows, the low 16 bits are those of the product. -/
def flexidhdr_init (heap : Scalars) (junk : Nat → UInt8) (len : Nat) : Int × Flexhdr :=
  (SUCCESS,
    { heap with
      hash_len := UInt8.ofNat len
      header_len := UInt16.ofNat (fixedLen + 2 * len)
      saddr := (List.range len).map junk
      daddr := (List.range len).map junk })

/-- `serialize`, into the block that `malloc` returned; `none` if an access leaves a block. -/
def serialize (o : Order) (buffer : Block) (fhdr : Flexhdr) : Option Block := do
  let buffer ← buffer.write 0 (fhdr.bytes o)
  let saddr ← fhdr.saddr.read 0 fhdr.hash_len.toNat
  let buffer ← buffer.write fixedLen saddr
  let daddr ← fhdr.daddr.read 0 fhdr.hash_len.toNat
  buffer.write (fixedLen + fhdr.hash_len.toNat) daddr

/-- `deserialize`: what it returns, and the header; `none` if an access leaves the buffer. -/
def deserialize (o : Order) (buffer : Block) : Int × Option Flexhdr :=
  (SUCCESS, do
    let fixed ← buffer.read 0 fixedLen
    let scalars := Scalars.ofBytes o fixed
    let saddr ← buffer.read fixedLen scalars.hash_len.toNat
    let daddr ← buffer.read (fixedLen + scalars.hash_len.toNat) scalars.hash_len.toNat
    return { scalars with saddr, daddr })

/-- The number of bytes a header takes when it is written. -/
def Flexhdr.size (h : Flexhdr) : Nat := fixedLen + 2 * h.hash_len.toNat

/-- The bytes of a header when it is written. -/
def Flexhdr.wire (o : Order) (h : Flexhdr) : List UInt8 := h.bytes o ++ h.saddr ++ h.daddr

/-- The two addresses are as long as the header says. -/
def Flexhdr.Fits (h : Flexhdr) : Prop :=
  h.saddr.length = h.hash_len.toNat ∧ h.daddr.length = h.hash_len.toNat

theorem Flexhdr.wire_length {h : Flexhdr} (hfits : h.Fits) (o : Order) :
    (h.wire o).length = h.size := by
  rw [wire, List.length_append, List.length_append, Scalars.bytes_length, hfits.1, hfits.2, size]
  omega

/-- **What `serialize` writes**, into a block with room for it. -/
theorem serialize_eq (o : Order) {buffer : Block} {h : Flexhdr} (hfits : h.Fits)
    (hroom : h.size ≤ buffer.length) : serialize o buffer h = some (buffer.fill (h.wire o)) := by
  have hlen := Flexhdr.wire_length hfits o
  obtain ⟨hs, hd⟩ := hfits
  have hsaddr : h.saddr.read 0 h.hash_len.toNat = some h.saddr := by
    rw [← hs]; exact h.saddr.read_all
  have hdaddr : h.daddr.read 0 h.hash_len.toNat = some h.daddr := by
    rw [← hd]; exact h.daddr.read_all
  rw [Flexhdr.wire, List.length_append] at hlen
  -- each part is written behind the ones before it
  have h1 : buffer.write 0 (h.bytes o) = some (buffer.fill (h.bytes o)) := by
    have hroom1 : ([] ++ h.bytes o).length ≤ buffer.length := by
      rw [List.length_append] at hlen
      simp only [List.nil_append]
      omega
    have hfront : (buffer.fill []).write 0 (h.bytes o) = some (buffer.fill ([] ++ h.bytes o)) :=
      Block.write_fill rfl hroom1
    simpa using hfront
  have h2 : (buffer.fill (h.bytes o)).write fixedLen h.saddr =
      some (buffer.fill (h.bytes o ++ h.saddr)) :=
    Block.write_fill (h.bytes_length o).symm (by omega)
  have h3 : (buffer.fill (h.bytes o ++ h.saddr)).write (fixedLen + h.hash_len.toNat) h.daddr =
      some (buffer.fill (h.wire o)) := by
    refine Block.write_fill ?_ ?_
    · rw [List.length_append, Scalars.bytes_length, hs]
    · rw [List.length_append]; omega
  simp only [serialize, h1, hsaddr, h2, hdaddr, h3, Option.bind_eq_bind, Option.bind_some]

/-- **What `deserialize` reads**, from a buffer that begins with a header as it is written. -/
theorem deserialize_wire (o : Order) {buffer : Block} {h : Flexhdr} (hfits : h.Fits) :
    deserialize o (buffer.fill (h.wire o)) = (SUCCESS, some h) := by
  have hlen := Flexhdr.wire_length hfits o
  have hsize : h.size = fixedLen + h.hash_len.toNat + h.hash_len.toNat := by
    rw [Flexhdr.size]; omega
  have hfixed : (buffer.fill (h.wire o)).read 0 fixedLen = some (h.bytes o) := by
    rw [Block.read_fill (by omega), Flexhdr.wire, List.append_assoc, slice_zero,
      ← h.bytes_length o, List.take_left]
  have hsaddr : (buffer.fill (h.wire o)).read fixedLen h.hash_len.toNat = some h.saddr := by
    rw [Block.read_fill (by omega), Flexhdr.wire, ← h.bytes_length o, ← hfits.1, slice_middle]
  have hdaddr : (buffer.fill (h.wire o)).read (fixedLen + h.hash_len.toNat) h.hash_len.toNat =
      some h.daddr := by
    have hfront : fixedLen + h.hash_len.toNat = (h.bytes o ++ h.saddr).length := by
      rw [List.length_append, Scalars.bytes_length, hfits.1]
    have hend := slice_middle (h.bytes o ++ h.saddr) h.daddr []
    rw [Block.read_fill (by omega), Flexhdr.wire, hfront, ← hfits.2]
    rw [List.append_nil] at hend
    rw [hend]
  simp only [deserialize, hfixed, Scalars.ofBytes_bytes, hsaddr, hdaddr, Option.bind_eq_bind,
    Option.bind_some]
  rfl

/-- **A header that was read is written as it stood.** -/
theorem wire_deserialize (o : Order) {b : Block} {n : UInt8} (hn : b[3]? = some n)
    (hlen : fixedLen + 2 * n.toNat ≤ b.length) :
    ∃ h, deserialize o b = (SUCCESS, some h) ∧ h.Fits ∧ h.hash_len = n ∧
      h.wire o = b.take (fixedLen + 2 * n.toNat) := by
  have hfixed : b.read 0 fixedLen = some (slice b 0 fixedLen) :=
    Block.read_eq_some.mpr ⟨by omega, rfl⟩
  have hfixedLen : (slice b 0 fixedLen).length = fixedLen := slice_length (by omega)
  -- the length byte lies among the scalar fields
  have hhash : (Scalars.ofBytes o (slice b 0 fixedLen)).hash_len = n := by
    have hn' : (slice b 0 fixedLen)[3]? = some n := by
      rw [slice_zero, List.getElem?_take_of_lt (by decide), hn]
    have hread : readNat o (slice b 0 fixedLen) 3 1 = n.toNat := readNat_one o hn'
    calc (Scalars.ofBytes o (slice b 0 fixedLen)).hash_len
        = UInt8.ofNat (readNat o (slice b 0 fixedLen) 3 1) := rfl
      _ = n := by rw [hread, UInt8.ofNat_toNat]
  have hsaddr : b.read fixedLen n.toNat = some (slice b fixedLen n.toNat) :=
    Block.read_eq_some.mpr ⟨by omega, rfl⟩
  have hdaddr : b.read (fixedLen + n.toNat) n.toNat =
      some (slice b (fixedLen + n.toNat) n.toNat) := Block.read_eq_some.mpr ⟨by omega, rfl⟩
  refine ⟨{ Scalars.ofBytes o (slice b 0 fixedLen) with
    saddr := slice b fixedLen n.toNat, daddr := slice b (fixedLen + n.toNat) n.toNat }, ?_, ?_,
    hhash, ?_⟩
  · simp only [deserialize, hfixed, hhash, hsaddr, hdaddr, Option.bind_eq_bind, Option.bind_some]
    rfl
  · rw [Flexhdr.Fits, hhash]
    exact ⟨slice_length (by omega), slice_length (by omega)⟩
  · rw [Flexhdr.wire, Scalars.bytes_ofBytes o hfixedLen, ← slice_zero]
    have hjoin := slice_add b 0 fixedLen (n.toNat + n.toNat)
    rw [Nat.zero_add, slice_add b fixedLen n.toNat n.toNat, ← List.append_assoc] at hjoin
    rw [← hjoin, Nat.two_mul]

end Versatile.Flexid
