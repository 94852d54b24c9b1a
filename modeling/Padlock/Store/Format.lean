/-
This file models the on-disk format of a store: the byte order, the rounding to
cipher blocks, and the 4096-byte header with its encoder and its decoder.

Sizes and offsets keep the widths of the source. `align16` masks with `~15u`, an
unsigned int, so the mask has no bits above the low 32 and the result is the
rounding up of the length only as long as that fits 32 bits.
-/

import Padlock.Library.LittleEndian
import Padlock.Library.Span

namespace Padlock

/-- A string of C: what stands before the terminating NUL. -/
structure CString where
  bytes : List UInt8
  nulFree : 0 ∉ bytes
  deriving DecidableEq

/-- A value handed to the library with its length as a `uint32_t`. -/
structure Value where
  bytes : List UInt8
  lengthLt : bytes.length < 2 ^ 32
  deriving DecidableEq

/-- A byte array of fixed size. -/
@[ext] structure Bytes (size : Nat) where
  toList : List UInt8
  lengthEq : toList.length = size
  deriving DecidableEq

/-- A cleared buffer. -/
def zeros (count : Nat) : List UInt8 := List.replicate count 0

@[simp] theorem length_zeros (count : Nat) : (zeros count).length = count :=
  List.length_replicate

theorem zeros_add (first second : Nat) : zeros (first + second) = zeros first ++ zeros second :=
  List.replicate_add ..

/-- A cleared array. -/
def Bytes.cleared (size : Nat) : Bytes size := ⟨zeros size, length_zeros size⟩

/-- Put data into an array; refused when it would end past the array. -/
def Bytes.store {size : Nat} (buffer : Bytes size) (offset : Nat) (data : List UInt8) :
    Option (Bytes size) :=
  if inside : offset + data.length ≤ size then
    some ⟨Span.write 0 offset data buffer.toList, by
      rw [Span.length_write 0 (by rw [buffer.lengthEq]; exact inside), buffer.lengthEq]⟩
  else none

/-- Take a range out of an array; refused when the range ends past the array. -/
def Bytes.load {size : Nat} (buffer : Bytes size) (offset count : Nat) : Option (List UInt8) :=
  if offset + count ≤ size then some (Span.read offset count buffer.toList) else none

section Access

variable {size offset count : Nat} {buffer stored : Bytes size} {data : List UInt8}

theorem Bytes.load_eq_some :
    buffer.load offset count = some data ↔
      offset + count ≤ size ∧ Span.read offset count buffer.toList = data := by
  unfold Bytes.load
  split
  · rename_i inside
    rw [Option.some.injEq, and_iff_right inside]
  · rename_i beyond
    exact iff_of_false nofun fun found => beyond found.1

theorem Bytes.store_eq_none : buffer.store offset data = none ↔ size < offset + data.length := by
  unfold Bytes.store
  split
  · rename_i inside
    exact iff_of_false (Option.some_ne_none _) (Nat.not_lt.mpr inside)
  · rename_i beyond
    exact iff_of_true rfl (Nat.not_le.mp beyond)

theorem Bytes.store_inside (storedEq : buffer.store offset data = some stored) :
    offset + data.length ≤ size := by
  apply Nat.not_lt.mp
  rw [← Bytes.store_eq_none, storedEq]
  exact Option.some_ne_none _

end Access

/-- Part of a byte array. -/
def subarray {size : Nat} (buffer : Bytes size) (offset count : Nat)
    (inside : offset + count ≤ size) : Bytes count :=
  ⟨Span.read offset count buffer.toList,
    Span.length_read_of_le (by rw [buffer.lengthEq]; exact inside)⟩

theorem subarray_eq {size offset count : Nat} {buffer : Bytes size}
    {inside : offset + count ≤ size} {part : Bytes count}
    (same : Span.read offset count buffer.toList = part.toList) :
    subarray buffer offset count inside = part :=
  Bytes.ext same

/-! ### Constants -/

def padlockHeaderSize : Nat := 4096
def padlockSaltSize : Nat := 16
def padlockIvSize : Nat := 16
def padlockXtsKeySize : Nat := 64
def padlockSecretSize : Nat := 72
def padlockMinSize : Nat := 8192

/-- `"PADLOCK"` -/
def padlockMagic : List UInt8 := [0x50, 0x41, 0x44, 0x4c, 0x4f, 0x43, 0x4b]

/-- `"PLSECRET"` -/
def padlockSecretMagic : List UInt8 := [0x50, 0x4c, 0x53, 0x45, 0x43, 0x52, 0x45, 0x54]

/-! ### Rounding and byte order -/

def align16 (value : UInt64) : UInt64 :=
  (value + 15) &&& (~~~(15 : UInt32)).toUInt64

def putU32 (value : UInt32) : List UInt8 :=
  [(value &&& 0xff).toUInt8, ((value >>> 8) &&& 0xff).toUInt8,
    ((value >>> 16) &&& 0xff).toUInt8, ((value >>> 24) &&& 0xff).toUInt8]

def getU32 (source : List UInt8) : UInt32 :=
  (source.getD 0 0).toUInt32 ||| (source.getD 1 0).toUInt32 <<< 8 |||
    (source.getD 2 0).toUInt32 <<< 16 ||| (source.getD 3 0).toUInt32 <<< 24

def putU64 (value : UInt64) : List UInt8 :=
  (List.range 8).map fun index => ((value >>> UInt64.ofNat (index * 8)) &&& 0xff).toUInt8

def getU64 (source : List UInt8) : UInt64 :=
  (List.range 8).foldl
    (fun value index => value ||| (source.getD index 0).toUInt64 <<< UInt64.ofNat (index * 8)) 0

/-- A length rounded up to whole cipher blocks. -/
def padded (length : Nat) : Nat := (length + 15) / 16 * 16

theorem le_padded (length : Nat) : length ≤ padded length := by
  unfold padded
  omega

theorem padded_lt (length : Nat) : padded length < length + 16 := by
  unfold padded
  omega

theorem dvd_padded (length : Nat) : 16 ∣ padded length :=
  Nat.dvd_mul_left ..

theorem padded_pos {length : Nat} (positive : 0 < length) : 16 ≤ padded length := by
  unfold padded
  omega

theorem align16_toNat (value : UInt64) :
    (align16 value).toNat = (value.toNat + 15) % 2 ^ 32 / 16 * 16 := by
  have mask : (~~~(15 : UInt32)).toUInt64.toNat = (2 ^ 28 - 1) * 2 ^ 4 := by decide
  have fifteen : UInt64.toNat 15 = 15 := rfl
  rw [align16, UInt64.toNat_and, mask, UInt64.toNat_add, fifteen, show 16 = 2 ^ 4 from rfl]
  apply Nat.eq_of_testBit_eq
  intro bit
  rw [Nat.testBit_and, Nat.testBit_mul_two_pow, Nat.testBit_mul_two_pow,
    Nat.testBit_two_pow_sub_one, Nat.testBit_div_two_pow, Nat.testBit_mod_two_pow,
    Nat.testBit_mod_two_pow]
  by_cases low : bit < 4
  · simp [show ¬ 4 ≤ bit by omega]
  · rw [Nat.sub_add_cancel (by omega)]
    by_cases high : bit < 32
    · simp [high, show bit < 64 by omega, show bit - 4 < 28 by omega, show 4 ≤ bit by omega]
    · simp [high, show ¬ bit - 4 < 28 by omega]

/-- The rounding is exact while the length and its padding fit 32 bits. -/
theorem align16_toNat_of_le {value : UInt64} (small : value.toNat ≤ 2 ^ 32 - 16) :
    (align16 value).toNat = padded value.toNat := by
  rw [align16_toNat, Nat.mod_eq_of_lt (by omega), padded]

theorem lt_sixteen_iff (value : UInt64) : value < 16 ↔ value.toNat < 16 :=
  UInt64.lt_iff_toNat_lt

theorem align16_lt (value : UInt64) : (align16 value).toNat < 2 ^ 32 := by
  rw [align16_toNat]
  omega

theorem dvd_align16 (value : UInt64) : 16 ∣ (align16 value).toNat := by
  rw [align16_toNat]
  exact Nat.dvd_mul_left ..

theorem and_255 (value : Nat) : value &&& 255 = value % 256 :=
  Nat.and_two_pow_sub_one_eq_mod value 8

theorem putU32_eq (value : UInt32) : putU32 value = LittleEndian.encode 4 value.toNat := by
  simp only [putU32, LittleEndian.encode, List.cons.injEq, and_true]
  refine ⟨?_, ?_, ?_, ?_⟩ <;> apply UInt8.toNat_inj.mp <;>
    simp only [UInt32.toNat_toUInt8, UInt32.toNat_and, UInt32.toNat_shiftRight, UInt8.toNat_ofNat',
      and_255, Nat.shiftRight_eq_div_pow, UInt32.reduceToNat, Nat.reduceMod, Nat.reducePow] <;>
    omega

theorem putU64_eq (value : UInt64) : putU64 value = LittleEndian.encode 8 value.toNat := by
  simp only [putU64, List.range, List.range.loop, List.map_cons, List.map_nil,
    LittleEndian.encode, List.cons.injEq, and_true]
  refine ⟨?_, ?_, ?_, ?_, ?_, ?_, ?_, ?_⟩ <;> apply UInt8.toNat_inj.mp <;>
    simp only [UInt64.toNat_toUInt8, UInt64.toNat_and, UInt64.toNat_shiftRight, UInt8.toNat_ofNat',
      and_255, Nat.shiftRight_eq_div_pow, UInt64.toNat_ofNat', UInt64.reduceToNat, Nat.reduceMul,
      Nat.reduceMod, Nat.reducePow] <;>
    omega

@[simp] theorem length_putU32 (value : UInt32) : (putU32 value).length = 4 := rfl

@[simp] theorem length_putU64 (value : UInt64) : (putU64 value).length = 8 := rfl

theorem getU32_toNat {source : List UInt8} (full : source.length = 4) :
    (getU32 source).toNat = LittleEndian.decode source := by
  obtain ⟨b0, b1, b2, b3, rfl⟩ := List.length_eq_four.mp full
  have h0 := b0.toNat_lt
  have h1 := b1.toNat_lt
  have h2 := b2.toNat_lt
  have h3 := b3.toNat_lt
  have shift (byte : UInt8) (amount : UInt32) (small : amount.toNat ≤ 24) :
      (byte.toUInt32 <<< amount).toNat = byte.toNat <<< amount.toNat := by
    have byteLt := byte.toNat_lt
    have bound : byte.toNat * 2 ^ amount.toNat < 2 ^ 8 * 2 ^ 24 :=
      Nat.mul_lt_mul_of_lt_of_le byteLt (Nat.pow_le_pow_right (by omega) small) (by omega)
    rw [UInt32.toNat_shiftLeft, UInt8.toNat_toUInt32,
      Nat.mod_eq_of_lt (by omega : amount.toNat < 32),
      Nat.shiftLeft_eq, Nat.mod_eq_of_lt (by omega)]
  have join (low : Nat) (byte : UInt8) (width : Nat) (small : low < 2 ^ width) :
      low ||| byte.toNat <<< width = low + byte.toNat * 2 ^ width :=
    LittleEndian.or_shiftLeft small _
  simp only [getU32, LittleEndian.decode, List.getD_cons_zero, List.getD_cons_succ, UInt32.toNat_or]
  rw [shift b1 8 (by decide), shift b2 16 (by decide), shift b3 24 (by decide),
    UInt8.toNat_toUInt32]
  simp only [UInt32.reduceToNat]
  rw [join _ b1 8 (by omega), join _ b2 16 (by omega), join _ b3 24 (by omega)]
  omega

/-- One round of `getU64`: the byte lands above the bytes already joined. -/
theorem getU64_round (value : UInt64) (byte : UInt8) {index : Nat} (inside : index < 8)
    (small : value.toNat < 2 ^ (index * 8)) :
    (value ||| byte.toUInt64 <<< UInt64.ofNat (index * 8)).toNat =
      value.toNat + byte.toNat * 2 ^ (index * 8) := by
  have byteLt := byte.toNat_lt
  have amount : (UInt64.ofNat (index * 8)).toNat % 64 = index * 8 := by
    rw [UInt64.toNat_ofNat']
    omega
  have bound : byte.toNat * 2 ^ (index * 8) < 2 ^ 8 * 2 ^ 56 :=
    Nat.mul_lt_mul_of_lt_of_le byteLt (Nat.pow_le_pow_right (by omega) (by omega)) (by omega)
  rw [UInt64.toNat_or, UInt64.toNat_shiftLeft, UInt8.toNat_toUInt64, amount,
    Nat.mod_eq_of_lt (by rw [Nat.shiftLeft_eq]; omega), LittleEndian.or_shiftLeft small]

theorem getU64_toNat {source : List UInt8} (full : source.length = 8) :
    (getU64 source).toNat = LittleEndian.decode source := by
  -- the invariant of the loop: after `count` rounds the value is the number of the first bytes
  have rounds (count : Nat) (inside : count ≤ 8) :
      ((List.range count).foldl (fun value index =>
        value ||| (source.getD index 0).toUInt64 <<< UInt64.ofNat (index * 8)) 0).toNat =
        LittleEndian.decode (source.take count) := by
    induction count with
    | zero => rw [List.take_zero]; rfl
    | succ count inductionHypothesis =>
      have before := inductionHypothesis (by omega)
      have taken : (source.take count).length = count := by
        rw [List.length_take]
        omega
      have small := LittleEndian.decode_lt (source.take count)
      have radix : 256 ^ count = 2 ^ (count * 8) := by
        rw [Nat.mul_comm, pow_mul]
        rfl
      rw [taken, radix] at small
      rw [List.range_succ, List.foldl_append, List.foldl_cons, List.foldl_nil,
        getU64_round _ _ (by omega) (by rw [before]; exact small), before,
        List.take_succ_eq_append_getElem (by omega), LittleEndian.decode_append, taken,
        List.getD_eq_getElem?_getD, List.getElem?_eq_getElem (by omega), Option.getD_some,
        LittleEndian.decode_singleton, radix, Nat.mul_comm (2 ^ (count * 8))]
  have all := rounds 8 le_rfl
  rwa [List.take_of_length_le (by omega)] at all

theorem getU32_putU32 (value : UInt32) : getU32 (putU32 value) = value := by
  apply UInt32.toNat_inj.mp
  rw [getU32_toNat (length_putU32 value), putU32_eq,
    LittleEndian.decode_encode_of_lt value.toNat_lt]

theorem putU32_getU32 {source : List UInt8} (full : source.length = 4) :
    putU32 (getU32 source) = source := by
  have whole := LittleEndian.encode_decode source
  rwa [full, ← getU32_toNat full, ← putU32_eq] at whole

theorem getU64_putU64 (value : UInt64) : getU64 (putU64 value) = value := by
  apply UInt64.toNat_inj.mp
  rw [getU64_toNat (length_putU64 value), putU64_eq,
    LittleEndian.decode_encode_of_lt value.toNat_lt]

theorem putU64_getU64 {source : List UInt8} (full : source.length = 8) :
    putU64 (getU64 source) = source := by
  have whole := LittleEndian.encode_decode source
  rwa [full, ← getU64_toNat full, ← putU64_eq] at whole

/-! ### The header -/

structure Header where
  totalSize : UInt64
  writeOffset : UInt64
  salt : Bytes padlockSaltSize
  iv : Bytes padlockIvSize
  encryptedSecret : Bytes 128
  encryptedSecretSize : UInt32
  deriving DecidableEq

/-- The buffer `write_header` fills: cleared, then each field put at its place. -/
def headerBuffer (header : Header) : List UInt8 :=
  let buffer := zeros padlockHeaderSize
  let buffer := Span.write 0 0 padlockMagic buffer
  let buffer := Span.write 0 8 (putU32 1) buffer
  let buffer := Span.write 0 16 (putU64 (UInt64.ofNat padlockHeaderSize)) buffer
  let buffer := Span.write 0 24 (putU64 header.totalSize) buffer
  let buffer := Span.write 0 32 (putU64 header.writeOffset) buffer
  let buffer := Span.write 0 40 header.salt.toList buffer
  let buffer := Span.write 0 56 header.iv.toList buffer
  let buffer := Span.write 0 72 (putU32 header.encryptedSecretSize) buffer
  Span.write 0 76 header.encryptedSecret.toList buffer

/-- The range checks `read_header` makes on a decoded header. -/
def Header.accepted (header : Header) : Bool :=
  !(header.totalSize < UInt64.ofNat padlockMinSize
    || header.writeOffset < UInt64.ofNat padlockHeaderSize
    || header.writeOffset > header.totalSize
    || header.encryptedSecretSize > 128)

/-- The fields `read_header` takes from the bytes it has read. -/
def headerFields (buffer : Bytes padlockHeaderSize) : Header where
  totalSize := getU64 (Span.read 24 8 buffer.toList)
  writeOffset := getU64 (Span.read 32 8 buffer.toList)
  salt := subarray buffer 40 padlockSaltSize (by decide)
  iv := subarray buffer 56 padlockIvSize (by decide)
  encryptedSecretSize := getU32 (Span.read 72 4 buffer.toList)
  encryptedSecret := subarray buffer 76 128 (by decide)

/-- What `read_header` makes of the bytes it has read. -/
def headerOfBuffer (buffer : Bytes padlockHeaderSize) : Option Header :=
  if Span.read 0 padlockMagic.length buffer.toList ≠ padlockMagic
      ∨ getU32 (Span.read 8 4 buffer.toList) ≠ 1 then
    none
  else if (headerFields buffer).accepted then some (headerFields buffer) else none

/-- The header bytes before the write offset: magic, version, header size, total size. -/
def headerFront (header : Header) : List UInt8 :=
  padlockMagic ++ zeros 1 ++ putU32 1 ++ zeros 4 ++ putU64 (UInt64.ofNat padlockHeaderSize) ++
    putU64 header.totalSize

/-- The header bytes after the write offset: salt, iv, the encrypted secret, and zeros. -/
def headerBack (header : Header) : List UInt8 :=
  header.salt.toList ++ header.iv.toList ++ putU32 header.encryptedSecretSize ++
    header.encryptedSecret.toList ++ zeros 3892

/-- Putting data into the cleared tail of a buffer. -/
theorem write_zeros {front data : List UInt8} {offset gap rest total : Nat}
    (start : front.length + gap = offset) (size : gap + (data.length + rest) = total) :
    Span.write 0 offset data (front ++ zeros total) = front ++ zeros gap ++ data ++ zeros rest := by
  have whole : front ++ zeros total =
      (front ++ zeros gap) ++ (zeros data.length ++ zeros rest) := by
    rw [← size, zeros_add, zeros_add, List.append_assoc]
  have frontLength : offset = (front ++ zeros gap).length := by
    rw [List.length_append, length_zeros, start]
  rw [whole, frontLength, Span.write_append, List.drop_left' (length_zeros _), ← List.append_assoc]

theorem write_zeros_next {front data : List UInt8} {offset rest total : Nat}
    (start : front.length = offset) (size : data.length + rest = total) :
    Span.write 0 offset data (front ++ zeros total) = front ++ data ++ zeros rest := by
  have filled : Span.write 0 offset data (front ++ zeros total) =
      front ++ zeros 0 ++ data ++ zeros rest :=
    write_zeros (by omega) (by omega)
  rw [filled, show zeros 0 = [] from rfl, List.append_nil]

@[simp] theorem length_salt (header : Header) : header.salt.toList.length = 16 :=
  header.salt.lengthEq

@[simp] theorem length_iv (header : Header) : header.iv.toList.length = 16 := header.iv.lengthEq

@[simp] theorem length_encryptedSecret (header : Header) :
    header.encryptedSecret.toList.length = 128 :=
  header.encryptedSecret.lengthEq

@[simp] theorem length_headerFront (header : Header) : (headerFront header).length = 32 := rfl

@[simp] theorem length_headerBack (header : Header) : (headerBack header).length = 4056 := by
  simp only [headerBack, List.length_append, length_salt, length_iv, length_putU32,
    length_encryptedSecret, length_zeros]

/-- The buffer of `write_header` is its fields one after another. -/
theorem headerBuffer_eq (header : Header) :
    headerBuffer header = headerFront header ++ putU64 header.writeOffset ++ headerBack header := by
  have magic : Span.write 0 0 padlockMagic (zeros padlockHeaderSize) =
      padlockMagic ++ zeros 4089 := by
    rw [← List.nil_append (zeros padlockHeaderSize),
      write_zeros_next List.length_nil (by rfl : padlockMagic.length + 4089 = padlockHeaderSize),
      List.nil_append]
  have version : Span.write 0 8 (putU32 1) (padlockMagic ++ zeros 4089) =
      padlockMagic ++ zeros 1 ++ putU32 1 ++ zeros 4084 :=
    write_zeros rfl rfl
  have size : Span.write 0 16 (putU64 (UInt64.ofNat padlockHeaderSize))
      (padlockMagic ++ zeros 1 ++ putU32 1 ++ zeros 4084) =
      padlockMagic ++ zeros 1 ++ putU32 1 ++ zeros 4 ++
        putU64 (UInt64.ofNat padlockHeaderSize) ++ zeros 4072 :=
    write_zeros rfl rfl
  have total : Span.write 0 24 (putU64 header.totalSize)
      (padlockMagic ++ zeros 1 ++ putU32 1 ++ zeros 4 ++
        putU64 (UInt64.ofNat padlockHeaderSize) ++ zeros 4072) =
      headerFront header ++ zeros 4064 :=
    write_zeros_next rfl rfl
  simp only [headerBuffer, magic, version, size, total]
  rw [write_zeros_next (length_headerFront header) (by rw [length_putU64] : _ + 4056 = _),
    write_zeros_next (by rw [List.length_append, length_headerFront, length_putU64])
      (by rw [length_salt] : _ + 4040 = _),
    write_zeros_next (by simp only [List.length_append, length_headerFront, length_putU64,
      length_salt]) (by rw [length_iv] : _ + 4024 = _),
    write_zeros_next (by simp only [List.length_append, length_headerFront, length_putU64,
      length_salt, length_iv]) (by rw [length_putU32] : _ + 4020 = _),
    write_zeros_next (by simp only [List.length_append, length_headerFront, length_putU64,
      length_salt, length_iv, length_putU32]) (by rw [length_encryptedSecret] : _ + 3892 = _)]
  simp only [headerBack, List.append_assoc]

theorem length_headerBuffer (header : Header) :
    (headerBuffer header).length = padlockHeaderSize := by
  rw [headerBuffer_eq, List.length_append, List.length_append, length_headerFront,
    length_putU64, length_headerBack]
  rfl

/-- The encoded header as an array of its size. -/
def headerBytes (header : Header) : Bytes padlockHeaderSize :=
  ⟨headerBuffer header, length_headerBuffer header⟩

theorem headerBytes_toList (header : Header) :
    (headerBytes header).toList =
      headerFront header ++ putU64 header.writeOffset ++ headerBack header :=
  headerBuffer_eq header

/-- A header with another write offset differs in bytes 32 to 39 only. -/
theorem getElem?_headerBytes (header : Header) (writeOffset : UInt64) {index : Nat}
    (outside : ¬ (32 ≤ index ∧ index < 40)) :
    (headerBytes { header with writeOffset }).toList[index]? =
      (headerBytes header).toList[index]? := by
  have front : headerFront { header with writeOffset } = headerFront header := rfl
  have back : headerBack { header with writeOffset } = headerBack header := rfl
  rw [headerBytes_toList, headerBytes_toList, front, back]
  by_cases before : index < 32
  · rw [List.append_assoc, List.append_assoc,
      List.getElem?_append_left (by rw [length_headerFront]; exact before),
      List.getElem?_append_left (by rw [length_headerFront]; exact before)]
  · have size (offset : UInt64) : (headerFront header ++ putU64 offset).length = 40 := rfl
    rw [List.getElem?_append_right (by rw [size]; omega),
      List.getElem?_append_right (by rw [size]; omega), size, size]

theorem read_headerBytes_front (header : Header) {offset count : Nat}
    (inside : offset + count ≤ 32) :
    Span.read offset count (headerBytes header).toList =
      Span.read offset count (headerFront header) := by
  rw [headerBytes_toList, List.append_assoc,
    Span.read_append_left _ (by rw [length_headerFront]; exact inside)]

theorem read_headerBytes_offset (header : Header) :
    Span.read 32 8 (headerBytes header).toList = putU64 header.writeOffset :=
  Span.read_between ((headerBytes_toList header).trans (List.append_assoc ..))
    (length_headerFront header) (length_putU64 _)

theorem read_headerBytes_back (header : Header) (offset count : Nat) :
    Span.read (40 + offset) count (headerBytes header).toList =
      Span.read offset count (headerBack header) := by
  have front : (headerFront header ++ putU64 header.writeOffset).length = 40 := rfl
  rw [headerBytes_toList, ← front, Span.read_append_right]

theorem headerFields_headerBytes (header : Header) :
    headerFields (headerBytes header) = header := by
  have total : Span.read 24 8 (headerBytes header).toList = putU64 header.totalSize := by
    rw [read_headerBytes_front header (by decide)]
    rfl
  have back := headerBack.eq_1 header
  simp only [List.append_assoc] at back
  have salt : Span.read 40 padlockSaltSize (headerBytes header).toList = header.salt.toList :=
    (read_headerBytes_back header 0 padlockSaltSize).trans
      (Span.read_between (back.trans (List.nil_append _).symm) rfl (length_salt header))
  have iv : Span.read 56 padlockIvSize (headerBytes header).toList = header.iv.toList :=
    (read_headerBytes_back header 16 padlockIvSize).trans
      (Span.read_between back (length_salt header) (length_iv header))
  have secretSize :
      Span.read 72 4 (headerBytes header).toList = putU32 header.encryptedSecretSize := by
    rw [read_headerBytes_back header 32 4]
    refine Span.read_between (back.trans (List.append_assoc ..).symm) ?_ (length_putU32 _)
    rw [List.length_append, length_salt, length_iv]
  have secret : Span.read 76 128 (headerBytes header).toList = header.encryptedSecret.toList := by
    rw [read_headerBytes_back header 36 128]
    refine Span.read_between ((headerBack.eq_1 header).trans (List.append_assoc ..)) ?_
      (length_encryptedSecret header)
    rw [List.length_append, List.length_append, length_salt, length_iv, length_putU32]
  rw [headerFields, subarray_eq salt, subarray_eq iv, subarray_eq secret, total,
    read_headerBytes_offset, secretSize, getU64_putU64, getU64_putU64, getU32_putU32]

theorem headerOfBuffer_eq_some {buffer : Bytes padlockHeaderSize} {header : Header}
    (read : headerOfBuffer buffer = some header) :
    headerFields buffer = header ∧ header.accepted = true := by
  unfold headerOfBuffer at read
  split at read
  · cases read
  · split at read
    · rename_i accepted
      obtain rfl := Option.some.inj read
      exact ⟨rfl, accepted⟩
    · cases read

/-- Decoding the encoder's bytes gives the header back when it passes the range checks. -/
theorem headerOfBuffer_headerBytes (header : Header) :
    headerOfBuffer (headerBytes header) = if header.accepted then some header else none := by
  have magic : Span.read 0 padlockMagic.length (headerBytes header).toList = padlockMagic := by
    rw [read_headerBytes_front header (by decide)]
    rfl
  have version : Span.read 8 4 (headerBytes header).toList = putU32 1 := by
    rw [read_headerBytes_front header (by decide)]
    rfl
  have headed : ¬ (Span.read 0 padlockMagic.length (headerBytes header).toList ≠ padlockMagic
      ∨ getU32 (Span.read 8 4 (headerBytes header).toList) ≠ 1) := by
    rw [magic, version, getU32_putU32]
    simp
  rw [headerOfBuffer, if_neg headed, headerFields_headerBytes]

theorem Header.accepted_iff (header : Header) :
    header.accepted = true ↔
      8192 ≤ header.totalSize.toNat ∧ 4096 ≤ header.writeOffset.toNat ∧
        header.writeOffset.toNat ≤ header.totalSize.toNat ∧
        header.encryptedSecretSize.toNat ≤ 128 := by
  have minSize : (UInt64.ofNat padlockMinSize).toNat = 8192 := rfl
  have headerSize : (UInt64.ofNat padlockHeaderSize).toNat = 4096 := rfl
  have secretSize : UInt32.toNat 128 = 128 := rfl
  simp only [accepted, Bool.not_eq_true', Bool.or_eq_false_iff, decide_eq_false_iff_not,
    UInt64.lt_iff_toNat_lt, UInt32.lt_iff_toNat_lt, minSize, headerSize, secretSize, gt_iff_lt,
    not_lt, and_assoc]

end Padlock
