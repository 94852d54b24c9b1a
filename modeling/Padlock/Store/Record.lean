/-
This file is about one record: its bytes in the clear, as the writer puts them
into its buffer and as the reader takes them apart again.
-/

import Padlock.Store.Get
import Padlock.Store.Set

namespace Padlock

open Interaction

/-- A record in the clear, before its padding. -/
def recordBytes (key value : List UInt8) : List UInt8 :=
  UInt8.ofNat key.length :: (key ++ (putU32 (UInt32.ofNat value.length) ++ value))

/-- The length of a record before its padding: `5 + |key| + |value|`. -/
def recordLength (key value : List UInt8) : Nat := 5 + key.length + value.length

theorem length_recordBytes (key value : List UInt8) :
    (recordBytes key value).length = recordLength key value := by
  simp only [recordBytes, recordLength, List.length_cons, List.length_append, length_putU32]
  omega

/-! ### The writer's side -/

theorem plainLength_toNat (key : CString) (value : Value) (short : key.bytes.length ≤ 255) :
    (plainLength key value).toNat = recordLength key.bytes value.bytes := by
  have := value.lengthLt
  have one : UInt64.toNat 1 = 1 := rfl
  have four : UInt64.toNat 4 = 4 := rfl
  simp only [plainLength, recordLength, UInt64.toNat_add, UInt64.toNat_ofNat',
    UInt32.toNat_toUInt64, UInt32.toNat_ofNat', one, four]
  omega

/-- Filling the next part of a cleared buffer. -/
theorem store_next {size offset rest : Nat} {front data : List UInt8} {buffer : Bytes size}
    (filled : buffer.toList = front ++ zeros (data.length + rest)) (start : front.length = offset) :
    ∃ stored, buffer.store offset data = some stored ∧
      stored.toList = (front ++ data) ++ zeros rest := by
  have inside : offset + data.length ≤ size := by
    have whole := buffer.lengthEq
    rw [filled, List.length_append, length_zeros] at whole
    omega
  have stored : Span.write 0 offset data buffer.toList = (front ++ data) ++ zeros rest := by
    rw [filled]
    exact write_zeros_next start rfl
  rw [Bytes.store, dif_pos inside]
  exact ⟨_, rfl, stored⟩

/-- The buffer `padlock_set` builds is the record followed by zeros. -/
theorem buildRecord_eq (key : CString) (value : Value) {size : Nat}
    (room : recordLength key.bytes value.bytes ≤ size) :
    ∃ plain, buildRecord key value size = some plain ∧
      plain.toList = recordBytes key.bytes value.bytes ++
        zeros (size - recordLength key.bytes value.bytes) := by
  obtain ⟨rest, rfl⟩ := Nat.exists_eq_add_of_le room
  have cleared : (Bytes.cleared (recordLength key.bytes value.bytes + rest)).toList =
      [] ++ zeros ([UInt8.ofNat key.bytes.length].length +
        (key.bytes.length + (4 + (value.bytes.length + rest)))) := by
    have count : recordLength key.bytes value.bytes + rest =
        1 + (key.bytes.length + (4 + (value.bytes.length + rest))) := by
      unfold recordLength
      omega
    rw [List.nil_append, List.length_singleton, ← count]
    rfl
  obtain ⟨sized, sizedStored, sizedEq⟩ := store_next cleared List.length_nil
  obtain ⟨keyed, keyedStored, keyedEq⟩ := store_next sizedEq
    (rfl : ([] ++ [UInt8.ofNat key.bytes.length]).length = 1)
  obtain ⟨measured, measuredStored, measuredEq⟩ :
      ∃ stored, keyed.store (1 + key.bytes.length)
          (putU32 (UInt32.ofNat value.bytes.length)) = some stored ∧ _ :=
    store_next keyedEq (by
      rw [List.length_append]
      rfl)
  obtain ⟨plain, plainStored, plainEq⟩ :
      ∃ stored, measured.store (1 + key.bytes.length + 4) value.bytes = some stored ∧ _ :=
    store_next measuredEq (by
      rw [List.length_append, List.length_append, length_putU32]
      rfl)
  refine ⟨plain, ?_, ?_⟩
  · simp only [buildRecord, sizedStored, keyedStored, measuredStored, plainStored,
      Option.bind_eq_bind, Option.bind_some]
  · rw [plainEq, Nat.add_sub_cancel_left, recordBytes]
    simp only [List.nil_append, List.cons_append, List.append_assoc]

/-! ### The reader's side -/

section Reader

variable {key value : List UInt8} {size : Nat} {plain : Bytes size}

/-- A buffer that begins with a record has room for it. -/
theorem recordLength_le (record : recordBytes key value <+: plain.toList) :
    recordLength key value ≤ size := by
  rw [← length_recordBytes, ← plain.lengthEq]
  exact record.length_le

theorem headD_of_record (record : recordBytes key value <+: plain.toList) :
    plain.toList.headD 0 = UInt8.ofNat key.length := by
  obtain ⟨rest, whole⟩ := record
  rw [← whole]
  rfl

theorem load_key_of_record (record : recordBytes key value <+: plain.toList) :
    plain.load 1 key.length = some key := by
  have room := recordLength_le record
  obtain ⟨rest, whole⟩ := record
  refine Bytes.load_eq_some.mpr ⟨by unfold recordLength at room; omega, ?_⟩
  have split : plain.toList = [UInt8.ofNat key.length] ++
      (key ++ (putU32 (UInt32.ofNat value.length) ++ value ++ rest)) := by
    rw [← whole, recordBytes]
    simp only [List.cons_append, List.append_assoc, List.nil_append]
  exact Span.read_between split rfl rfl

theorem read_length_of_record (record : recordBytes key value <+: plain.toList) :
    Span.read (1 + key.length) 4 plain.toList = putU32 (UInt32.ofNat value.length) := by
  obtain ⟨rest, whole⟩ := record
  have split : plain.toList = (UInt8.ofNat key.length :: key) ++
      (putU32 (UInt32.ofNat value.length) ++ (value ++ rest)) := by
    rw [← whole, recordBytes]
    simp only [List.cons_append, List.append_assoc]
  exact Span.read_between split (by rw [List.length_cons, Nat.add_comm]) (length_putU32 _)

theorem load_value_of_record (record : recordBytes key value <+: plain.toList) :
    plain.load (1 + key.length + 4) value.length = some value := by
  have room := recordLength_le record
  obtain ⟨rest, whole⟩ := record
  refine Bytes.load_eq_some.mpr ⟨by unfold recordLength at room; omega, ?_⟩
  have split : plain.toList =
      (UInt8.ofNat key.length :: (key ++ putU32 (UInt32.ofNat value.length))) ++
        (value ++ rest) := by
    rw [← whole, recordBytes]
    simp only [List.cons_append, List.append_assoc]
  refine Span.read_between split ?_ rfl
  rw [List.length_cons, List.length_append, length_putU32]
  omega

/-- A buffer that declares a key size and a value length, with room for both, begins with a
record. -/
theorem record_of_declared {keySize : UInt8} {valueLength : UInt32}
    (head : plain.toList.headD 0 = keySize)
    (declared : getU32 (Span.read (1 + keySize.toNat) 4 plain.toList) = valueLength)
    (room : 5 + keySize.toNat + valueLength.toNat ≤ size) :
    recordBytes (Span.read 1 keySize.toNat plain.toList)
      (Span.read (5 + keySize.toNat) valueLength.toNat plain.toList) <+: plain.toList := by
  have keyLength : (Span.read 1 keySize.toNat plain.toList).length = keySize.toNat :=
    Span.length_read_of_le (by rw [plain.lengthEq]; omega)
  have valueSize : (Span.read (5 + keySize.toNat) valueLength.toNat plain.toList).length =
      valueLength.toNat :=
    Span.length_read_of_le (by rw [plain.lengthEq]; omega)
  have sizeLength : (Span.read (1 + keySize.toNat) 4 plain.toList).length = 4 :=
    Span.length_read_of_le (by rw [plain.lengthEq]; omega)
  have headByte : Span.read 0 1 plain.toList = [keySize] := by
    have positive : 0 < plain.toList.length := by
      rw [plain.lengthEq]
      omega
    cases bytes : plain.toList with
    | nil => rw [bytes] at positive; exact absurd positive (by simp)
    | cons byte rest =>
      rw [bytes] at head
      rw [← head]
      rfl
  have record : recordBytes (Span.read 1 keySize.toNat plain.toList)
      (Span.read (5 + keySize.toNat) valueLength.toNat plain.toList) =
      Span.read 0 (1 + (keySize.toNat + (4 + valueLength.toNat))) plain.toList := by
    rw [Span.read_add, Span.read_add, Span.read_add, headByte, recordBytes, keyLength, valueSize,
      UInt8.ofNat_toNat, UInt32.ofNat_toNat, ← declared, putU32_getU32 sizeLength]
    simp only [Nat.zero_add, List.singleton_append,
      show 1 + keySize.toNat + 4 = 5 + keySize.toNat by omega]
  rw [record, Span.read, List.drop_zero]
  exact List.take_prefix ..

/-- The copy of a value the caller gets. -/
def Found.ofValue (value : List UInt8) : Found where
  contents := value ++ [0]
  length := UInt32.ofNat value.length

theorem copyValue_of_record (record : recordBytes key value <+: plain.toList)
    (short : key.length < 256) (small : value.length + 1 < 2 ^ 32) :
    copyValue (UInt8.ofNat key.length) (UInt32.ofNat value.length) plain =
      some (Found.ofValue value) := by
  have keySize : (UInt8.ofNat key.length).toNat = key.length := by
    rw [UInt8.toNat_ofNat', Nat.mod_eq_of_lt short]
  have valueLength : (UInt32.ofNat value.length).toNat = value.length := by
    rw [UInt32.toNat_ofNat', Nat.mod_eq_of_lt (by omega)]
  have blockSize : (UInt32.ofNat value.length + 1).toNat = value.length + 1 := by
    rw [UInt32.toNat_add, valueLength]
    exact Nat.mod_eq_of_lt small
  have cleared : (Bytes.cleared (UInt32.ofNat value.length + 1).toNat).toList =
      [] ++ zeros (value.length + 1) := by
    rw [blockSize]
    rfl
  obtain ⟨copied, copiedStored, copiedEq⟩ := store_next cleared List.length_nil
  obtain ⟨ended, endedStored, endedEq⟩ :
      ∃ stored, copied.store value.length [0] = some stored ∧
        stored.toList = ([] ++ value ++ [0]) ++ zeros 0 :=
    store_next copiedEq rfl
  simp only [copyValue, keySize, valueLength, load_value_of_record record, copiedStored,
    endedStored, Option.bind_eq_bind, Option.bind_some, Option.pure_def, Option.some.injEq]
  rw [Found.ofValue, endedEq, List.nil_append, show zeros 0 = [] from rfl, List.append_nil]

end Reader

end Padlock
