/-
This file compares the scan of `padlock_get` with a reference parser on an
arbitrary file. The reference reads a record at a place when the whole range of
the record decrypts to a plaintext that begins with it, and goes on behind the
range. The scan instead decrypts three ranges of growing length and takes the
key size from the first, the value length from the second and key and value
from the third; since the cipher works block by block, the three plaintexts are
prefixes of one another, and the two agree.

They agree as long as no visited record declares a length whose padding does not
fit 32 bits. Beyond that the scan computes another length than the reference.
-/

import Padlock.Library.KeyValueLog
import Padlock.Store.Record

namespace Padlock

open Interaction

/-- The plaintext of a range of a file, at the tweak of its offset. -/
def File.plainAt (file : File) (ssl : OpenSsl) (xtsKey : Bytes padlockXtsKeySize) (offset : UInt64)
    (count : Nat) : Option (Bytes count) :=
  (file.readAt offset.toNat count).bind (cryptXts ssl false xtsKey offset)

/-- The key and the value of a record. -/
abbrev Entry := List UInt8 × List UInt8

section Reference

variable (ssl : OpenSsl) (xtsKey : Bytes padlockXtsKeySize) (file : File) (writeOffset : Nat)

/-- A record stands at an offset: its padded range ends at or before the write offset, can be
read and decrypted, and its plaintext begins with the record. -/
structure RecordAt (offset : Nat) (entry : Entry) : Prop where
  keySize : 0 < entry.1.length ∧ entry.1.length < 256
  valueLength : entry.2.length < 2 ^ 32
  inside : offset + padded (recordLength entry.1 entry.2) ≤ writeOffset
  decrypts : ∃ plain,
    file.plainAt ssl xtsKey (UInt64.ofNat offset) (padded (recordLength entry.1 entry.2)) =
        some plain ∧
      recordBytes entry.1 entry.2 <+: plain.toList

/-- Records stand one after another from an offset to a place. -/
inductive Leads : Nat → List Entry → Nat → Prop
  | nil (place : Nat) : Leads place [] place
  | cons {offset place : Nat} {entry : Entry} {rest : List Entry}
      (first : RecordAt ssl xtsKey file writeOffset offset entry)
      (others : Leads (offset + padded (recordLength entry.1 entry.2)) rest place) :
      Leads offset (entry :: rest) place

/-- The range from an offset on parses, record after record, until fewer than 16 bytes remain
before the write offset. -/
def Parses (offset : Nat) (entries : List Entry) : Prop :=
  ∃ place, Leads ssl xtsKey file writeOffset offset entries place ∧ writeOffset < place + 16

/-- The parser comes to a place, 16 bytes or more before the write offset, where no record
stands. -/
def Breaks (offset : Nat) : Prop :=
  ∃ entries place, Leads ssl xtsKey file writeOffset offset entries place ∧
    place + 16 ≤ writeOffset ∧ ∀ entry, ¬ RecordAt ssl xtsKey file writeOffset place entry

/-- A place declares a key size and a value length: the range that holds both ends at or before
the write offset and decrypts, and these are the numbers its plaintext has there. -/
structure Declares (offset : Nat) (keySize : UInt8) (valueLength : UInt32) : Prop where
  nonzero : keySize ≠ 0
  inside : offset + (prefixLength keySize).toNat ≤ writeOffset
  decrypts : ∃ plain,
    file.plainAt ssl xtsKey (UInt64.ofNat offset) (prefixLength keySize).toNat = some plain ∧
      plain.toList.headD 0 = keySize ∧
      getU32 (Span.read (1 + keySize.toNat) 4 plain.toList) = valueLength

/-- No place the parser comes to declares a record whose padded length exceeds 32 bits. -/
def LengthsFit (offset : Nat) : Prop :=
  ∀ entries place keySize valueLength,
    Leads ssl xtsKey file writeOffset offset entries place →
    Declares ssl xtsKey file writeOffset place keySize valueLength →
    5 + keySize.toNat + valueLength.toNat ≤ 2 ^ 32 - 16

/-- No place the parser comes to declares a record of more than 2^32 bytes of which what is left
beyond 2^32 ends at or before the write offset. -/
def NoneWraps (offset : Nat) : Prop :=
  ∀ entries place keySize valueLength,
    Leads ssl xtsKey file writeOffset offset entries place →
    Declares ssl xtsKey file writeOffset place keySize valueLength →
    5 + keySize.toNat + valueLength.toNat ≤ 2 ^ 32 ∨
      writeOffset < place + (padded (5 + keySize.toNat + valueLength.toNat) - 2 ^ 32)

theorem LengthsFit.noneWraps {offset : Nat} {ssl : OpenSsl} {xtsKey : Bytes padlockXtsKeySize}
    {file : File} {writeOffset : Nat} (lengths : LengthsFit ssl xtsKey file writeOffset offset) :
    NoneWraps ssl xtsKey file writeOffset offset := by
  intro entries place keySize valueLength leads declares
  have small := lengths entries place keySize valueLength leads declares
  exact .inl (small.trans (Nat.sub_le ..))

theorem padded_recordLength_pos (key value : List UInt8) :
    16 ≤ padded (recordLength key value) :=
  padded_pos (by unfold recordLength; omega)

/-- From every offset the range parses, or the parser meets a place with no record. -/
theorem parses_or_breaks (offset : Nat) :
    (∃ entries, Parses ssl xtsKey file writeOffset offset entries) ∨
      Breaks ssl xtsKey file writeOffset offset := by
  induction left : writeOffset - offset using Nat.strongRecOn generalizing offset with
  | _ left inductionHypothesis =>
    by_cases room : offset + 16 ≤ writeOffset
    · by_cases present : ∃ entry, RecordAt ssl xtsKey file writeOffset offset entry
      · obtain ⟨entry, first⟩ := present
        have longer := padded_recordLength_pos entry.1 entry.2
        obtain ⟨rest, place, others, short⟩ | ⟨rest, place, others, broken⟩ :=
          inductionHypothesis _ (by omega) (offset + padded (recordLength entry.1 entry.2)) rfl
        · exact .inl ⟨entry :: rest, place, .cons first others, short⟩
        · exact .inr ⟨entry :: rest, place, .cons first others, broken⟩
      · exact .inr ⟨[], offset, .nil offset, room, not_exists.mp present⟩
    · exact .inl ⟨[], offset, .nil offset, by omega⟩

end Reference

/-! ### The three decryptions of one record -/

theorem plainAt_eq_some {file : File} {ssl : OpenSsl} {xtsKey : Bytes padlockXtsKeySize}
    {offset : UInt64} {count : Nat} {plain : Bytes count} :
    file.plainAt ssl xtsKey offset count = some plain ↔
      count < 2 ^ 31 ∧ (Span.read offset.toNat count file.bytes).length = count ∧
        ssl.xtsDecrypt xtsKey (xtsTweak offset) (Span.read offset.toNat count file.bytes) =
          some plain.toList := by
  constructor
  · intro decrypted
    obtain ⟨cipher, cipherRead, decrypted⟩ := Option.bind_eq_some_iff.mp decrypted
    rw [readAt_eq_some] at cipherRead
    rw [cipherRead, cipher.lengthEq]
    unfold cryptXts at decrypted
    split at decrypted
    · rename_i small
      split at decrypted
      · rename_i output outputEq
        split at decrypted
        · exact ⟨small, rfl, by rw [← Option.some.inj decrypted]; exact outputEq⟩
        · cases decrypted
      · cases decrypted
    · cases decrypted
  · rintro ⟨small, full, decrypted⟩
    rw [File.plainAt, File.readAt, dif_pos full, Option.bind_some, cryptXts, if_pos small]
    simp only [Bool.false_eq_true, if_false, decrypted, plain.lengthEq, dif_pos]

/-- A record has less than 2^31 bytes: a longer range does not decrypt. -/
theorem RecordAt.small {ssl : OpenSsl} {xtsKey : Bytes padlockXtsKeySize} {file : File}
    {writeOffset offset : Nat} {entry : Entry}
    (record : RecordAt ssl xtsKey file writeOffset offset entry) :
    recordLength entry.1 entry.2 < 2 ^ 31 := by
  obtain ⟨plain, decrypted, -⟩ := record.decrypts
  exact (le_padded _).trans_lt (plainAt_eq_some.mp decrypted).1

/-- The first blocks of a range that decrypts decrypt to the first blocks of its plaintext. -/
theorem plainAt_take {ssl : OpenSsl} (blockwise : ssl.XtsBlockwise) {file : File}
    {xtsKey : Bytes padlockXtsKeySize} {offset : UInt64} {size count : Nat} {plain : Bytes size}
    (decrypted : file.plainAt ssl xtsKey offset size = some plain) (whole : 16 ∣ size)
    (blocks : 16 ∣ count) (positive : 0 < count) (within : count ≤ size) :
    ∃ part, file.plainAt ssl xtsKey offset count = some part ∧
      part.toList = plain.toList.take count := by
  obtain ⟨small, full, decrypted⟩ := plainAt_eq_some.mp decrypted
  have taken : Span.read offset.toNat count file.bytes =
      (Span.read offset.toNat size file.bytes).take count := by
    rw [Span.read, Span.read, List.take_take, Nat.min_eq_left within]
  have partLength : (plain.toList.take count).length = count := by
    rw [List.length_take, plain.lengthEq, Nat.min_eq_left within]
  refine ⟨⟨plain.toList.take count, partLength⟩, plainAt_eq_some.mpr ⟨by omega, ?_, ?_⟩, rfl⟩
  · rw [taken, List.length_take, full, Nat.min_eq_left within]
  · rw [taken]
    exact blockwise _ _ _ _ _ decrypted (by rw [full]; exact whole) blocks positive
      (by rw [full]; exact within)

/-- Of two plaintexts from one offset the shorter is the beginning of the longer. -/
theorem plainAt_shorter {ssl : OpenSsl} (blockwise : ssl.XtsBlockwise) {file : File}
    {xtsKey : Bytes padlockXtsKeySize} {offset : UInt64} {size count : Nat} {plain : Bytes size}
    {part : Bytes count} (decrypted : file.plainAt ssl xtsKey offset size = some plain)
    (shorter : file.plainAt ssl xtsKey offset count = some part) (whole : 16 ∣ size)
    (blocks : 16 ∣ count) (positive : 0 < count) (within : count ≤ size) :
    part.toList = plain.toList.take count := by
  obtain ⟨other, otherEq, taken⟩ := plainAt_take blockwise decrypted whole blocks positive within
  rw [shorter] at otherEq
  rw [Option.some.inj otherEq, taken]

theorem headD_take {bytes : List UInt8} {count : Nat} (positive : 0 < count) :
    (bytes.take count).headD 0 = bytes.headD 0 := by
  cases bytes with
  | nil => rw [List.take_nil]
  | cons byte rest => rw [List.take_cons positive]; rfl

/-! ### What the parts of a round do on a file -/

section Rounds

variable (ssl : OpenSsl) (xtsKey : Bytes padlockXtsKeySize) (header : Header) (key : CString)

theorem prefixLength_toNat (keySize : UInt8) :
    (prefixLength keySize).toNat = padded (5 + keySize.toNat) := by
  have size := keySize.toNat_lt
  have sum : (1 + keySize.toUInt32 + 4).toUInt64.toNat = 5 + keySize.toNat := by
    simp only [UInt32.toNat_toUInt64, UInt32.toNat_add, UInt8.toNat_toUInt32, UInt32.reduceToNat]
    omega
  rw [prefixLength, align16_toNat_of_le (by omega), sum]

theorem dvd_prefixLength (keySize : UInt8) : 16 ∣ (prefixLength keySize).toNat :=
  dvd_align16 _

theorem sixteen_le_prefixLength (keySize : UInt8) : 16 ≤ (prefixLength keySize).toNat := by
  rw [prefixLength_toNat]
  exact padded_pos (by omega)

theorem entryLength_toNat (keySize : UInt8) (valueLength : UInt32) :
    (entryLength keySize valueLength).toNat =
      (5 + keySize.toNat + valueLength.toNat) % 2 ^ 32 := by
  simp only [entryLength, UInt32.toNat_toUInt64, UInt32.toNat_add, UInt8.toNat_toUInt32,
    UInt32.reduceToNat]
  omega

/-- The padded length of a record of at most 2^32 - 16 bytes. -/
theorem align16_entryLength {keySize : UInt8} {valueLength : UInt32}
    (small : 5 + keySize.toNat + valueLength.toNat ≤ 2 ^ 32 - 16) :
    (align16 (entryLength keySize valueLength)).toNat =
      padded (5 + keySize.toNat + valueLength.toNat) := by
  have exact : (entryLength keySize valueLength).toNat =
      5 + keySize.toNat + valueLength.toNat := by
    rw [entryLength_toNat, Nat.mod_eq_of_lt (by omega)]
  rw [align16_toNat_of_le (by rw [exact]; exact small), exact]

/-- The padded length of a record of more than 2^32 bytes lacks 2^32. -/
theorem align16_entryLength_of_long {keySize : UInt8} {valueLength : UInt32}
    (long : 2 ^ 32 < 5 + keySize.toNat + valueLength.toNat) :
    (align16 (entryLength keySize valueLength)).toNat + 2 ^ 32 =
      padded (5 + keySize.toNat + valueLength.toNat) := by
  have := keySize.toNat_lt
  have := valueLength.toNat_lt
  rw [align16_toNat, entryLength_toNat, padded]
  omega

/-- A record of at most 2^32 bytes whose padded length passes the check has at most
2^32 - 16. -/
theorem small_of_enough {keySize : UInt8} {valueLength : UInt32}
    (limited : 5 + keySize.toNat + valueLength.toNat ≤ 2 ^ 32)
    (enough : ¬ align16 (entryLength keySize valueLength) < 16) :
    5 + keySize.toNat + valueLength.toNat ≤ 2 ^ 32 - 16 := by
  rw [lt_sixteen_iff, align16_toNat, entryLength_toNat] at enough
  omega

theorem runOn_readPrefix (offset : UInt64) (keySize : UInt8) (file : File) :
    runOn (readPrefix ssl xtsKey header offset keySize) file =
      some (if offset + prefixLength keySize > header.writeOffset then none
        else file.plainAt ssl xtsKey offset (prefixLength keySize).toNat, file) := by
  have positive : 0 < (prefixLength keySize).toNat := by
    rw [prefixLength_toNat, padded]
    omega
  by_cases beyond : offset + prefixLength keySize > header.writeOffset
  · simp only [readPrefix, if_pos beyond, Program.pure_eq, runOn_done]
  · simp only [readPrefix, if_neg beyond, Program.request_bind, runOn_malloc, Bool.not_true,
      Bool.or_self, Bool.false_eq_true, if_false, runOn_bind, runOn_seekRead offset positive,
      Option.bind_some, File.plainAt]
    cases file.readAt offset.toNat (prefixLength keySize).toNat with
    | none => simp only [runOn_freeBlock, Program.pure_eq, runOn_done, Option.bind_none]
    | some cipher =>
      simp only [Option.bind_some]
      cases cryptXts ssl false xtsKey offset cipher with
      | none => simp only [runOn_freeBlock, Program.pure_eq, runOn_done]
      | some plain => rfl

/-- A record that lies outside the written range, or that cannot be read and decrypted, ends
the scan. -/
theorem runOn_readEntry_done (offset : UInt64) (seekable : offset.toNat < 2 ^ 63) (keySize : UInt8)
    (valueLength : UInt32) (prefixSize : Nat) (found : Option Found) (file : File)
    (refused : align16 (entryLength keySize valueLength) < 16 ∨
      offset + align16 (entryLength keySize valueLength) > header.writeOffset ∨
      file.plainAt ssl xtsKey offset (align16 (entryLength keySize valueLength)).toNat = none) :
    runOn (readEntry ssl xtsKey header key offset seekable keySize valueLength prefixSize found)
      file = some (.done found, file) := by
  by_cases outside : align16 (entryLength keySize valueLength) < 16 ∨
      offset + align16 (entryLength keySize valueLength) > header.writeOffset
  · simp only [readEntry, dif_pos outside, runOn_freeBlock, Program.pure_eq, runOn_done]
  · have unreadable := (or_assoc.mpr refused).resolve_left outside
    have positive : 0 < (align16 (entryLength keySize valueLength)).toNat := by
      have enough := (not_or.mp outside).1
      rw [lt_sixteen_iff] at enough
      omega
    simp only [readEntry, dif_neg outside, Program.request_bind, runOn_malloc, Bool.not_true,
      Bool.or_self, Bool.false_eq_true, if_false, runOn_bind, runOn_seekRead offset positive,
      Option.bind_some]
    unfold File.plainAt at unreadable
    cases read : file.readAt offset.toNat (align16 (entryLength keySize valueLength)).toNat with
    | none => simp only [runOn_freeBlock, Program.pure_eq, runOn_done]
    | some cipher =>
      rw [read, Option.bind_some] at unreadable
      simp only [unreadable, runOn_freeBlock, Program.pure_eq, runOn_done]

/-- A record inside the written range whose plaintext can be had is compared and skipped. -/
theorem runOn_readEntry_next (offset : UInt64) (seekable : offset.toNat < 2 ^ 63) {entry : Entry}
    (prefixSize : Nat) (found : Option Found) (file : File)
    (keySize : entry.1.length < 256) (small : recordLength entry.1 entry.2 < 2 ^ 32)
    (inside : ¬ (align16 (entryLength (UInt8.ofNat entry.1.length)
        (UInt32.ofNat entry.2.length)) < 16 ∨
      offset + align16 (entryLength (UInt8.ofNat entry.1.length) (UInt32.ofNat entry.2.length)) >
        header.writeOffset))
    {size : Nat}
    (sizeEq : (align16 (entryLength (UInt8.ofNat entry.1.length)
      (UInt32.ofNat entry.2.length))).toNat = size)
    {plain : Bytes size} (decrypted : file.plainAt ssl xtsKey offset size = some plain)
    (record : recordBytes entry.1 entry.2 <+: plain.toList) :
    ∃ above, runOn (readEntry ssl xtsKey header key offset seekable (UInt8.ofNat entry.1.length)
        (UInt32.ofNat entry.2.length) prefixSize found) file =
      some (.next (offset + align16 (entryLength (UInt8.ofNat entry.1.length)
          (UInt32.ofNat entry.2.length))) above
        (if entry.1 = key.bytes then some (Found.ofValue entry.2) else found), file) := by
  subst sizeEq
  have sizeNat : (UInt8.ofNat entry.1.length).toNat = entry.1.length := by
    rw [UInt8.toNat_ofNat', Nat.mod_eq_of_lt keySize]
  have positive : 0 < (align16 (entryLength (UInt8.ofNat entry.1.length)
      (UInt32.ofNat entry.2.length))).toNat := by
    have enough := (not_or.mp inside).1
    rw [lt_sixteen_iff] at enough
    omega
  have copied := copyValue_of_record record keySize (by unfold recordLength at small; omega)
  refine ⟨advance seekable (not_or.mp inside).1, ?_⟩
  obtain ⟨cipher, cipherRead, cipherPlain⟩ := Option.bind_eq_some_iff.mp decrypted
  simp only [readEntry, dif_neg inside, Program.request_bind, runOn_malloc, Bool.not_true,
    Bool.or_self, Bool.false_eq_true, if_false, runOn_bind, runOn_seekRead offset positive,
    Option.bind_some, cipherRead, cipherPlain, sizeNat]
  by_cases lengths : entry.1.length = key.bytes.length
  · have loaded := load_key_of_record record
    rw [if_pos lengths, ← lengths, loaded]
    by_cases same : entry.1 = key.bytes
    · simp only [Program.bounded_some, Program.done_bind, if_pos same, runOn_malloc, Bool.not_true,
        Bool.false_eq_true, if_false, copied, runOn_freeBlock, Program.pure_eq, runOn_done]
    · simp only [Program.bounded_some, Program.done_bind, if_neg same, runOn_freeBlock,
        Program.pure_eq, runOn_done]
  · have different : entry.1 ≠ key.bytes := fun same => lengths (by rw [same])
    simp only [if_neg lengths, if_neg different, runOn_freeBlock, Program.pure_eq, runOn_done]

/-- The offset of a nonempty range that can be decrypted is one that can be sought. -/
theorem seekable_of_plainAt {offset : UInt64} {file : File} {count : Nat} {plain : Bytes count}
    (decrypted : file.plainAt ssl xtsKey offset count = some plain) (positive : 0 < count) :
    offset.toNat < 2 ^ 63 := by
  obtain ⟨-, full, -⟩ := plainAt_eq_some.mp decrypted
  have := file.fits
  rw [Span.length_read] at full
  omega

/-- The start of a round: the first block gives the key size, the prefix the value length, and
the rest of the round is `readEntry`. -/
theorem runOn_scanRound_entry {offset : UInt64} (seekable : offset.toNat < 2 ^ 63) {file : File}
    {block : Bytes 16} (first : file.plainAt ssl xtsKey offset 16 = some block) {keySize : UInt8}
    (head : block.toList.headD 0 = keySize) (nonzero : keySize ≠ 0)
    (room : ¬ offset + prefixLength keySize > header.writeOffset)
    {prefixPlain : Bytes (prefixLength keySize).toNat}
    (second : file.plainAt ssl xtsKey offset _ = some prefixPlain) (found : Option Found) :
    runOn (scanRound ssl xtsKey header key offset found) file =
      runOn (readEntry ssl xtsKey header key offset seekable keySize
        (getU32 (Span.read (1 + keySize.toNat) 4 prefixPlain.toList))
        (prefixLength keySize).toNat found) file := by
  subst head
  obtain ⟨cipher, cipherRead, cipherPlain⟩ := Option.bind_eq_some_iff.mp first
  have inside : 1 + (block.toList.headD 0).toNat + 4 ≤
      (prefixLength (block.toList.headD 0)).toNat := by
    rw [prefixLength_toNat]
    have := le_padded (5 + (block.toList.headD 0).toNat)
    omega
  simp only [scanRound, dif_pos seekable, runOn_bind, runOn_seekRead offset (by omega : 0 < 16),
    Option.bind_some, cipherRead, cipherPlain, if_neg nonzero, runOn_readPrefix, if_neg room,
    second,
    Bytes.load, if_pos inside, Program.bounded_some, runOn_done]

/-- A round at a record of the reference parser goes on behind it, with the copy of its value
when its key is the one looked for. -/
theorem runOn_scanRound_next (blockwise : ssl.XtsBlockwise) {offset : UInt64} {file : File}
    {entry : Entry}
    (record : RecordAt ssl xtsKey file header.writeOffset.toNat offset.toNat entry)
    (found : Option Found) :
    ∃ following above,
      following.toNat = offset.toNat + padded (recordLength entry.1 entry.2) ∧
        runOn (scanRound ssl xtsKey header key offset found) file =
          some (.next following above
            (if entry.1 = key.bytes then some (Found.ofValue entry.2) else found), file) := by
  have small := record.small
  obtain ⟨⟨nonempty, keySize⟩, valueLength, inside, plain, decrypted, starts⟩ := record
  rw [UInt64.ofNat_toNat] at decrypted
  have size16 := padded_recordLength_pos entry.1 entry.2
  have seekable := seekable_of_plainAt ssl xtsKey decrypted (by omega)
  have sizeNat : (UInt8.ofNat entry.1.length).toNat = entry.1.length := by
    rw [UInt8.toNat_ofNat', Nat.mod_eq_of_lt keySize]
  have lengthNat : (UInt32.ofNat entry.2.length).toNat = entry.2.length := by
    rw [UInt32.toNat_ofNat', Nat.mod_eq_of_lt valueLength]
  have entryNat : (align16 (entryLength (UInt8.ofNat entry.1.length)
      (UInt32.ofNat entry.2.length))).toNat = padded (recordLength entry.1 entry.2) := by
    rw [align16_entryLength (by rw [sizeNat, lengthNat]; unfold recordLength at small; omega),
      sizeNat, lengthNat, recordLength]
  -- the first block and the prefix are the beginning of the plaintext
  obtain ⟨block, first, blockEq⟩ := plainAt_take blockwise decrypted (dvd_padded _)
    (Nat.dvd_refl 16) (by omega) size16
  have head : block.toList.headD 0 = UInt8.ofNat entry.1.length := by
    rw [blockEq, headD_take (by omega), headD_of_record starts]
  have nonzero : UInt8.ofNat entry.1.length ≠ 0 := by
    intro zero
    have := congrArg UInt8.toNat zero
    rw [sizeNat] at this
    exact absurd this (by simpa using Nat.pos_iff_ne_zero.mp nonempty)
  have prefixNat :
      (prefixLength (UInt8.ofNat entry.1.length)).toNat = padded (5 + entry.1.length) := by
    rw [prefixLength_toNat, sizeNat]
  have prefixLe : padded (5 + entry.1.length) ≤ padded (recordLength entry.1 entry.2) := by
    unfold padded recordLength
    omega
  obtain ⟨prefixPlain, second, prefixEq⟩ := plainAt_take blockwise decrypted (dvd_padded _)
    (by rw [prefixNat]; exact dvd_padded _ : 16 ∣ (prefixLength (UInt8.ofNat entry.1.length)).toNat)
    (by rw [prefixNat]; exact (padded_pos (by omega)).trans_lt' (by omega))
    (by rw [prefixNat]; exact prefixLe)
  have declared : getU32 (Span.read (1 + (UInt8.ofNat entry.1.length).toNat) 4
      prefixPlain.toList) = UInt32.ofNat entry.2.length := by
    have within : 1 + entry.1.length + 4 ≤ padded (5 + entry.1.length) := by
      unfold padded
      omega
    rw [prefixEq, prefixNat, sizeNat, Span.read_take _ within, read_length_of_record starts,
      getU32_putU32]
  have bound := align16_lt (entryLength (UInt8.ofNat entry.1.length) (UInt32.ofNat entry.2.length))
  have sum : (offset + align16 (entryLength (UInt8.ofNat entry.1.length)
      (UInt32.ofNat entry.2.length))).toNat =
      offset.toNat + padded (recordLength entry.1 entry.2) := by
    rw [UInt64.toNat_add, entryNat]
    rw [entryNat] at bound
    omega
  have room : ¬ offset + prefixLength (UInt8.ofNat entry.1.length) > header.writeOffset := by
    rw [gt_iff_lt, UInt64.lt_iff_toNat_lt, UInt64.toNat_add, prefixNat]
    omega
  have allowed : ¬ (align16 (entryLength (UInt8.ofNat entry.1.length)
        (UInt32.ofNat entry.2.length)) < 16 ∨
      offset + align16 (entryLength (UInt8.ofNat entry.1.length) (UInt32.ofNat entry.2.length)) >
        header.writeOffset) := by
    rw [lt_sixteen_iff, entryNat, gt_iff_lt, UInt64.lt_iff_toNat_lt, sum]
    omega
  obtain ⟨above, next⟩ := runOn_readEntry_next ssl xtsKey header key offset seekable
    (prefixLength (UInt8.ofNat entry.1.length)).toNat found file keySize (by omega) allowed entryNat
    decrypted starts
  refine ⟨_, above, sum, ?_⟩
  rw [runOn_scanRound_entry ssl xtsKey header key seekable first head nonzero room second, declared,
    next]

/-- What the code has checked and decrypted in a full round is a record of the reference
parser. -/
theorem recordAt_of_declares (blockwise : ssl.XtsBlockwise) {offset : UInt64} {file : File}
    {keySize : UInt8} {valueLength : UInt32}
    (declares : Declares ssl xtsKey file header.writeOffset.toNat offset.toNat keySize valueLength)
    (small : 5 + keySize.toNat + valueLength.toNat ≤ 2 ^ 32 - 16)
    (within : ¬ offset + align16 (entryLength keySize valueLength) > header.writeOffset)
    {plain : Bytes (align16 (entryLength keySize valueLength)).toNat}
    (decrypted : file.plainAt ssl xtsKey offset _ = some plain) :
    RecordAt ssl xtsKey file header.writeOffset.toNat offset.toNat
      (Span.read 1 keySize.toNat plain.toList,
        Span.read (5 + keySize.toNat) valueLength.toNat plain.toList) := by
  obtain ⟨nonzero, -, prefixPlain, second, head, declared⟩ := declares
  rw [UInt64.ofNat_toNat] at second
  have keySizeLt := keySize.toNat_lt
  have keySizePos : 0 < keySize.toNat := by
    refine Nat.pos_of_ne_zero fun zero => nonzero ?_
    exact UInt8.toNat_inj.mp zero
  have entryNat := align16_entryLength small
  have room : 5 + keySize.toNat + valueLength.toNat ≤
      (align16 (entryLength keySize valueLength)).toNat := by
    rw [entryNat]
    exact le_padded _
  have prefixLe : (prefixLength keySize).toNat ≤
      (align16 (entryLength keySize valueLength)).toNat := by
    rw [prefixLength_toNat, entryNat, padded, padded]
    omega
  have prefixRoom : 1 + keySize.toNat + 4 ≤ (prefixLength keySize).toNat := by
    rw [prefixLength_toNat, padded]
    omega
  have seekable := seekable_of_plainAt ssl xtsKey second (by omega)
  have prefixEq := plainAt_shorter blockwise decrypted second (dvd_align16 _)
    (dvd_prefixLength keySize) (by omega) prefixLe
  rw [prefixEq, headD_take (by omega)] at head
  rw [prefixEq, Span.read_take _ prefixRoom] at declared
  have keyLength : (Span.read 1 keySize.toNat plain.toList).length = keySize.toNat :=
    Span.length_read_of_le (by rw [plain.lengthEq]; omega)
  have valueSize : (Span.read (5 + keySize.toNat) valueLength.toNat plain.toList).length =
      valueLength.toNat :=
    Span.length_read_of_le (by rw [plain.lengthEq]; omega)
  have sizeEq : (align16 (entryLength keySize valueLength)).toNat =
      padded (recordLength (Span.read 1 keySize.toNat plain.toList)
        (Span.read (5 + keySize.toNat) valueLength.toNat plain.toList)) := by
    rw [recordLength, keyLength, valueSize, entryNat]
  have starts := record_of_declared head declared room
  refine ⟨by rw [keyLength]; omega, by rw [valueSize]; exact valueLength.toNat_lt, ?_, ?_⟩
  · have bound := align16_lt (entryLength keySize valueLength)
    rw [gt_iff_lt, UInt64.lt_iff_toNat_lt, UInt64.toNat_add] at within
    rw [← sizeEq]
    omega
  · rw [← sizeEq, UInt64.ofNat_toNat]
    exact ⟨plain, decrypted, starts⟩

/-- What the first two reads of a round have checked and decrypted is declared at its place. -/
theorem declares_of_plainAt (blockwise : ssl.XtsBlockwise) {offset : UInt64} {file : File}
    {block : Bytes 16} (first : file.plainAt ssl xtsKey offset 16 = some block) {keySize : UInt8}
    (head : block.toList.headD 0 = keySize) (nonzero : keySize ≠ 0)
    (room : ¬ offset + prefixLength keySize > header.writeOffset)
    {prefixPlain : Bytes (prefixLength keySize).toNat}
    (second : file.plainAt ssl xtsKey offset _ = some prefixPlain) {valueLength : UInt32}
    (declared : getU32 (Span.read (1 + keySize.toNat) 4 prefixPlain.toList) = valueLength) :
    Declares ssl xtsKey file header.writeOffset.toNat offset.toNat keySize valueLength := by
  have seekable := seekable_of_plainAt ssl xtsKey first (by omega)
  have start := plainAt_shorter blockwise second first (dvd_prefixLength keySize)
    (Nat.dvd_refl 16) (by omega) (sixteen_le_prefixLength keySize)
  have bound := align16_lt (1 + keySize.toUInt32 + 4).toUInt64
  rw [start, headD_take (by omega)] at head
  rw [gt_iff_lt, UInt64.lt_iff_toNat_lt, UInt64.toNat_add] at room
  refine ⟨nonzero, ?_, prefixPlain, ?_, head, declared⟩
  · unfold prefixLength at room ⊢
    omega
  · rw [UInt64.ofNat_toNat]
    exact second

/-- A record of more than 2^32 bytes passes the checks only when what is left beyond 2^32 ends at
or before the write offset. -/
theorem limited_of_allowed {offset : UInt64} (seekable : offset.toNat < 2 ^ 63) {keySize : UInt8}
    {valueLength : UInt32}
    (fits : 5 + keySize.toNat + valueLength.toNat ≤ 2 ^ 32 ∨ header.writeOffset.toNat <
      offset.toNat + (padded (5 + keySize.toNat + valueLength.toNat) - 2 ^ 32))
    (within : ¬ offset + align16 (entryLength keySize valueLength) > header.writeOffset) :
    5 + keySize.toNat + valueLength.toNat ≤ 2 ^ 32 := by
  by_contra long
  have beyond := fits.resolve_left long
  rw [← align16_entryLength_of_long (Nat.not_le.mp long), Nat.add_sub_cancel] at beyond
  have bound := align16_lt (entryLength keySize valueLength)
  rw [gt_iff_lt, UInt64.lt_iff_toNat_lt, UInt64.toNat_add] at within
  omega

/-- A round at a place where the reference parser finds no record ends the scan. -/
theorem runOn_scanRound_done (blockwise : ssl.XtsBlockwise) {offset : UInt64} {file : File}
    (absent : ∀ entry, ¬ RecordAt ssl xtsKey file header.writeOffset.toNat offset.toNat entry)
    (fits : ∀ keySize valueLength,
      Declares ssl xtsKey file header.writeOffset.toNat offset.toNat keySize valueLength →
      5 + keySize.toNat + valueLength.toNat ≤ 2 ^ 32 ∨ header.writeOffset.toNat <
        offset.toNat + (padded (5 + keySize.toNat + valueLength.toNat) - 2 ^ 32))
    (found : Option Found) :
    runOn (scanRound ssl xtsKey header key offset found) file = some (.done found, file) := by
  by_cases seekable : offset.toNat < 2 ^ 63
  swap
  · simp only [scanRound, dif_neg seekable, Program.pure_eq, runOn_done]
  cases first : file.plainAt ssl xtsKey offset 16 with
  | none =>
    simp only [scanRound, dif_pos seekable, runOn_bind, runOn_seekRead offset (by omega : 0 < 16),
      Option.bind_some]
    unfold File.plainAt at first
    cases cipherRead : file.readAt offset.toNat 16 with
    | none => rfl
    | some cipher =>
      rw [cipherRead, Option.bind_some] at first
      simp only [first, Program.pure_eq, runOn_done]
  | some block =>
    obtain ⟨cipher, cipherRead, cipherPlain⟩ := Option.bind_eq_some_iff.mp first
    obtain ⟨keySize, head⟩ : ∃ keySize, block.toList.headD 0 = keySize := ⟨_, rfl⟩
    by_cases zero : keySize = 0
    · simp only [scanRound, dif_pos seekable, runOn_bind, runOn_seekRead offset (by omega : 0 < 16),
        Option.bind_some, cipherRead, cipherPlain, head, if_pos zero, Program.pure_eq, runOn_done]
    cases second : file.plainAt ssl xtsKey offset (prefixLength keySize).toNat with
    | none =>
      subst head
      simp only [scanRound, dif_pos seekable, runOn_bind, runOn_seekRead offset (by omega : 0 < 16),
        Option.bind_some, cipherRead, cipherPlain, if_neg zero, runOn_readPrefix, second,
        ite_self, Program.pure_eq, runOn_done]
    | some prefixPlain =>
      by_cases room : offset + prefixLength keySize > header.writeOffset
      · simp only [scanRound, dif_pos seekable, runOn_bind,
          runOn_seekRead offset (by omega : 0 < 16), Option.bind_some, cipherRead, cipherPlain,
          head,
          if_neg zero, runOn_readPrefix, if_pos room, Program.pure_eq, runOn_done]
      obtain ⟨valueLength, declared⟩ :
          ∃ valueLength,
            getU32 (Span.read (1 + keySize.toNat) 4 prefixPlain.toList) = valueLength :=
        ⟨_, rfl⟩
      rw [runOn_scanRound_entry ssl xtsKey header key seekable first head zero room second,
        declared]
      apply runOn_readEntry_done
      -- otherwise the whole record decrypts, and it is a record of the reference parser
      by_contra allowed
      simp only [not_or] at allowed
      obtain ⟨enough, within, readable⟩ := allowed
      obtain ⟨plain, decrypted⟩ := Option.ne_none_iff_exists'.mp readable
      have declares := declares_of_plainAt ssl xtsKey header blockwise first head zero room second
        declared
      have limited := limited_of_allowed header seekable (fits _ _ declares) within
      exact absent _ (recordAt_of_declares ssl xtsKey header blockwise declares
        (small_of_enough limited enough) within decrypted)

end Rounds

end Padlock
