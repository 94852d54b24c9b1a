/-
This file describes the bytes of a store: the header, then the records, then
what is left of the random filling. A successful `padlock_set` puts one more
record behind the others, at the cost of as many bytes of the filling, and
changes the write offset in the header; nothing else moves. A refused one
changes nothing.

This holds for every password and needs nothing of the record cipher: a call
with a wrong password is either refused or appends under whatever key it got.
-/

import Padlock.Store.Append

namespace Padlock

open Interaction

/-- The parts of a store file of a given size. -/
structure Layout (size : Nat) (file : File) (header : Header) (records tail : List UInt8) :
    Prop where
  parts : file.bytes = (headerBytes header).toList ++ (records ++ tail)
  length : file.bytes.length = size
  minimum : 8192 ≤ size
  totalSize : header.totalSize.toNat = size
  secretSize : header.encryptedSecretSize.toNat = 80
  writeOffset : header.writeOffset.toNat = padlockHeaderSize + records.length
  blocks : 16 ∣ records.length

theorem length_headerBytes (header : Header) :
    (headerBytes header).toList.length = padlockHeaderSize :=
  (headerBytes header).lengthEq

section Layout

variable {size : Nat} {file : File} {header : Header} {records tail : List UInt8}

namespace Layout

theorem lengths (layout : Layout size file header records tail) :
    padlockHeaderSize + (records.length + tail.length) = size := by
  rw [← layout.length, layout.parts, List.length_append, List.length_append, length_headerBytes]

theorem size_lt (layout : Layout size file header records tail) : size < 2 ^ 63 := by
  rw [← layout.length]
  exact file.fits

theorem accepted (layout : Layout size file header records tail) : header.accepted = true := by
  have lengths := layout.lengths
  have headerSize : padlockHeaderSize = 4096 := rfl
  rw [Header.accepted_iff, layout.totalSize, layout.writeOffset, layout.secretSize]
  exact ⟨layout.minimum, by omega, by omega, by omega⟩

theorem read_header (layout : Layout size file header records tail) :
    Span.read 0 padlockHeaderSize file.bytes = (headerBytes header).toList :=
  Span.read_between (layout.parts.trans (List.nil_append _).symm) rfl (length_headerBytes header)

theorem headerIn_read (layout : Layout size file header records tail) :
    headerIn (Span.read 0 padlockHeaderSize file.bytes) = some header := by
  have full := length_headerBytes header
  rw [layout.read_header, headerIn, dif_pos full]
  exact (headerOfBuffer_headerBytes header).trans (if_pos layout.accepted)

theorem readAt_header (layout : Layout size file header records tail) :
    (file.readAt 0 padlockHeaderSize).bind headerOfBuffer = some header := by
  rw [readAt_eq_some.mpr layout.read_header, Option.bind_some, headerOfBuffer_headerBytes,
    if_pos layout.accepted]

end Layout

/-! ### The two writes -/

/-- Writing behind the records. -/
theorem write_record (header : Header) (records tail cipher : List UInt8) :
    Span.write 0 (padlockHeaderSize + records.length) cipher
        ((headerBytes header).toList ++ (records ++ tail)) =
      (headerBytes header).toList ++ (records ++ (cipher ++ tail.drop cipher.length)) := by
  have front : padlockHeaderSize + records.length =
      ((headerBytes header).toList ++ records).length := by
    rw [List.length_append, length_headerBytes]
  rw [front, ← List.append_assoc, Span.write_append, List.append_assoc]

/-- Writing the header over the old one. -/
theorem write_over_header (header next : Header) (rest : List UInt8) :
    Span.write 0 0 (headerBytes next).toList ((headerBytes header).toList ++ rest) =
      (headerBytes next).toList ++ rest := by
  have written := Span.write_append 0 [] (headerBytes next).toList
    ((headerBytes header).toList ++ rest)
  rwa [length_headerBytes, List.drop_left' (length_headerBytes header), List.nil_append,
    List.nil_append, List.length_nil] at written

theorem serveFile_write (file : File) (offset : Nat) (data : List UInt8)
    (inside : offset + data.length ≤ file.bytes.length) :
    ∃ written, serveFile (.write offset data) file = (data.length, written) ∧
      written.bytes = Span.write 0 offset data file.bytes := by
  have room : offset + data.length < 2 ^ 63 := inside.trans_lt file.fits
  exact ⟨file.write offset data room, dif_pos room, rfl⟩

/-- An append that fits behind the records of a store. -/
structure Append.Fits (append : Append) (header : Header) (tail : List UInt8) : Prop where
  offset : append.offset = header.writeOffset
  blocks : 16 ∣ append.cipher.length
  room : append.cipher.length ≤ tail.length
  header : append.header = { header with
    writeOffset := header.writeOffset + UInt64.ofNat append.cipher.length }

/-- Data written over the beginning of the tail leaves header and records alone. -/
theorem Layout.tail_written (layout : Layout size file header records tail) {data : List UInt8}
    (room : data.length ≤ tail.length) {next : File}
    (bytes : next.bytes = Span.write 0 header.writeOffset.toNat data file.bytes) :
    Layout size next header records (data ++ tail.drop data.length) := by
  have lengths := layout.lengths
  have parts : next.bytes =
      (headerBytes header).toList ++ (records ++ (data ++ tail.drop data.length)) := by
    rw [bytes, layout.writeOffset, layout.parts, write_record]
  refine ⟨parts, ?_, layout.minimum, layout.totalSize, layout.secretSize, layout.writeOffset,
    layout.blocks⟩
  rw [parts, List.length_append, List.length_append, List.length_append, List.length_drop,
    length_headerBytes]
  omega

/-- The file between the two writes of an append that fits. -/
theorem Layout.record_written (layout : Layout size file header records tail) {append : Append}
    (fits : append.Fits header tail) :
    ∃ middle, serveFile (.write append.offset.toNat append.cipher) file =
        (append.cipher.length, middle) ∧
      Layout size middle header records (append.cipher ++ tail.drop append.cipher.length) := by
  have lengths := layout.lengths
  have room := fits.room
  obtain ⟨middle, served, middleBytes⟩ := serveFile_write file append.offset.toNat append.cipher (by
    rw [fits.offset, layout.writeOffset, layout.length]
    omega)
  rw [fits.offset] at middleBytes
  exact ⟨middle, served, layout.tail_written room middleBytes⟩

/-- The file after the second write of an append that fits. -/
theorem Layout.header_written {cipher rest : List UInt8}
    (layout : Layout size file header records (cipher ++ rest)) (blocks : 16 ∣ cipher.length)
    {next : Header} (nextEq : next = { header with
      writeOffset := header.writeOffset + UInt64.ofNat cipher.length }) :
    ∃ final, serveFile (.write 0 (headerBytes next).toList) file = (padlockHeaderSize, final) ∧
      Layout size final next (records ++ cipher) rest := by
  have lengths := layout.lengths
  have sizeLt := layout.size_lt
  have minimum := layout.minimum
  have headerSize : padlockHeaderSize = 4096 := rfl
  obtain ⟨final, served, finalBytes⟩ := serveFile_write file 0 (headerBytes next).toList (by
    rw [length_headerBytes, layout.length]
    omega)
  rw [length_headerBytes] at served
  have parts : final.bytes =
      (headerBytes next).toList ++ (records ++ cipher ++ rest) := by
    rw [finalBytes, layout.parts, write_over_header, List.append_assoc]
  rw [List.length_append] at lengths
  refine ⟨final, served, parts, ?_, minimum, ?_, ?_, ?_, ?_⟩
  · rw [parts, List.length_append, List.length_append, List.length_append, length_headerBytes]
    omega
  · rw [nextEq]
    exact layout.totalSize
  · rw [nextEq]
    exact layout.secretSize
  · rw [nextEq, UInt64.toNat_add, layout.writeOffset, UInt64.toNat_ofNat', List.length_append]
    omega
  · rw [List.length_append]
    exact (Nat.dvd_add_iff_right layout.blocks).mp blocks

/-- An append that fits succeeds and lengthens the records. -/
theorem Layout.perform (layout : Layout size file header records tail) {append : Append}
    (fits : append.Fits header tail) :
    ∃ final, append.perform.run serveFile file = some (0, final) ∧
      Layout size final append.header (records ++ append.cipher)
        (tail.drop append.cipher.length) := by
  obtain ⟨middle, first, written⟩ := layout.record_written fits
  obtain ⟨final, second, committed⟩ := written.header_written fits.blocks fits.header
  have seekable : append.offset.toNat < 2 ^ 63 := by
    have lengths := layout.lengths
    have sizeLt := layout.size_lt
    rw [fits.offset, layout.writeOffset]
    omega
  refine ⟨final, ?_, committed⟩
  rw [Append.perform, if_pos seekable, Program.run_ask, first]
  dsimp only
  rw [if_pos rfl, Append.commit, Program.run_ask, second]
  rfl

end Layout

/-! ### What a set decides to write -/

section Decision

variable {ssl : OpenSsl} {password key : CString} {value : Value} {header : Header}

/-- A record of at most 2^24 bytes has the padded length the code computes. -/
theorem align16_plainLength (short : key.bytes.length ≤ 255)
    (small : recordLength key.bytes value.bytes ≤ 2 ^ 24) :
    (align16 (plainLength key value)).toNat = padded (recordLength key.bytes value.bytes) := by
  have exact := plainLength_toNat key value short
  rw [align16_toNat_of_le (by omega), exact]

/-- An accepted decision: the sealed key came out, the record fits before the total size, and
the two writes are its encryption at the write offset and the header with the offset moved. -/
structure Decided (ssl : OpenSsl) (password key : CString) (value : Value) (header : Header)
    (size : Nat) (append : Append) (xtsKey : Bytes padlockXtsKeySize) (plain : Bytes size) :
    Prop where
  secret : decryptSecret ssl password header = some (some xtsKey)
  room : header.writeOffset.toNat + size ≤ header.totalSize.toNat
  record : plain.toList = recordBytes key.bytes value.bytes ++
    zeros (size - recordLength key.bytes value.bytes)
  offset : append.offset = header.writeOffset
  length : append.cipher.length = size
  encrypted : cryptXts ssl true xtsKey header.writeOffset plain = some ⟨append.cipher, length⟩
  header : append.header = { header with writeOffset := header.writeOffset + UInt64.ofNat size }

theorem appendFor_some {append : Append} {size : Nat}
    (sizeEq : (align16 (plainLength key value)).toNat = size)
    (enough : recordLength key.bytes value.bytes ≤ size)
    (low : header.writeOffset.toNat < 2 ^ 63)
    (decided : appendFor ssl password key value header = some (some append)) :
    ∃ xtsKey plain, Decided ssl password key value header size append xtsKey plain := by
  subst sizeEq
  have bound := align16_lt (plainLength key value)
  obtain ⟨built, buildEq, record⟩ := buildRecord_eq key value enough
  unfold appendFor at decided
  cases secret : decryptSecret ssl password header with
  | none => rw [secret] at decided; cases decided
  | some opened =>
    cases opened with
    | none => rw [secret] at decided; cases decided
    | some xtsKey =>
      simp only [secret, Option.bind_eq_bind, Option.bind_some, buildEq] at decided
      split at decided
      · cases decided
      · rename_i inside
        have room := UInt64.le_iff_toNat_le.mp (UInt64.not_lt.mp (not_or.mp inside).2)
        rw [UInt64.toNat_add] at room
        cases encrypted : cryptXts ssl true xtsKey header.writeOffset built with
        | none => rw [encrypted] at decided; cases decided
        | some cipher =>
          simp only [encrypted, Option.pure_def, Option.some.injEq] at decided
          subst decided
          refine ⟨xtsKey, built, secret, by omega, record, rfl, cipher.lengthEq, encrypted, ?_⟩
          rw [UInt64.ofNat_toNat]

/-- A decided append fits behind the records. -/
theorem Decided.fits {size length : Nat} {file : File} {records tail : List UInt8}
    {append : Append} {xtsKey : Bytes padlockXtsKeySize} {plain : Bytes length}
    (decided : Decided ssl password key value header length append xtsKey plain)
    (layout : Layout size file header records tail) (blocks : 16 ∣ length) :
    append.Fits header tail := by
  have lengths := layout.lengths
  have room := decided.room
  rw [layout.writeOffset, layout.totalSize] at room
  refine ⟨decided.offset, by rw [decided.length]; exact blocks, ?_, ?_⟩
  · rw [decided.length]
    omega
  · rw [decided.length]
    exact decided.header

/-- Unsealing 80 bytes stays inside its buffer of 88. -/
theorem decryptSecret_bounded (password : CString) (shrinks : ssl.CbcShrinks)
    (secretSize : header.encryptedSecretSize.toNat = 80) :
    ∃ secret, decryptSecret ssl password header = some secret := by
  have store_bounded {size : Nat} (buffer : Bytes size) (offset : Nat) (data : List UInt8)
      (inside : offset + data.length ≤ size) : ∃ stored, buffer.store offset data = some stored :=
    ⟨_, dif_pos inside⟩
  have encryptedLength :
      (header.encryptedSecret.toList.take header.encryptedSecretSize.toNat).length = 80 := by
    rw [List.length_take, secretSize, length_encryptedSecret]
    rfl
  unfold decryptSecret
  split
  · exact ⟨_, rfl⟩
  · cases deriveHeaderKey ssl password header.salt with
    | none => exact ⟨_, rfl⟩
    | some key =>
      dsimp only
      cases update : ssl.cbcDecryptUpdate key header.iv
          (header.encryptedSecret.toList.take header.encryptedSecretSize.toNat) with
      | none => exact ⟨_, rfl⟩
      | some first =>
        obtain ⟨firstLe, finalLe⟩ := shrinks _ _ _ _ update
        rw [encryptedLength] at firstLe finalLe
        obtain ⟨stored, storedEq⟩ := store_bounded (Bytes.cleared (padlockSecretSize + 16)) 0 first
          (by rw [padlockSecretSize]; omega)
        dsimp only
        rw [storedEq]
        simp only [Option.bind_eq_bind, Option.bind_some]
        cases final : ssl.cbcDecryptFinal key header.iv
            (header.encryptedSecret.toList.take header.encryptedSecretSize.toNat) with
        | none => exact ⟨_, rfl⟩
        | some last =>
          have both := finalLe last final
          obtain ⟨whole, wholeEq⟩ := store_bounded stored first.length last
            (by rw [padlockSecretSize]; omega)
          dsimp only
          rw [wholeEq, Option.bind_some]
          split
          · exact ⟨_, rfl⟩
          · split <;> exact ⟨_, rfl⟩

/-- A set of a small record decides without leaving its buffers. -/
theorem appendFor_bounded {secret : Option (Bytes padlockXtsKeySize)}
    (opened : decryptSecret ssl password header = some secret)
    (enough : recordLength key.bytes value.bytes ≤ (align16 (plainLength key value)).toNat) :
    ∃ decision, appendFor ssl password key value header = some decision := by
  obtain ⟨plain, built, -⟩ := buildRecord_eq key value enough
  unfold appendFor
  rw [opened]
  cases secret with
  | none => exact ⟨_, rfl⟩
  | some xtsKey =>
    simp only [Option.bind_eq_bind, Option.bind_some, built]
    split
    · exact ⟨_, rfl⟩
    · cases cryptXts ssl true xtsKey header.writeOffset plain <;> exact ⟨_, rfl⟩

end Decision

/-! ### Sets on a store -/

section Sets

variable {ssl : OpenSsl} {path password key : CString} {value : Value} {size : Nat} {file : File}
  {header : Header} {records tail : List UInt8}

/-- The call of `padlock_set` with all its arguments given. -/
abbrev callSet (ssl : OpenSsl) (path password key : CString) (value : Value) : Stdio Int :=
  padlockSet ssl (some path) (some password) (some key) (some value)

theorem runOn_set_badKey (bad : key.bytes.length = 0 ∨ key.bytes.length > 255) (file : File) :
    runOn (callSet ssl path password key value) file = some (-1, file) := by
  rw [runOn, onFile_padlockSet, if_pos bad, Program.run_done]

theorem Layout.runOn_set (layout : Layout size file header records tail)
    (good : ¬ (key.bytes.length = 0 ∨ key.bytes.length > 255)) :
    runOn (callSet ssl path password key value) file =
      (performFor ssl password key value (some header)).run serveFile file := by
  rw [runOn, onFile_padlockSet, if_neg good, Program.run_ask, serveFile]
  dsimp only
  rw [layout.headerIn_read]

/-- Every set on a store either changes nothing or appends its record. -/
theorem Layout.set_cases (path password : CString)
    (layout : Layout size file header records tail) (shrinks : ssl.CbcShrinks)
    (small : recordLength key.bytes value.bytes ≤ 2 ^ 24) :
    runOn (callSet ssl path password key value) file = some (-1, file) ∨
      ∃ append xtsKey plain final,
        Decided ssl password key value header (padded (recordLength key.bytes value.bytes)) append
          xtsKey plain ∧
        runOn (callSet ssl path password key value) file = some (0, final) ∧
        Layout size final append.header (records ++ append.cipher)
          (tail.drop append.cipher.length) := by
  by_cases bad : key.bytes.length = 0 ∨ key.bytes.length > 255
  · exact .inl (runOn_set_badKey bad file)
  have lengthNat := align16_plainLength (by omega) small
  have enough := le_padded (recordLength key.bytes value.bytes)
  obtain ⟨secret, opened⟩ := decryptSecret_bounded password shrinks layout.secretSize
  obtain ⟨decision, decided⟩ := appendFor_bounded opened (by rw [lengthNat]; exact enough)
  rw [layout.runOn_set bad, performFor, decided, Program.bounded_some, Program.done_bind]
  cases decision with
  | none => exact .inl rfl
  | some append =>
    have lengths := layout.lengths
    have sizeLt := layout.size_lt
    obtain ⟨xtsKey, plain, accepted⟩ := appendFor_some lengthNat enough
      (by rw [layout.writeOffset]; omega) decided
    obtain ⟨final, performed, grown⟩ := layout.perform (accepted.fits layout (dvd_padded _))
    exact .inr ⟨append, xtsKey, plain, final, accepted, performed, grown⟩

end Sets

end Padlock
