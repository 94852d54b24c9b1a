/-
This file proves that the encoder and the decoder of the header belong
together: what `write_header` puts into a file `read_header` takes out again,
the decoder looks at the magic, the version and bytes 24 to 203 and at nothing
else, and every one of the bytes it looks at comes back from the encoder.
-/

import Padlock.Store.Lookup

namespace Padlock

open Interaction

/-! ### The bytes the decoder looks at -/

theorem getU32_injective {first second : List UInt8} (firstFull : first.length = 4)
    (secondFull : second.length = 4) (same : getU32 first = getU32 second) : first = second := by
  rw [← putU32_getU32 firstFull, same, putU32_getU32 secondFull]

theorem getU64_injective {first second : List UInt8} (firstFull : first.length = 8)
    (secondFull : second.length = 8) (same : getU64 first = getU64 second) : first = second := by
  rw [← putU64_getU64 firstFull, same, putU64_getU64 secondFull]

theorem length_read_buffer (buffer : Bytes padlockHeaderSize) {offset count : Nat}
    (inside : offset + count ≤ padlockHeaderSize) :
    (Span.read offset count buffer.toList).length = count :=
  Span.length_read_of_le (by rw [buffer.lengthEq]; exact inside)

/-- The six fields fill bytes 24 to 203 without a gap. -/
theorem read_fields (buffer : Bytes padlockHeaderSize) :
    Span.read 24 180 buffer.toList =
      Span.read 24 8 buffer.toList ++ (Span.read 32 8 buffer.toList ++
        (Span.read 40 16 buffer.toList ++ (Span.read 56 16 buffer.toList ++
          (Span.read 72 4 buffer.toList ++ Span.read 76 128 buffer.toList)))) := by
  rw [← Span.read_add 72 4 128, ← Span.read_add 56 16 (4 + 128), ← Span.read_add 40 16,
    ← Span.read_add 32 8, ← Span.read_add 24 8]

/-- Two buffers have the same fields exactly when they have the same bytes 24 to 203. -/
theorem headerFields_eq_iff {first second : Bytes padlockHeaderSize} :
    headerFields first = headerFields second ↔
      Span.read 24 180 first.toList = Span.read 24 180 second.toList := by
  constructor
  · intro same
    have total : Span.read 24 8 first.toList = Span.read 24 8 second.toList :=
      getU64_injective (length_read_buffer first (by decide))
        (length_read_buffer second (by decide)) (congrArg Header.totalSize same)
    have offset : Span.read 32 8 first.toList = Span.read 32 8 second.toList :=
      getU64_injective (length_read_buffer first (by decide))
        (length_read_buffer second (by decide)) (congrArg Header.writeOffset same)
    have salt : Span.read 40 16 first.toList = Span.read 40 16 second.toList :=
      congrArg (fun header => header.salt.toList) same
    have iv : Span.read 56 16 first.toList = Span.read 56 16 second.toList :=
      congrArg (fun header => header.iv.toList) same
    have secretSize : Span.read 72 4 first.toList = Span.read 72 4 second.toList :=
      getU32_injective (length_read_buffer first (by decide))
        (length_read_buffer second (by decide)) (congrArg Header.encryptedSecretSize same)
    have secret : Span.read 76 128 first.toList = Span.read 76 128 second.toList :=
      congrArg (fun header => header.encryptedSecret.toList) same
    rw [read_fields, read_fields, total, offset, salt, iv, secretSize, secret]
  · intro same
    have part (offset count : Nat) (inside : offset + count ≤ 180) :
        Span.read (24 + offset) count first.toList =
          Span.read (24 + offset) count second.toList := by
      rw [← Span.read_read first.toList inside, same, Span.read_read second.toList inside]
    have salt : subarray first 40 padlockSaltSize (by decide) =
        subarray second 40 padlockSaltSize (by decide) :=
      subarray_eq (part 16 padlockSaltSize (by decide))
    have iv : subarray first 56 padlockIvSize (by decide) =
        subarray second 56 padlockIvSize (by decide) :=
      subarray_eq (part 32 padlockIvSize (by decide))
    have secret : subarray first 76 128 (by decide) = subarray second 76 128 (by decide) :=
      subarray_eq (part 52 128 (by decide))
    unfold headerFields
    rw [part 0 8 (by decide), part 8 8 (by decide), part 48 4 (by decide), salt, iv, secret]

/-- The decoder accepts a buffer with the magic, the version and fields within their ranges. -/
theorem headerOfBuffer_eq_some_iff {buffer : Bytes padlockHeaderSize} {header : Header} :
    headerOfBuffer buffer = some header ↔
      Span.read 0 7 buffer.toList = padlockMagic ∧ Span.read 8 4 buffer.toList = putU32 1 ∧
        headerFields buffer = header ∧ header.accepted = true := by
  have version : Span.read 8 4 buffer.toList = putU32 1 ↔
      getU32 (Span.read 8 4 buffer.toList) = 1 := by
    constructor
    · intro same
      rw [same, getU32_putU32]
    · intro same
      rw [← putU32_getU32 (length_read_buffer buffer (by decide)), same]
  constructor
  · intro read
    obtain ⟨fields, accepted⟩ := headerOfBuffer_eq_some read
    rw [version]
    unfold headerOfBuffer at read
    split at read
    · cases read
    · rename_i headed
      rw [not_or, not_ne_iff, not_ne_iff] at headed
      exact ⟨headed.1, headed.2, fields, accepted⟩
  · rintro ⟨magic, numbered, rfl, accepted⟩
    rw [version] at numbered
    have headed : ¬ (Span.read 0 padlockMagic.length buffer.toList ≠ padlockMagic
        ∨ getU32 (Span.read 8 4 buffer.toList) ≠ 1) := by
      rw [not_or, not_ne_iff, not_ne_iff]
      exact ⟨magic, numbered⟩
    rw [headerOfBuffer, if_neg headed, if_pos accepted]

/-- Buffers with the same bytes where the decoder looks decode alike. -/
theorem headerOfBuffer_congr {first second : Bytes padlockHeaderSize}
    (magic : Span.read 0 7 first.toList = Span.read 0 7 second.toList)
    (version : Span.read 8 4 first.toList = Span.read 8 4 second.toList)
    (fields : Span.read 24 180 first.toList = Span.read 24 180 second.toList) :
    headerOfBuffer first = headerOfBuffer second := by
  apply Option.ext
  intro header
  rw [headerOfBuffer_eq_some_iff, headerOfBuffer_eq_some_iff, magic, version,
    headerFields_eq_iff.mpr fields]

/-- Buffers that decode to the same header have the same bytes where the decoder looks. -/
theorem getElem?_eq_of_decoded_eq {first second : Bytes padlockHeaderSize} {header : Header}
    (firstDecoded : headerOfBuffer first = some header)
    (secondDecoded : headerOfBuffer second = some header) {index : Nat}
    (inside : index < padlockHeaderSize) (notGap : index ≠ 7)
    (notSize : ¬ (12 ≤ index ∧ index ≤ 23)) (notRest : ¬ (204 ≤ index ∧ index ≤ 4095)) :
    first.toList[index]? = second.toList[index]? := by
  obtain ⟨firstMagic, firstVersion, firstFields, -⟩ := headerOfBuffer_eq_some_iff.mp firstDecoded
  obtain ⟨secondMagic, secondVersion, secondFields, -⟩ :=
    headerOfBuffer_eq_some_iff.mp secondDecoded
  have size : padlockHeaderSize = 4096 := rfl
  have magic := Span.read_eq_read_iff.mp (firstMagic.trans secondMagic.symm)
  have version := Span.read_eq_read_iff.mp (firstVersion.trans secondVersion.symm)
  have fields := Span.read_eq_read_iff.mp
    (headerFields_eq_iff.mp (firstFields.trans secondFields.symm))
  rcases Nat.lt_or_ge index 8 with low | high
  · exact magic index (by omega) (by omega)
  · rcases Nat.lt_or_ge index 12 with below | above
    · exact version index high (by omega)
    · exact fields index (by omega) (by omega)

/-! ### On files -/

theorem runOn_seekWrite {offset : UInt64} {data : List UInt8} (file : File)
    (room : offset.toNat + data.length < 2 ^ 63) :
    runOn (seekWrite offset data) file = some (true, file.write offset.toNat data room) := by
  have served : serveFile (.write offset.toNat data) file =
      (data.length, file.write offset.toNat data room) := dif_pos room
  rw [runOn, onFile_seekWrite, if_pos (by omega), Program.run_ask, served, Program.run_done,
    beq_self_eq_true]

theorem write_start (buffer : Bytes padlockHeaderSize) (bytes : List UInt8) :
    Span.write 0 (UInt64.toNat 0) buffer.toList bytes =
      buffer.toList ++ bytes.drop padlockHeaderSize := by
  have placed := Span.write_append 0 [] buffer.toList bytes
  rw [List.nil_append, List.nil_append, buffer.lengthEq] at placed
  exact placed

/-- `write_header` succeeds on every file, and changes its first 4096 bytes. -/
theorem runOn_writeHeader (header : Header) (file : File) :
    ∃ written : File, runOn (writeHeader header) file = some (true, written) ∧
      written.bytes = (headerBytes header).toList ++ file.bytes.drop padlockHeaderSize := by
  have size := (headerBytes header).lengthEq
  have room : UInt64.toNat 0 + (headerBytes header).toList.length < 2 ^ 63 := by
    rw [size]
    decide
  exact ⟨_, runOn_seekWrite file room, write_start (headerBytes header) file.bytes⟩

theorem readAt_append {file : File} (buffer : Bytes padlockHeaderSize) {rest : List UInt8}
    (split : file.bytes = buffer.toList ++ rest) :
    file.readAt 0 padlockHeaderSize = some buffer := by
  apply readAt_eq_some.mpr
  exact Span.read_between (split.trans (List.nil_append _).symm) rfl buffer.lengthEq

/-- A file that is long enough is read as its first 4096 bytes decode. -/
theorem runOn_readHeader_append {file : File} (buffer : Bytes padlockHeaderSize)
    {rest : List UInt8} (split : file.bytes = buffer.toList ++ rest) :
    runOn readHeader file = some (headerOfBuffer buffer, file) := by
  rw [runOn_readHeader, readAt_append buffer split, Option.bind_some]

/-- What `read_header` accepts has its 4096 bytes. -/
theorem exists_buffer_of_readHeader {file : File} {header : Header}
    (read : runOn readHeader file = some (some header, file)) :
    ∃ buffer : Bytes padlockHeaderSize,
      file.bytes = buffer.toList ++ file.bytes.drop padlockHeaderSize ∧
        headerOfBuffer buffer = some header := by
  rw [runOn_readHeader, Option.some.injEq, Prod.mk.injEq, Option.bind_eq_some_iff] at read
  obtain ⟨buffer, found, decoded⟩ := read.1
  refine ⟨buffer, ?_, decoded⟩
  rw [← readAt_eq_some.mp found, Span.read, List.drop_zero, List.take_append_drop]

/-- The first 4096 bytes of a file that has them. -/
theorem exists_buffer_of_le {file : File} (long : padlockHeaderSize ≤ file.bytes.length) :
    ∃ buffer : Bytes padlockHeaderSize,
      file.bytes = buffer.toList ++ file.bytes.drop padlockHeaderSize :=
  ⟨⟨file.bytes.take padlockHeaderSize, by rw [List.length_take]; omega⟩,
    (List.take_append_drop ..).symm⟩

/-- The header codec. On every file `write_header` succeeds, and `read_header` then gives the header
back when its numbers are in range and refuses it otherwise. Writing back an accepted header
changes at most bytes 7, 12 to 23 and 204 to 4095, and it is accepted again; and what
`read_header` makes of a file of at least 4096 bytes depends on bytes 0 to 6, 8 to 11 and 24 to 203
alone. -/
theorem readHeader_writeHeader :
    (∀ (header : Header) (file : File), ∃ written : File,
      runOn (writeHeader header) file = some (true, written) ∧
        runOn readHeader written = some
          (if 8192 ≤ header.totalSize.toNat ∧ 4096 ≤ header.writeOffset.toNat ∧
              header.writeOffset.toNat ≤ header.totalSize.toNat ∧
              header.encryptedSecretSize.toNat ≤ 128 then some header else none, written)) ∧
    (∀ (header : Header) (file : File), runOn readHeader file = some (some header, file) →
      ∃ written : File, runOn (writeHeader header) file = some (true, written) ∧
        (∀ index, index ≠ 7 → ¬ (12 ≤ index ∧ index ≤ 23) → ¬ (204 ≤ index ∧ index ≤ 4095) →
          written.bytes[index]? = file.bytes[index]?) ∧
        runOn readHeader written = some (some header, written)) ∧
    (∀ first second : File, 4096 ≤ first.bytes.length → 4096 ≤ second.bytes.length →
      (∀ index, index ≤ 6 ∨ (8 ≤ index ∧ index ≤ 11) ∨ (24 ≤ index ∧ index ≤ 203) →
        first.bytes[index]? = second.bytes[index]?) →
      (runOn readHeader first).map Prod.fst = (runOn readHeader second).map Prod.fst) := by
  refine ⟨?_, ?_, ?_⟩
  · intro header file
    obtain ⟨written, wrote, split⟩ := runOn_writeHeader header file
    refine ⟨written, wrote, ?_⟩
    simp only [runOn_readHeader_append _ split, headerOfBuffer_headerBytes, header.accepted_iff]
  · intro header file read
    obtain ⟨buffer, fileSplit, decoded⟩ := exists_buffer_of_readHeader read
    obtain ⟨written, wrote, split⟩ := runOn_writeHeader header file
    have accepted := (headerOfBuffer_eq_some decoded).2
    have again : headerOfBuffer (headerBytes header) = some header := by
      rw [headerOfBuffer_headerBytes, if_pos accepted]
    refine ⟨written, wrote, ?_, ?_⟩
    · intro index notGap notSize notRest
      by_cases inside : index < padlockHeaderSize
      · rw [split, fileSplit,
          List.getElem?_append_left (by rw [(headerBytes header).lengthEq]; exact inside),
          List.getElem?_append_left (by rw [buffer.lengthEq]; exact inside)]
        exact getElem?_eq_of_decoded_eq again decoded inside notGap notSize notRest
      · rw [split, fileSplit,
          List.getElem?_append_right (by rw [(headerBytes header).lengthEq]; omega),
          List.getElem?_append_right (by rw [buffer.lengthEq]; omega), buffer.lengthEq,
          (headerBytes header).lengthEq, ← fileSplit]
    · rw [runOn_readHeader_append _ split, again]
  · intro first second firstLong secondLong same
    obtain ⟨firstBuffer, firstSplit⟩ := exists_buffer_of_le firstLong
    obtain ⟨secondBuffer, secondSplit⟩ := exists_buffer_of_le secondLong
    rw [runOn_readHeader_append _ firstSplit, runOn_readHeader_append _ secondSplit,
      Option.map_some, Option.map_some]
    congr 1
    have range (offset count : Nat) (inside : offset + count ≤ padlockHeaderSize)
        (agree : ∀ index, offset ≤ index → index < offset + count →
          first.bytes[index]? = second.bytes[index]?) :
        Span.read offset count firstBuffer.toList = Span.read offset count secondBuffer.toList := by
      have whole := Span.read_eq_read_iff.mpr agree
      rwa [firstSplit, secondSplit,
        Span.read_append_left _ (by rw [firstBuffer.lengthEq]; exact inside),
        Span.read_append_left _ (by rw [secondBuffer.lengthEq]; exact inside)] at whole
    apply headerOfBuffer_congr
    · exact range 0 7 (by decide) fun index _ below => same index (by omega)
    · exact range 8 4 (by decide) fun index above below => same index (by omega)
    · exact range 24 180 (by decide) fun index above below => same index (by omega)

end Padlock
