/-
This file is about sets on a buffered stream. A stream takes bytes before it
writes them: `fwrite` may keep any part of them back, a seek writes what was kept
back and reports when it cannot, and so does the close. `padlock_set` looks at
what the seek before the header says, so its record is in the file when it
returns 0; it does not look at what the close says, and the header may be lost.
-/

import Padlock.Store.Crash

namespace Padlock

open Interaction KeyValueLog

/-! ### The stream -/

/-- A stream open for writing: the file behind it, and the bytes that have not reached the file,
with the place they belong to. Once it is closed they never will. -/
structure Stream where
  file : File
  position : Nat
  pending : List UInt8

/-- The stream of a file that has just been opened. -/
def Stream.opened (file : File) : Stream := { file, position := 0, pending := [] }

/-- The first `count` bytes kept back are written. -/
structure Stream.Delivers (stream : Stream) (count : Nat) (next : Stream) : Prop where
  within : count ≤ stream.pending.length
  position : next.position = stream.position + count
  pending : next.pending = stream.pending.drop count
  bytes : next.file.bytes = if count = 0 then stream.file.bytes
    else Span.write 0 stream.position (stream.pending.take count) stream.file.bytes

/-- The answers of a buffered stream. Of the bytes it was given or keeps back it may write any
number: a seek that could not write all of them fails, and a close that could not reports it. -/
def buffered : Surroundings Request Response Stream
  | .seekRead offset count, stream, bytes, next =>
    ∃ delivered, stream.Delivers delivered next ∧
      (bytes = [] ∨ next.pending = [] ∧ bytes <+: Span.read offset count next.file.bytes)
  | .seekWrite offset data, stream, written, next =>
    ∃ delivered flushed, stream.Delivers delivered flushed ∧
      (written = 0 ∧ next = flushed ∨
        flushed.pending = [] ∧ written ≤ data.length ∧
          ∃ more, Stream.Delivers
            { file := flushed.file, position := offset, pending := data.take written } more next)
  | .fclose, stream, reported, next =>
    ∃ delivered, stream.Delivers delivered next ∧ (reported = true ↔ next.pending = [])
  | _, stream, _, next => next = stream

section Stream

variable {stream middle next : Stream} {count more : Nat}

theorem Stream.Delivers.bytes_eq (delivers : stream.Delivers count next)
    (inside : stream.position ≤ stream.file.bytes.length) :
    next.file.bytes =
      Span.write 0 stream.position (stream.pending.take count) stream.file.bytes := by
  rw [delivers.bytes]
  split
  · rename_i zero
    rw [zero, List.take_zero, Span.write_nil 0 inside]
  · rfl

/-- With nothing kept back nothing is written. -/
theorem Stream.Delivers.idle (delivers : stream.Delivers count next)
    (nothing : stream.pending = []) : next.file = stream.file ∧ next.pending = [] := by
  have zero : count = 0 := by
    have within := delivers.within
    rw [nothing, List.length_nil] at within
    omega
  refine ⟨File.ext ?_, ?_⟩
  · rw [delivers.bytes, if_pos zero]
  · rw [delivers.pending, nothing, List.drop_nil]

theorem Stream.Delivers.trans (first : stream.Delivers count middle)
    (second : middle.Delivers more next)
    (inside : stream.position ≤ stream.file.bytes.length) :
    stream.Delivers (count + more) next := by
  have within := first.within
  have withinMore := second.within
  rw [first.pending, List.length_drop] at withinMore
  have taken : (stream.pending.take count).length = count := by
    rw [List.length_take, Nat.min_eq_left within]
  have reached : middle.position ≤ middle.file.bytes.length := by
    rw [first.position, first.bytes_eq inside, Span.length_write_le, taken]
    exact Nat.le_max_right ..
  have whole : next.file.bytes =
      Span.write 0 stream.position (stream.pending.take (count + more)) stream.file.bytes := by
    have joined := Span.write_write 0 (stream.pending.take count)
      ((stream.pending.drop count).take more) inside
    rw [taken, ← List.take_add] at joined
    rw [second.bytes_eq reached, first.bytes_eq inside, first.position, first.pending, joined]
  refine ⟨by omega, ?_, ?_, ?_⟩
  · rw [second.position, first.position, Nat.add_assoc]
  · rw [second.pending, first.pending, List.drop_drop]
  · rw [whole]
    split
    · rename_i zero
      rw [zero, List.take_zero, Span.write_nil 0 inside]
    · rfl

/-- A read that gave all it was asked for, with nothing kept back before. -/
theorem buffered_read {offset size : Nat} {bytes : List UInt8}
    (answered : buffered (.seekRead offset size) stream bytes next)
    (nothing : stream.pending = []) (full : bytes.length = size) (positive : 0 < size) :
    bytes = Span.read offset size stream.file.bytes ∧ next.file = stream.file ∧
      next.pending = [] := by
  obtain ⟨delivered, delivers, empty | ⟨-, front⟩⟩ := answered
  · rw [empty, List.length_nil] at full
    omega
  · obtain ⟨same, none⟩ := delivers.idle nothing
    rw [same] at front
    refine ⟨front.eq_of_length_le ?_, same, none⟩
    rw [full, Span.length_read]
    exact Nat.min_le_left ..

/-- A write that took all it was given: what was kept back before has reached the file, and of
the data some first part has. -/
theorem buffered_write {offset : Nat} {data : List UInt8}
    (answered : buffered (.seekWrite offset data) stream data.length next)
    (nonempty : data ≠ []) :
    ∃ delivered flushed, stream.Delivers delivered flushed ∧ flushed.pending = [] ∧
      ∃ more, Stream.Delivers { file := flushed.file, position := offset, pending := data } more
        next := by
  obtain ⟨delivered, flushed, delivers, ⟨zero, -⟩ | ⟨none, -, more, rest⟩⟩ := answered
  · exact absurd (List.length_eq_zero_iff.mp zero) nonempty
  · rw [List.take_length] at rest
    exact ⟨delivered, flushed, delivers, none, more, rest⟩

end Stream

/-! ### A set that returns 0 -/

section Executions

variable {ssl : OpenSsl} {path password key : CString} {value : Value} {file : File}
  {stream stored final : Stream} {header : Header} {append : Append}

/-- The file between the two writes: the record has reached it in full, because the seek in
`write_header` has said so. -/
theorem Stores.record_delivered
    (stores : Stores buffered ssl password key value (.opened file) header append stored) :
    headerIn (Span.read 0 padlockHeaderSize file.bytes) = some header ∧
      (append.cipher ≠ [] → append.offset.toNat ≤ file.bytes.length → ∃ middle : File,
        middle.bytes = Span.write 0 append.offset.toNat append.cipher file.bytes ∧
          ∃ count, Stream.Delivers
            { file := middle, position := 0, pending := (headerBytes append.header).toList } count
            stored) := by
  obtain ⟨-, read, first, second, written, reading, rfl, rfl, writing, committing⟩ := stores
  obtain ⟨bytes, answered, headerEq⟩ := exec_readHeader.mp reading
  obtain ⟨rfl, same, nothing⟩ := buffered_read answered rfl (length_of_headerIn headerEq.symm)
    (by decide)
  refine ⟨headerEq.symm, fun nonempty inside => ?_⟩
  obtain ⟨delivered, flushed, delivers, -, taken, recording⟩ :=
    buffered_write (exec_seekWrite.mp writing).2 nonempty
  rw [(delivers.idle nothing).1, same] at recording
  have headerNonempty : (headerBytes append.header).toList ≠ [] := by
    rw [← List.length_pos_iff, length_headerBytes]
    decide
  obtain ⟨rest, middle, flushing, empty, count, rewriting⟩ :=
    buffered_write (exec_seekWrite.mp committing).2 headerNonempty
  -- the seek has written what the first `fwrite` kept back
  have whole := recording.trans flushing inside
  have all : append.cipher.length ≤ taken + rest := by
    rw [← List.drop_eq_nil_iff, ← empty, whole.pending]
  refine ⟨middle.file, ?_, count, rewriting⟩
  rw [whole.bytes_eq inside, List.take_of_length_le all]
  rfl

theorem buffered_freeBlock {block : Option Block} {next : Stream}
    (execution : Program.Exec buffered (freeBlock block) stream () next) : next = stream := by
  cases block with
  | none => exact (Program.exec_done.mp execution).2
  | some block => exact Program.exec_request.mp execution

/-- A set that returns 0: its two writes, and then the close, which writes what it can. -/
theorem stores_of_returned
    (execution : Program.Exec buffered (callSet ssl path password key value) (.opened file) 0
      final) :
    key.bytes.length ≠ 0 ∧ key.bytes.length ≤ 255 ∧ ∃ header append stored count,
      Stores buffered ssl password key value (.opened file) header append stored ∧
        stored.Delivers count final := by
  by_cases bad : key.bytes.length = 0 ∨ key.bytes.length > 255
  · simp only [callSet, padlockSet, if_pos bad] at execution
    cases (Program.exec_done.mp execution).1
  obtain ⟨nonempty, short⟩ := not_or.mp bad
  refine ⟨nonempty, Nat.not_lt.mp short, ?_⟩
  obtain ⟨-, returned⟩ | ⟨finish, opened, stored, opening, storing,
      ⟨reported, closed, ⟨count, delivers, -⟩, freeing⟩, returned⟩ :=
    (exec_padlockSet nonempty (Nat.not_lt.mp short)).mp execution
  · cases returned
  obtain rfl := (opening : opened = _)
  obtain ⟨_, middle, first, second⟩ := Program.exec_bind.mp freeing
  obtain rfl := buffered_freeBlock first
  obtain rfl := buffered_freeBlock second
  obtain failed | ⟨-, header, append, stores⟩ := exec_setStore storing
  · rw [failed] at returned
    cases returned
  · exact ⟨header, append, stored, count, stores, delivers⟩

end Executions

/-! ### The header on its way -/

section Header

variable (header : Header) (writeOffset : UInt64)

/-- A part of the new header before the rest of the old one reads as the new one only when it is
the new one. -/
theorem mixed_header {next : Header} (nextEq : next = { header with writeOffset }) {count : Nat}
    (within : count ≤ padlockHeaderSize) {mixed : Bytes padlockHeaderSize}
    (mixedEq : mixed.toList = (headerBytes next).toList.take count ++
      (headerBytes header).toList.drop count)
    (decoded : headerOfBuffer mixed = some next) :
    mixed.toList = (headerBytes next).toList := by
  subst nextEq
  have offset : Span.read 32 8 mixed.toList = putU64 writeOffset := by
    have length : (Span.read 32 8 mixed.toList).length = 8 :=
      Span.length_read_of_le (by rw [mixed.lengthEq]; decide)
    rw [← putU64_getU64 length]
    exact congrArg putU64 (congrArg Header.writeOffset (headerOfBuffer_eq_some decoded).1)
  apply List.ext_getElem?
  intro index
  by_cases inside : 32 ≤ index ∧ index < 40
  case neg =>
    have taken : ((headerBytes { header with writeOffset }).toList.take count).length = count := by
      rw [List.length_take, length_headerBytes, Nat.min_eq_left within]
    rw [mixedEq]
    by_cases front : index < count
    · rw [List.getElem?_append_left (by rw [taken]; exact front), List.getElem?_take_of_lt front]
    · rw [List.getElem?_append_right (by rw [taken]; omega), taken, List.getElem?_drop,
        Nat.add_sub_cancel' (Nat.not_lt.mp front), getElem?_headerBytes header writeOffset inside]
  case pos =>
    have readIndex (bytes : List UInt8) :
        bytes[index]? = (Span.read 32 8 bytes)[index - 32]? := by
      rw [Span.getElem?_read, if_pos (by omega)]
      congr 1
      omega
    rw [readIndex, readIndex (headerBytes _).toList, offset,
      read_headerBytes_offset { header with writeOffset }]

end Header

/-! ### What is in the file -/

/-- The update of a set is in a file: the record stands at the place it was written to, the header
has the advanced write offset, and a lookup finds the value. -/
structure Landed (ssl : OpenSsl) (path password key : CString) (value : Value) (append : Append)
    (file : File) : Prop where
  record : Span.read append.offset.toNat append.cipher.length file.bytes = append.cipher
  header : headerIn (Span.read 0 padlockHeaderSize file.bytes) = some append.header
  found : runOn (callGet ssl path password key) file =
    some (some (Found.ofValue value.bytes), file)

section Landing

variable {ssl : OpenSsl} {path password key : CString} {value : Value} {size : Nat} {file : File}
  {log : List Entry} {header : Header} {records tail : List UInt8}
  {xtsKey : Bytes padlockXtsKeySize} {append : Append} {middle final : File} {count : Nat}

/-- A file with the record behind the others and the new header has the update. -/
theorem Appending.landed_of_committed
    (appending : Appending ssl password key value size file log header records tail xtsKey append)
    (blockwise : ssl.XtsBlockwise) {rest : List UInt8}
    (committed : Layout size final append.header (records ++ append.cipher) rest) :
    Landed ssl path password key value append final := by
  refine ⟨?_, committed.headerIn_read, ?_⟩
  · have place : ((headerBytes append.header).toList ++ records).length =
        append.offset.toNat := by
      rw [List.length_append, length_headerBytes, appending.fits.offset,
        appending.layout.writeOffset]
    have split : final.bytes = ((headerBytes append.header).toList ++ records) ++
        (append.cipher ++ rest) := by
      rw [committed.parts, List.append_assoc, List.append_assoc]
    exact Span.read_between split place rfl
  · rw [(appending.after committed).runOn_get blockwise, latest_concat_self, Option.map_some]

/-- With the record in the file and a first part of the new header, the update is there exactly
when that part has every byte in which the headers differ. -/
theorem Appending.landed_iff
    (appending : Appending ssl password key value size file log header records tail xtsKey append)
    (blockwise : ssl.XtsBlockwise)
    (recorded : middle.bytes = Span.write 0 append.offset.toNat append.cipher file.bytes)
    (within : count ≤ padlockHeaderSize)
    (rewritten : final.bytes =
      Span.write 0 0 ((headerBytes append.header).toList.take count) middle.bytes) :
    Landed ssl path password key value append final ↔
      ∀ index, (headerBytes append.header).toList[index]? ≠ (headerBytes header).toList[index]? →
        index < count := by
  rw [appending.fits.offset] at recorded
  have layout := appending.layout.tail_written appending.fits.room recorded
  have bytes : final.bytes = ((headerBytes append.header).toList.take count ++
      (headerBytes header).toList.drop count) ++
        (records ++ (append.cipher ++ tail.drop append.cipher.length)) := by
    have written := Span.write_append 0 [] ((headerBytes append.header).toList.take count)
      ((headerBytes header).toList ++
        (records ++ (append.cipher ++ tail.drop append.cipher.length)))
    rw [List.nil_append, List.nil_append, List.length_nil, List.length_take, length_headerBytes,
      Nat.min_eq_left within,
      List.drop_append_of_le_length (by rw [length_headerBytes]; exact within)] at written
    rw [rewritten, layout.parts, written, List.append_assoc]
  rw [← Span.take_append_drop_eq_iff]
  constructor
  · intro landed
    have length : ((headerBytes append.header).toList.take count ++
        (headerBytes header).toList.drop count).length = padlockHeaderSize := by
      rw [List.length_append, List.length_take, List.length_drop, length_headerBytes,
        length_headerBytes]
      omega
    have front : Span.read 0 padlockHeaderSize final.bytes =
        (headerBytes append.header).toList.take count ++
          (headerBytes header).toList.drop count :=
      Span.read_between (bytes.trans (List.nil_append _).symm) rfl length
    have read := landed.header
    rw [front, headerIn, dif_pos length] at read
    exact mixed_header header _ appending.fits.header within rfl read
  · intro whole
    obtain ⟨same, -, committed⟩ :=
      layout.header_written appending.fits.blocks appending.fits.header
    obtain rfl : final = same := by
      refine File.ext ?_
      rw [bytes, whole, committed.parts, List.append_assoc]
    exact appending.landed_of_committed blockwise committed

end Landing

/-- XTS refuses a range of more than 2^24 bytes. -/
def OpenSsl.XtsLimited (ssl : OpenSsl) : Prop :=
  ∀ key tweak plain, 2 ^ 24 < plain.length → ssl.xtsEncrypt key tweak plain = none

section Decision

variable {ssl : OpenSsl} {path password key : CString} {value : Value} {header : Header}

/-- A record that was built has room in its buffer. -/
theorem recordLength_of_built {length : Nat} {plain : Bytes length}
    (built : buildRecord key value length = some plain) :
    recordLength key.bytes value.bytes ≤ length := by
  unfold buildRecord at built
  obtain ⟨first, -, built⟩ := Option.bind_eq_some_iff.mp built
  obtain ⟨second, -, built⟩ := Option.bind_eq_some_iff.mp built
  obtain ⟨third, -, built⟩ := Option.bind_eq_some_iff.mp built
  have inside := Bytes.store_inside built
  unfold recordLength
  omega

/-- A set that decides to write has a record the cipher takes. -/
theorem small_of_appendFor (limited : ssl.XtsLimited) {append : Append}
    (decision : appendFor ssl password key value header = some (some append)) :
    recordLength key.bytes value.bytes ≤ 2 ^ 24 := by
  unfold appendFor at decision
  obtain ⟨secret, -, decision⟩ := Option.bind_eq_some_iff.mp decision
  cases secret with
  | none => cases decision
  | some xtsKey =>
    dsimp only at decision
    split at decision
    · cases decision
    obtain ⟨plain, built, decision⟩ := Option.bind_eq_some_iff.mp decision
    split at decision
    · rename_i cipher encrypted
      have inside := recordLength_of_built built
      by_contra long
      have refused := limited xtsKey (xtsTweak header.writeOffset) plain.toList
        (by rw [plain.lengthEq]; omega)
      rw [xtsEncrypt_of_cryptXts encrypted] at refused
      cases refused
    · cases decision

/-- What a set decides to write on a store, it decides because there is room. -/
theorem Stored.appending_of_decision {size : Nat} {file : File} {log : List Entry}
    (stored : Stored ssl password size file log) (inverts : ssl.XtsInverts)
    (limited : ssl.XtsLimited) (nonempty : key.bytes.length ≠ 0)
    (short : key.bytes.length ≤ 255) {append : Append}
    (read : headerIn (Span.read 0 padlockHeaderSize file.bytes) = some header)
    (decision : appendFor ssl password key value header = some (some append)) :
    ∃ records tail xtsKey,
      Appending ssl password key value size file log header records tail xtsKey append := by
  have small := small_of_appendFor limited decision
  by_cases room : Room size log key.bytes value.bytes
  · obtain ⟨same, records, tail, xtsKey, sameAppend, appending⟩ :=
      stored.appending inverts small room
    obtain rfl := Option.some.inj (read.symm.trans appending.layout.headerIn_read)
    obtain rfl := Option.some.inj (Option.some.inj (decision.symm.trans appending.decision))
    exact ⟨records, tail, xtsKey, appending⟩
  · obtain ⟨same, sameRead, refused⟩ := stored.appendFor_of_full small (by omega) room
    obtain rfl := Option.some.inj (read.symm.trans sameRead)
    rw [decision] at refused
    cases refused

end Decision

section Returned

variable {ssl : OpenSsl} {path password key : CString} {value : Value} {file : File}
  {header : Header} {records tail : List UInt8} {xtsKey : Bytes padlockXtsKeySize}
  {log : List Entry} {size : Nat} {append : Append}

theorem Appending.nonempty
    (appending : Appending ssl password key value size file log header records tail xtsKey append) :
    append.cipher ≠ [] ∧ append.offset.toNat ≤ file.bytes.length := by
  have lengths := appending.layout.lengths
  constructor
  · rw [← List.length_pos_iff, appending.encrypts.length]
    exact (padded_recordLength_pos _ _).trans_lt' (by omega)
  · rw [appending.fits.offset, appending.layout.writeOffset, appending.layout.length]
    omega

/-- The update of a set that returned 0 is in the file exactly when no header byte that it changes
is among those that have not reached the file. -/
theorem Stored.landed_iff (stored : Stored ssl password size file log) (lawful : ssl.Lawful)
    (limited : ssl.XtsLimited) {final : Stream}
    (execution : Program.Exec buffered (callSet ssl path password key value) (.opened file) 0
      final) :
    ∃ header append, headerIn (Span.read 0 padlockHeaderSize file.bytes) = some header ∧
      appendFor ssl password key value header = some (some append) ∧
      (Landed ssl path password key value append final.file ↔
        ∀ index, (headerBytes append.header).toList[index]? ≠ (headerBytes header).toList[index]? →
          index < padlockHeaderSize - final.pending.length) := by
  obtain ⟨nonempty, short, header, append, closed, count, stores, closing⟩ :=
    stores_of_returned execution
  obtain ⟨read, recording⟩ := stores.record_delivered
  obtain ⟨records, tail, xtsKey, appending⟩ := stored.appending_of_decision lawful.inverts limited
    nonempty short read stores.decision
  obtain ⟨middle, recorded, first, rewriting⟩ :=
    recording appending.nonempty.1 appending.nonempty.2
  -- what reached the file of the header, in the `fwrite` and in the close
  have delivered := rewriting.trans closing (Nat.zero_le _)
  have within := delivered.within
  have lost := congrArg List.length delivered.pending
  dsimp only at within lost
  rw [length_headerBytes] at within
  rw [List.length_drop, length_headerBytes] at lost
  refine ⟨header, append, read, stores.decision, ?_⟩
  rw [lost, Nat.sub_sub_self within]
  exact appending.landed_iff lawful.blockwise recorded within (delivered.bytes_eq (Nat.zero_le _))

/-- When a set on a buffered stream returns 0, its update is in the file exactly when the close,
whose result it does not look at, has lost none of the header bytes that the set changes. -/
theorem returned_zero_landed_iff (lawful : ssl.Lawful) (limited : ssl.XtsLimited) {size : UInt64}
    (reached : Reached ssl path password size file) {final : Stream}
    (execution : Program.Exec buffered (callSet ssl path password key value) (.opened file) 0
      final) :
    ∃ header append, headerIn (Span.read 0 padlockHeaderSize file.bytes) = some header ∧
      appendFor ssl password key value header = some (some append) ∧
      (Landed ssl path password key value append final.file ↔
        ∀ index, (headerBytes append.header).toList[index]? ≠ (headerBytes header).toList[index]? →
          index < padlockHeaderSize - final.pending.length) := by
  obtain ⟨log, stored⟩ := reached.stored lawful
  exact stored.landed_iff lawful limited execution

/-! Every part of the header can be the one that reaches the file, also none of it. -/

theorem Stream.exists_delivers (stream : Stream) {count : Nat}
    (within : count ≤ stream.pending.length) (room : stream.position + count < 2 ^ 63) :
    ∃ next, stream.Delivers count next := by
  have taken : stream.position + (stream.pending.take count).length < 2 ^ 63 := by
    rw [List.length_take, Nat.min_eq_left within]
    exact room
  by_cases zero : count = 0
  · exact ⟨{ stream with
      position := stream.position + count
      pending := stream.pending.drop count }, within, rfl, rfl, (if_pos zero).symm⟩
  · exact ⟨{ file := stream.file.write stream.position (stream.pending.take count) taken
             position := stream.position + count
             pending := stream.pending.drop count }, within, rfl, rfl, (if_neg zero).symm⟩

theorem Stream.delivers_zero (stream : Stream) : stream.Delivers 0 stream :=
  ⟨Nat.zero_le _, rfl, rfl, rfl⟩

theorem Appending.exec_losing (path : CString)
    (appending : Appending ssl password key value size file log header records tail xtsKey append)
    (nonempty : key.bytes.length ≠ 0) (short : key.bytes.length ≤ 255) {count : Nat}
    (within : count ≤ padlockHeaderSize) :
    ∃ final, Program.Exec buffered (callSet ssl path password key value) (.opened file) 0 final ∧
      final.pending.length = padlockHeaderSize - count := by
  have lengths := appending.layout.lengths
  have sizeLt := appending.layout.size_lt
  have fits := appending.fits.room
  have low : append.offset.toNat + append.cipher.length < 2 ^ 63 := by
    rw [appending.fits.offset, appending.layout.writeOffset]
    omega
  obtain ⟨recorded, recording⟩ := Stream.exists_delivers
    { file, position := append.offset.toNat, pending := append.cipher } le_rfl low
  have nothing : recorded.pending = [] := by
    rw [recording.pending, List.drop_length]
  have headerSize : padlockHeaderSize = 4096 := rfl
  have part : count ≤ (headerBytes append.header).toList.length := by
    rw [length_headerBytes]
    exact within
  obtain ⟨final, closing⟩ := Stream.exists_delivers
    { file := recorded.file, position := 0, pending := (headerBytes append.header).toList } part
    (by dsimp only; omega)
  have stores : Stores buffered ssl password key value (.opened file) header append
      { file := recorded.file, position := 0, pending := (headerBytes append.header).toList } := by
    refine ⟨appending.decision, .opened file, .opened file, .opened file, recorded, ?_, rfl, rfl,
      ?_, ?_⟩
    · refine exec_readHeader.mpr ⟨Span.read 0 padlockHeaderSize file.bytes, ?_,
        appending.layout.headerIn_read.symm⟩
      exact ⟨0, Stream.delivers_zero _, .inr ⟨rfl, List.prefix_refl _⟩⟩
    · refine exec_seekWrite.mpr ⟨by omega, 0, .opened file, Stream.delivers_zero _,
        .inr ⟨rfl, le_rfl, append.cipher.length, ?_⟩⟩
      rw [List.take_length]
      exact recording
    · refine exec_seekWrite.mpr ⟨by decide, 0, recorded, Stream.delivers_zero _,
        .inr ⟨nothing, le_rfl, 0, ?_⟩⟩
      rw [List.take_length]
      exact Stream.delivers_zero _
  refine ⟨final, (exec_padlockSet nonempty short).mpr (.inr ⟨.stored key value, .opened file, _,
    rfl, stores.exec, ⟨decide (final.pending = []), final, ⟨count, closing, decide_eq_true_iff⟩,
      ?_⟩, rfl⟩), ?_⟩
  · exact Program.exec_bind.mpr ⟨(), final, Program.exec_request.mpr rfl,
      Program.exec_request.mpr rfl⟩
  · rw [closing.pending, List.length_drop, length_headerBytes]

/-- The header is another one than before. -/
theorem Appending.header_differs
    (appending : Appending ssl password key value size file log header records tail xtsKey append) :
    ∃ index : Nat,
      (headerBytes append.header).toList[index]? ≠ (headerBytes header).toList[index]? := by
  by_contra same
  have bytes : (headerBytes append.header).toList = (headerBytes header).toList := by
    apply List.ext_getElem?
    intro index
    by_contra differs
    exact same ⟨index, differs⟩
  have offset := congrArg (fun bytes => getU64 (Span.read 32 8 bytes)) bytes
  simp only [read_headerBytes_offset, getU64_putU64] at offset
  have moved := congrArg UInt64.toNat offset
  have lengths := appending.layout.lengths
  have sizeLt := appending.layout.size_lt
  have fits := appending.fits.room
  have positive := List.length_pos_iff.mpr appending.nonempty.1
  have old := appending.layout.writeOffset
  rw [appending.fits.header, UInt64.toNat_add, UInt64.toNat_ofNat'] at moved
  omega

end Returned

theorem standIn_xtsLimited : standIn.XtsLimited := by
  intro key tweak plain long
  simp only [standIn, maskRange]
  exact if_pos (.inr long)

/-- A set on a fresh store can return 0 with any part of its header in the file. -/
theorem sample_losing {count : Nat} (within : count ≤ padlockHeaderSize) :
    ∃ file final header records tail xtsKey append,
      Allocated standIn samplePath 8192 samplePassword file ∧
      Appending standIn samplePassword (sampleKey true) (sampleValue true) 8192 file [] header
        records tail xtsKey append ∧
      Program.Exec buffered
        (callSet standIn samplePath samplePassword (sampleKey true) (sampleValue true))
        (.opened file) 0 final ∧
      final.pending.length = padlockHeaderSize - count := by
  obtain ⟨file, allocated⟩ := sample_allocated
  obtain ⟨header, records, tail, xtsKey, append, appending⟩ :=
    (stored_of_allocated standIn_lawful.cbc allocated).appending standIn_lawful.inverts
      (by decide : recordLength (sampleKey true).bytes (sampleValue true).bytes ≤ 2 ^ 24)
      (by decide)
  obtain ⟨final, execution, lost⟩ :=
    appending.exec_losing samplePath (by decide) (by decide) within
  exact ⟨file, final, header, records, tail, xtsKey, append, allocated, appending, execution, lost⟩

theorem returned_zero_landed_sample :
    ∃ file append final, Allocated standIn samplePath 8192 samplePassword file ∧
      Program.Exec buffered
        (callSet standIn samplePath samplePassword (sampleKey true) (sampleValue true))
        (.opened file) 0 final ∧
      Landed standIn samplePath samplePassword (sampleKey true) (sampleValue true) append
        final.file := by
  obtain ⟨file, final, -, -, -, -, -, allocated, -, execution, lost⟩ := sample_losing le_rfl
  obtain ⟨header, append, -, -, landed⟩ := returned_zero_landed_iff standIn_lawful
    standIn_xtsLimited (.allocated allocated) execution
  refine ⟨file, append, final, allocated, execution, landed.mpr fun index differs => ?_⟩
  by_contra behind
  rw [lost, Nat.sub_self, Nat.sub_zero] at behind
  refine differs ?_
  rw [List.getElem?_eq_none, List.getElem?_eq_none] <;> rw [length_headerBytes] <;> omega

/-- The close loses the header, and the set returns 0. -/
theorem returned_zero_header_lost :
    ∃ file final header append, Allocated standIn samplePath 8192 samplePassword file ∧
      Program.Exec buffered
        (callSet standIn samplePath samplePassword (sampleKey true) (sampleValue true))
        (.opened file) 0 final ∧
      headerIn (Span.read 0 padlockHeaderSize file.bytes) = some header ∧
      appendFor standIn samplePassword (sampleKey true) (sampleValue true) header =
        some (some append) ∧
      ¬ Landed standIn samplePath samplePassword (sampleKey true) (sampleValue true) append
        final.file := by
  obtain ⟨file, final, header, records, tail, xtsKey, append, allocated, appending, execution,
    lost⟩ := sample_losing (Nat.zero_le _)
  have read := appending.layout.headerIn_read
  obtain ⟨sameHeader, sameAppend, sameRead, decision, landed⟩ :=
    (stored_of_allocated standIn_lawful.cbc allocated).landed_iff standIn_lawful
      standIn_xtsLimited execution
  obtain rfl := Option.some.inj (read.symm.trans sameRead)
  obtain rfl := Option.some.inj (Option.some.inj (appending.decision.symm.trans decision))
  refine ⟨file, final, header, append, allocated, execution, read, decision, fun there => ?_⟩
  obtain ⟨index, differs⟩ := appending.header_differs
  have before := landed.mp there index differs
  rw [lost, Nat.sub_zero, Nat.sub_self] at before
  exact absurd before (Nat.not_lt_zero _)

end Padlock
