/-
This file follows an allocation that returns 0 to the file it leaves: a header
with no records behind it, and random filling up to the size. The sealed key
comes out again under the same password.
-/

import Padlock.Store.Allocate
import Padlock.Store.Layout
import Padlock.Store.StandIn

namespace Padlock

open Interaction

/-- The open stream writes the file at a path, stands at its end, and the file holds these
bytes. -/
structure Disk.Streams (disk : Disk) (path : CString) (bytes : List UInt8) : Prop where
  stream : disk.stream = some (path, bytes.length)
  file : ∃ file, disk.files path = some file ∧ file.bytes = bytes

/-- The stream `mkstemp` opens. -/
theorem Disk.Streams.created (disk : Disk) (temporary : CString) :
    Disk.Streams
      { files := Function.update disk.files temporary (some File.empty)
        stream := some (temporary, 0) } temporary [] :=
  ⟨rfl, File.empty, Function.update_self .., rfl⟩

/-- A write at the end of the stream's file appends what was taken. -/
theorem Disk.Streams.append {disk next : Disk} {path : CString} {bytes data : List UInt8}
    {count : Nat} (streams : disk.Streams path bytes)
    (writes : disk.Writes bytes.length data count next) :
    next.Streams path (bytes ++ data.take count) := by
  obtain ⟨within, other, before, file, room, stream, held, rfl⟩ := writes
  obtain ⟨rfl, -⟩ := Prod.mk.inj (Option.some.inj (streams.stream.symm.trans stream))
  obtain ⟨same, sameHeld, bytesEq⟩ := streams.file
  obtain rfl := Option.some.inj (sameHeld.symm.trans held)
  subst bytesEq
  have appended : Span.write 0 same.bytes.length (data.take count) same.bytes =
      same.bytes ++ data.take count := by
    have whole := Span.write_append 0 same.bytes (data.take count) []
    rwa [List.append_nil, List.drop_nil, List.append_nil] at whole
  refine ⟨?_, _, Function.update_self .., appended⟩
  rw [List.length_append, List.length_take, Nat.min_eq_left within]

theorem exec_readRounds {amount readTotal : Nat} {buffer : Bytes bufferSize} {disk final : Disk}
    {result : Option (Bytes bufferSize)}
    (exec : Program.Exec answers (readRounds amount readTotal buffer) disk result final) :
    final = disk := by
  induction readTotal, buffer using readRounds.induct amount with
  | case1 readTotal buffer more inductionHypothesis =>
    rw [readRounds, if_pos more, Program.exec_ask] at exec
    obtain ⟨response, middle, rfl, rest⟩ := exec
    cases response with
    | none => exact (Program.exec_done.mp rest).2
    | some read =>
      dsimp only at rest
      split at rest
      · exact (Program.exec_done.mp rest).2
      · rename_i nonempty
        obtain ⟨stored, -, later⟩ := Program.exec_bounded.mp rest
        exact inductionHypothesis read.val read.property nonempty stored later
  | case2 readTotal buffer done =>
    rw [readRounds, if_neg done] at exec
    exact (Program.exec_done.mp exec).2

theorem exec_writeRounds {amount writeTotal : Nat} {buffer : Bytes bufferSize}
    {disk final : Disk} {path : CString} {bytes : List UInt8} (streams : disk.Streams path bytes)
    (within : writeTotal ≤ amount)
    (exec : Program.Exec answers (writeRounds amount writeTotal buffer) disk true final) :
    ∃ data, data.length = amount - writeTotal ∧ final.Streams path (bytes ++ data) := by
  induction writeTotal using writeRounds.induct amount generalizing disk bytes with
  | case1 writeTotal more inductionHypothesis =>
    rw [writeRounds, if_pos more] at exec
    obtain ⟨data, loaded, rest⟩ := Program.exec_bounded.mp exec
    obtain ⟨written, middle, ⟨other, position, stream, writes⟩, rest⟩ := Program.exec_ask.mp rest
    obtain ⟨rfl, rfl⟩ := Prod.mk.inj (Option.some.inj (streams.stream.symm.trans stream))
    have dataLength : data.length = amount - writeTotal := by
      obtain ⟨inside, rfl⟩ := Bytes.load_eq_some.mp loaded
      exact Span.length_read_of_le (by rw [buffer.lengthEq]; exact inside)
    split at rest
    · cases (Program.exec_done.mp rest).1
    · rename_i nonzero
      have bound := written.isLt
      obtain ⟨others, othersLength, streamed⟩ := inductionHypothesis data written nonzero
        (streams.append writes) (by omega) rest
      refine ⟨data.take written ++ others, ?_, ?_⟩
      · rw [List.length_append, List.length_take, othersLength]
        omega
      · rwa [← List.append_assoc]
  | case2 writeTotal done =>
    rw [writeRounds, if_neg done] at exec
    obtain ⟨-, rfl⟩ := Program.exec_done.mp exec
    exact ⟨[], by simp only [List.length_nil]; omega, by rwa [List.append_nil]⟩

theorem exec_fillRounds {remaining : Nat} {buffer : Bytes bufferSize} {disk final : Disk}
    {path : CString} {bytes : List UInt8} (streams : disk.Streams path bytes)
    (exec : Program.Exec answers (fillRounds remaining buffer) disk 0 final) :
    ∃ filling, filling.length = remaining ∧ final.Streams path (bytes ++ filling) := by
  induction remaining, buffer using fillRounds.induct generalizing disk bytes with
  | case1 remaining buffer more inductionHypothesis =>
    rw [fillRounds, if_pos more] at exec
    obtain ⟨read, middle, reading, rest⟩ := Program.exec_bind.mp exec
    obtain rfl := exec_readRounds reading
    cases read with
    | none => cases (Program.exec_done.mp rest).1
    | some filled =>
      obtain ⟨written, last, writing, rest⟩ := Program.exec_bind.mp rest
      cases written with
      | false => cases (Program.exec_done.mp rest).1
      | true =>
        obtain ⟨data, dataLength, streamed⟩ := exec_writeRounds streams (Nat.zero_le _) writing
        obtain ⟨others, othersLength, finished⟩ := inductionHypothesis filled streamed rest
        have within := roundAmount_le remaining
        refine ⟨data ++ others, ?_, ?_⟩
        · rw [List.length_append, dataLength, othersLength]
          omega
        · rwa [← List.append_assoc]
  | case2 remaining buffer done =>
    rw [fillRounds, if_neg done] at exec
    obtain ⟨-, rfl⟩ := Program.exec_done.mp exec
    exact ⟨[], by simp only [List.length_nil]; omega, by rwa [List.append_nil]⟩

/-! ### The sealed key -/

/-- Two pieces put one after the other into a cleared buffer. -/
theorem store_both {size rest : Nat} {first last : List UInt8}
    (whole : first.length + (last.length + rest) = size) :
    ∃ stored both, (Bytes.cleared size).store 0 first = some stored ∧
      stored.store first.length last = some both ∧ both.toList = first ++ last ++ zeros rest := by
  have cleared :
      (Bytes.cleared size).toList = [] ++ zeros (first.length + (last.length + rest)) := by
    rw [whole]
    rfl
  obtain ⟨stored, storedEq, filled⟩ := store_next cleared List.length_nil
  rw [List.nil_append] at filled
  obtain ⟨both, bothEq, bothFilled⟩ := store_next filled rfl
  exact ⟨stored, both, storedEq, bothEq, bothFilled⟩

/-- Sealing takes 80 bytes, and unsealing under the same password gives the key back. -/
theorem decryptSecret_encryptSecret {ssl : OpenSsl} (cbc : ssl.CbcInverts) {password : CString}
    {start header : Header} {xtsKey : Bytes padlockXtsKeySize}
    (cleared : start.encryptedSecret = Bytes.cleared 128)
    (sealed : encryptSecret ssl password start xtsKey = some (some header)) :
    header.totalSize = start.totalSize ∧ header.writeOffset = start.writeOffset ∧
      header.encryptedSecretSize.toNat = 80 ∧
      decryptSecret ssl password header = some (some xtsKey) := by
  have keyLength : xtsKey.toList.length = 64 := xtsKey.lengthEq
  unfold encryptSecret at sealed
  cases derived : deriveHeaderKey ssl password start.salt with
  | none => rw [derived] at sealed; cases sealed
  | some key =>
    obtain ⟨first, update⟩ : ∃ first, ssl.cbcEncryptUpdate key start.iv
        (padlockSecretMagic ++ xtsKey.toList) = some first := by
      refine Option.ne_none_iff_exists'.mp fun refused => ?_
      simp [derived, refused] at sealed
    obtain ⟨last, final⟩ : ∃ last, ssl.cbcEncryptFinal key start.iv
        (padlockSecretMagic ++ xtsKey.toList) = some last := by
      refine Option.ne_none_iff_exists'.mp fun refused => ?_
      cases kept : start.encryptedSecret.store 0 first with
      | none => simp [derived, update, kept] at sealed
      | some secret => simp [derived, update, kept, refused] at sealed
    obtain ⟨length, front, back, decryptUpdate, decryptFinal, plain⟩ :=
      cbc key start.iv (padlockSecretMagic ++ xtsKey.toList) first last update final
    have secretLength : (padlockSecretMagic ++ xtsKey.toList).length = 72 := by
      rw [List.length_append, keyLength]
      rfl
    rw [secretLength, List.length_append] at length
    obtain ⟨stored, both, storedEq, bothEq, bothFilled⟩ :=
      store_both (by omega : first.length + (last.length + 48) = 128)
    simp only [derived, update, final, cleared, storedEq, bothEq, Option.bind_eq_bind,
      Option.bind_some, Option.pure_def, Option.some.injEq] at sealed
    subst sealed
    have sizeNat : (UInt32.ofNat (first.length + last.length)).toNat = 80 := by
      rw [length]
      rfl
    have accepted : ¬ UInt32.ofNat (first.length + last.length) > 128 := by
      rw [length]
      decide
    have encrypted : both.toList.take 80 = first ++ last := by
      rw [bothFilled]
      exact List.take_left' (by rw [List.length_append, length])
    have frontBack : front.length + back.length = 72 := by
      rw [← List.length_append, plain, secretLength]
    obtain ⟨opened, secret, openedEq, secretEq, secretFilled⟩ :=
      store_both (by rw [padlockSecretSize]; omega :
        front.length + (back.length + 16) = padlockSecretSize + 16)
    rw [plain, List.append_assoc] at secretFilled
    have magic : Span.read 0 padlockSecretMagic.length secret.toList = padlockSecretMagic :=
      Span.read_between (secretFilled.trans (List.nil_append _).symm) rfl rfl
    have unsealed : Span.read 8 padlockXtsKeySize secret.toList = xtsKey.toList :=
      Span.read_between secretFilled rfl xtsKey.lengthEq
    refine ⟨rfl, rfl, sizeNat, ?_⟩
    simp only [decryptSecret, if_neg accepted, derived, sizeNat, encrypted, decryptUpdate,
      decryptFinal, openedEq, secretEq, Option.bind_eq_bind, Option.bind_some, frontBack, magic]
    rw [subarray_eq unsealed]
    rfl

/-! ### The whole allocation -/

section Allocation

variable {ssl : OpenSsl} {path temporary password : CString} {size : UInt64} {disk final : Disk}

/-- One request at the head of an execution. -/
theorem exec_call {Result : Type} {asked : SystemRequest}
    {next : SystemResponse asked → System Result} {result : Result} :
    Program.Exec answers (call asked >>= next) disk result final ↔
      ∃ response middle, answers asked disk response middle ∧
        Program.Exec answers (next response) middle result final :=
  Program.exec_ask

/-- A step that must succeed, in an execution that returns 0. -/
theorem exec_passed {step : System Bool} {failed finish : AllocateEnd}
    {next : System AllocateEnd}
    (exec : Program.Exec answers (step >>= fun passed => if !passed then pure failed else next)
      disk finish final)
    (refused : failed.ok = -1) (returned : finish.ok = 0) :
    ∃ middle, Program.Exec answers step disk true middle ∧
      Program.Exec answers next middle finish final := by
  obtain ⟨passed, middle, first, rest⟩ := Program.exec_bind.mp exec
  cases passed with
  | true => exact ⟨middle, first, rest⟩
  | false =>
    obtain ⟨rfl, -⟩ := Program.exec_done.mp rest
    rw [refused] at returned
    cases returned

/-- A step that must give something, in an execution that returns 0. -/
theorem exec_given {Given : Type} {step : System (Option Given)} {failed finish : AllocateEnd}
    {next : Option Given → System AllocateEnd}
    (exec : Program.Exec answers (step >>= next) disk finish final)
    (otherwise : next none = .done failed) (refused : failed.ok = -1) (returned : finish.ok = 0) :
    ∃ given middle, Program.Exec answers step disk (some given) middle ∧
      Program.Exec answers (next (some given)) middle finish final := by
  obtain ⟨given, middle, first, rest⟩ := Program.exec_bind.mp exec
  cases given with
  | some given => exact ⟨given, middle, first, rest⟩
  | none =>
    rw [otherwise] at rest
    obtain ⟨rfl, -⟩ := Program.exec_done.mp rest
    rw [refused] at returned
    cases returned

theorem exec_writeUrandomBytes {bytes : List UInt8} (streams : disk.Streams path bytes)
    (exec : Program.Exec answers (writeUrandomBytes size) disk 0 final) :
    ∃ filling, filling.length = size.toNat ∧ final.Streams path (bytes ++ filling) := by
  obtain ⟨buffer, middle, rfl, opening⟩ := exec_call.mp exec
  cases buffer with
  | none => cases (Program.exec_done.mp opening).1
  | some buffer =>
    obtain ⟨opened, middle, rfl, rounds⟩ := exec_call.mp opening
    cases opened with
    | false =>
      obtain ⟨freed, middle, rfl, returning⟩ := Program.exec_ask.mp rounds
      cases (Program.exec_done.mp returning).1
    | true =>
      obtain ⟨ok, middle, filling, closing⟩ := Program.exec_bind.mp rounds
      obtain ⟨closed, after, rfl, freeing⟩ := exec_call.mp closing
      obtain ⟨freed, after, rfl, returning⟩ := Program.exec_ask.mp freeing
      obtain ⟨rfl, rfl⟩ := Program.exec_done.mp returning
      exact exec_fillRounds streams filling

/-- Writing the header over the beginning of the stream's file. -/
theorem exec_writeHeader {header : Header} {bytes : List UInt8}
    (streams : disk.Streams path bytes)
    (exec : Program.Exec answers (onSystem (writeHeader header)) disk true final) :
    ∃ file, final.files path = some file ∧
      file.bytes = (headerBytes header).toList ++ bytes.drop padlockHeaderSize := by
  obtain ⟨written, middle, writes, returning⟩ := Program.exec_ask.mp exec
  obtain ⟨returned, rfl⟩ := Program.exec_done.mp returning
  obtain rfl : written = padlockHeaderSize :=
    (beq_iff_eq.mp returned.symm).trans (length_headerBytes header)
  obtain ⟨-, other, before, file, room, stream, held, rfl⟩ := writes
  obtain ⟨rfl, -⟩ := Prod.mk.inj (Option.some.inj (streams.stream.symm.trans stream))
  obtain ⟨same, sameHeld, rfl⟩ := streams.file
  obtain rfl := Option.some.inj (sameHeld.symm.trans held)
  refine ⟨_, Function.update_self .., ?_⟩
  have whole := Span.write_append 0 [] (headerBytes header).toList same.bytes
  rw [length_headerBytes, List.nil_append, List.nil_append, List.length_nil] at whole
  have all : (headerBytes header).toList.take padlockHeaderSize = (headerBytes header).toList :=
    List.take_of_length_le (length_headerBytes header).le
  show Span.write 0 0 ((headerBytes header).toList.take padlockHeaderSize) same.bytes = _
  rw [all]
  exact whole

/-- The file at the end of a successful allocation, before and after the rename. -/
structure Fresh (ssl : OpenSsl) (password : CString) (size : UInt64) (file : File) : Prop where
  store : ∃ header filling xtsKey, Layout size.toNat file header [] filling ∧
    decryptSecret ssl password header = some (some xtsKey)

theorem fresh_of_header (cbc : ssl.CbcInverts) (enough : 8192 ≤ size.toNat) {start header : Header}
    {xtsKey : Bytes padlockXtsKeySize} (cleared : start.encryptedSecret = Bytes.cleared 128)
    (total : start.totalSize = size)
    (offset : start.writeOffset = UInt64.ofNat padlockHeaderSize)
    (sealed : encryptSecret ssl password start xtsKey = some (some header)) {file : File}
    {filling : List UInt8} (fillingLength : filling.length = size.toNat)
    (bytes : file.bytes = (headerBytes header).toList ++ filling.drop padlockHeaderSize) :
    Fresh ssl password size file := by
  obtain ⟨totalSize, writeOffset, secretSize, unsealed⟩ :=
    decryptSecret_encryptSecret cbc cleared sealed
  have headerSize : padlockHeaderSize = 4096 := rfl
  refine ⟨header, filling.drop padlockHeaderSize, xtsKey, ?_, unsealed⟩
  refine ⟨bytes, ?_, enough, by rw [totalSize, total], secretSize, ?_, Nat.dvd_zero 16⟩
  · rw [bytes, List.length_append, length_headerBytes, List.length_drop]
    omega
  · rw [writeOffset, offset]
    rfl

theorem exec_allocateStore (cbc : ssl.CbcInverts) (enough : 8192 ≤ size.toNat)
    {finish : AllocateEnd} (streams : disk.Streams temporary [])
    (exec : Program.Exec answers (allocateStore ssl path temporary size password) disk finish final)
    (returned : finish.ok = 0) :
    finish.file = false ∧ finish.fd = false ∧
      ∃ file, final.files path = some file ∧ Fresh ssl password size file := by
  obtain ⟨middle, restricted, opening⟩ := exec_passed exec rfl returned
  obtain rfl := Program.exec_request.mp restricted
  obtain ⟨middle, opened, filling⟩ := exec_passed opening rfl returned
  obtain rfl := Program.exec_request.mp opened
  obtain ⟨filled, middle, rounds, salting⟩ := Program.exec_bind.mp filling
  dsimp only at salting
  split at salting
  · obtain ⟨rfl, -⟩ := Program.exec_done.mp salting
    cases returned
  rename_i zero
  obtain rfl := not_not.mp zero
  obtain ⟨filling, fillingLength, streamed⟩ := exec_writeUrandomBytes streams rounds
  rw [List.nil_append] at streamed
  obtain ⟨salt, after, saltGiven, ivGiving⟩ := exec_given salting rfl rfl returned
  obtain rfl := Program.exec_request.mp saltGiven
  obtain ⟨iv, after, ivGiven, keyGiving⟩ := exec_given ivGiving rfl rfl returned
  obtain rfl := Program.exec_request.mp ivGiven
  obtain ⟨xtsKey, after, keyGiven, encrypting⟩ := exec_given keyGiving rfl rfl returned
  obtain rfl := Program.exec_request.mp keyGiven
  obtain ⟨sealed, sealedEq, writing⟩ := Program.exec_bounded.mp encrypting
  cases sealed with
  | none =>
    obtain ⟨rfl, -⟩ := Program.exec_done.mp writing
    cases returned
  | some header =>
    obtain ⟨after, headerWriting, flushing⟩ := exec_passed writing rfl returned
    obtain ⟨file, held, bytes⟩ := exec_writeHeader streamed headerWriting
    have fresh : Fresh ssl password size file :=
      fresh_of_header cbc enough rfl rfl rfl sealedEq fillingLength bytes
    obtain ⟨after, flushed, syncing⟩ := exec_passed flushing rfl returned
    obtain rfl := Program.exec_request.mp flushed
    obtain ⟨after, synced, closing⟩ := exec_passed syncing rfl returned
    obtain rfl := Program.exec_request.mp synced
    obtain ⟨after, closed, moving⟩ := exec_passed closing rfl returned
    obtain rfl := Program.exec_request.mp closed
    obtain ⟨renamed, after, rfl, returning⟩ := exec_call.mp moving
    obtain ⟨rfl, rfl⟩ := Program.exec_done.mp returning
    cases renamed with
    | false => cases returned
    | true => exact ⟨rfl, rfl, file, (Function.update_self ..).trans held, fresh⟩

theorem exec_ensureParentDirectory {ensured : Int}
    (exec : Program.Exec answers (ensureParentDirectory path) disk ensured final) :
    final = disk := by
  simp only [ensureParentDirectory] at exec
  split at exec
  · exact (Program.exec_done.mp exec).2
  cases parent : parentOf path.bytes with
  | none =>
    rw [parent] at exec
    exact (Program.exec_done.mp exec).2
  | some parent =>
    simp only [parent] at exec
    obtain ⟨made, middle, rfl, entering⟩ := exec_call.mp exec
    split at entering
    · exact (Program.exec_done.mp entering).2
    · obtain ⟨changed, after, rfl, returning⟩ := exec_call.mp entering
      exact (Program.exec_done.mp returning).2

/-- What an allocation does, in a system that may also be more reliable: it fails before it has
made a file, or it goes on with the temporary file and ends with the clean-up. -/
theorem exec_padlockAllocate {surroundings : Surroundings SystemRequest SystemResponse Disk}
    (narrower : ∀ asked disk response next, surroundings asked disk response next →
      answers asked disk response next) {result : Int}
    (exec : Program.Exec surroundings (padlockAllocate ssl (some path) size (some password)) disk
      result final) :
    (result = -1 ∧ final = disk) ∨
      ∃ temporary finish stored, 8192 ≤ size.toNat ∧ disk.files temporary = none ∧
        Program.Exec answers (allocateStore ssl path temporary size password)
          { files := Function.update disk.files temporary (some File.empty)
            stream := some (temporary, 0) } finish stored ∧
        Program.Exec surroundings (allocateCleanUp temporary finish) stored () final ∧
        result = finish.ok := by
  simp only [padlockAllocate] at exec
  split at exec
  · exact .inl (Program.exec_done.mp exec)
  rename_i enough
  obtain ⟨ensured, middle, ensuring, checking⟩ := Program.exec_bind.mp exec
  obtain rfl := exec_ensureParentDirectory (ensuring.mono narrower)
  split at checking
  · exact .inl (Program.exec_done.mp checking)
  split at checking
  · exact .inl (Program.exec_done.mp checking)
  obtain ⟨temporary, created, made, storing⟩ := Program.exec_request_bind.mp checking
  replace made := narrower _ _ _ _ made
  cases temporary with
  | none =>
    obtain rfl := (made : created = _)
    exact .inl (Program.exec_done.mp storing)
  | some temporary =>
    obtain ⟨free, -, rfl⟩ := made
    obtain ⟨finish, stored, filling, ending⟩ := Program.exec_bind.mp storing
    obtain ⟨cleaned, last, cleaning, returning⟩ := Program.exec_bind.mp ending
    obtain ⟨rfl, rfl⟩ := Program.exec_done.mp returning
    exact .inr ⟨temporary, finish, stored, UInt64.le_iff_toNat_le.mp (UInt64.not_lt.mp enough),
      free, filling.mono narrower, cleaning, rfl⟩

/-- After a success nothing is open, and the clean-up asks nothing. -/
theorem exec_allocateCleanUp {surroundings : Surroundings SystemRequest SystemResponse Disk}
    {finish : AllocateEnd} (noFile : finish.file = false) (noFd : finish.fd = false)
    (returned : finish.ok = 0)
    (exec : Program.Exec surroundings (allocateCleanUp temporary finish) disk () final) :
    final = disk := by
  simp only [allocateCleanUp, noFile, noFd, returned, Bool.false_eq_true, if_false, ne_eq,
    not_true_eq_false] at exec
  exact (Program.exec_done.mp exec).2

/-- An allocation that returns 0 leaves a store without records that opens under the same
password. -/
theorem fresh_of_allocated {file : File} (cbc : ssl.CbcInverts)
    (allocated : Allocated ssl path size password file) : Fresh ssl password size file := by
  obtain ⟨before, after, exec, held⟩ := allocated
  obtain ⟨failed, -⟩ | ⟨temporary, finish, stored, enough, -, filling, cleaning, returned⟩ :=
    exec_padlockAllocate (fun _ _ _ _ answered => answered) exec
  · cases failed
  · obtain ⟨noFile, noFd, stored, storedAt, fresh⟩ :=
      exec_allocateStore cbc enough (.created before temporary) filling returned.symm
    obtain rfl := exec_allocateCleanUp noFile noFd returned.symm cleaning
    rw [held] at storedAt
    rw [Option.some.inj storedAt]
    exact fresh

end Allocation

/-! ### An allocation that succeeds

Every store the other files speak of begins with one, so there must be one. -/

section Success

variable {ssl : OpenSsl} {path temporary password : CString} {size : UInt64} {disk : Disk}
  {bytes : List UInt8}

theorem Disk.Streams.writes (streams : disk.Streams path bytes) (position : Nat)
    (data : List UInt8) (room : position + data.length < 2 ^ 63) :
    ∃ next, disk.Writes position data data.length next := by
  obtain ⟨file, held, -⟩ := streams.file
  have taken : position + (data.take data.length).length < 2 ^ 63 := by
    rw [List.take_length]
    exact room
  exact ⟨_, le_rfl, path, _, file, taken, streams.stream, held, rfl⟩

theorem readRounds_succeeds {amount : Nat} (inside : amount ≤ bufferSize)
    (buffer : Bytes bufferSize) (disk : Disk) :
    ∃ filled, Program.Exec answers (readRounds amount 0 buffer) disk (some filled) disk := by
  rw [readRounds]
  by_cases more : 0 < amount
  · have delivered : (zeros amount).length ≤ amount - 0 := by rw [length_zeros, Nat.sub_zero]
    have nonempty : ¬ zeros amount = [] := by
      rw [← List.length_eq_zero_iff, length_zeros]
      omega
    have room : 0 + (zeros amount).length ≤ bufferSize := by
      rw [length_zeros, Nat.zero_add]
      exact inside
    obtain ⟨stored, storedEq⟩ : ∃ stored, buffer.store 0 (zeros amount) = some stored :=
      ⟨_, dif_pos room⟩
    have finished : ¬ 0 + (zeros amount).length < amount := by
      rw [length_zeros]
      omega
    refine ⟨stored, ?_⟩
    rw [if_pos more, Program.exec_ask]
    refine ⟨some ⟨zeros amount, delivered⟩, disk, rfl, ?_⟩
    dsimp only
    rw [if_neg nonempty, Program.exec_bounded]
    refine ⟨stored, storedEq, ?_⟩
    rw [readRounds, if_neg finished]
    exact .done _ _
  · rw [if_neg more]
    exact ⟨buffer, .done _ _⟩

theorem writeRounds_succeeds {amount : Nat} (inside : amount ≤ bufferSize) (more : 0 < amount)
    (buffer : Bytes bufferSize) (streams : disk.Streams path bytes)
    (room : bytes.length + amount < 2 ^ 63) :
    ∃ final, Program.Exec answers (writeRounds amount 0 buffer) disk true final := by
  have loaded : buffer.load 0 (amount - 0) = some (Span.read 0 amount buffer.toList) :=
    if_pos (by omega)
  have length : (Span.read 0 amount buffer.toList).length = amount :=
    Span.length_read_of_le (by rw [buffer.lengthEq]; omega)
  obtain ⟨next, writes⟩ := streams.writes bytes.length (Span.read 0 amount buffer.toList)
    (by omega)
  refine ⟨next, ?_⟩
  rw [writeRounds, if_pos more, Program.exec_bounded]
  refine ⟨_, loaded, ?_⟩
  rw [Program.exec_ask]
  rw [length] at writes
  refine ⟨⟨amount, by omega⟩, next, ⟨path, _, streams.stream, writes⟩, ?_⟩
  dsimp only
  rw [if_neg (by omega), writeRounds, if_neg (by omega)]
  exact .done _ _

theorem fillRounds_succeeds (remaining : Nat) (buffer : Bytes bufferSize)
    (streams : disk.Streams path bytes) (room : bytes.length + remaining < 2 ^ 63) :
    ∃ final, Program.Exec answers (fillRounds remaining buffer) disk 0 final := by
  induction remaining, buffer using fillRounds.induct generalizing disk bytes with
  | case1 remaining buffer more inductionHypothesis =>
    have within := roundAmount_le remaining
    have inside : roundAmount remaining ≤ bufferSize := by
      unfold roundAmount
      split <;> omega
    obtain ⟨filled, reading⟩ := readRounds_succeeds inside buffer disk
    obtain ⟨middle, writing⟩ := writeRounds_succeeds inside (roundAmount_pos more) filled streams
      (by omega)
    obtain ⟨data, dataLength, streamed⟩ := exec_writeRounds streams (Nat.zero_le _) writing
    obtain ⟨final, rest⟩ := inductionHypothesis filled streamed
      (by rw [List.length_append, dataLength]; omega)
    refine ⟨final, ?_⟩
    rw [fillRounds, if_pos more, Program.exec_bind]
    refine ⟨_, _, reading, ?_⟩
    rw [Program.exec_bind]
    exact ⟨_, _, writing, rest⟩
  | case2 remaining buffer done =>
    rw [fillRounds, if_neg done]
    exact ⟨disk, .done _ _⟩

theorem writeUrandomBytes_succeeds (streams : disk.Streams path bytes)
    (room : bytes.length + size.toNat < 2 ^ 63) :
    ∃ final, Program.Exec answers (writeUrandomBytes size) disk 0 final := by
  obtain ⟨final, filling⟩ :=
    fillRounds_succeeds size.toNat (Bytes.cleared bufferSize) streams room
  refine ⟨final, exec_call.mpr ⟨some (Bytes.cleared bufferSize), disk, rfl, ?_⟩⟩
  refine exec_call.mpr ⟨true, disk, rfl, ?_⟩
  refine Program.exec_bind.mpr ⟨(0 : Int), final, filling, ?_⟩
  refine exec_call.mpr ⟨(), final, rfl, ?_⟩
  exact Program.exec_ask.mpr ⟨(), final, rfl, .done _ _⟩

theorem encryptSecret_succeeds (kdf : ssl.KdfSucceeds) (cbc : ssl.CbcInverts)
    (encrypts : ssl.CbcSucceeds) (nonempty : password.bytes ≠ []) (start : Header)
    (cleared : start.encryptedSecret = Bytes.cleared 128) (xtsKey : Bytes padlockXtsKeySize) :
    ∃ header, encryptSecret ssl password start xtsKey = some (some header) := by
  obtain ⟨key, derived⟩ := kdf password.bytes start.salt
  obtain ⟨first, last, update, final⟩ :=
    encrypts key start.iv (padlockSecretMagic ++ xtsKey.toList)
  obtain ⟨length, -⟩ := cbc key start.iv _ first last update final
  have keyLength : xtsKey.toList.length = 64 := xtsKey.lengthEq
  have magicLength : padlockSecretMagic.length = 8 := rfl
  rw [List.length_append, List.length_append, keyLength, magicLength] at length
  obtain ⟨stored, both, storedEq, bothEq, -⟩ :=
    store_both (by omega : first.length + (last.length + 48) = 128)
  simp only [encryptSecret, deriveHeaderKey, if_neg nonempty, derived, update, final, cleared,
    storedEq, bothEq, Option.bind_eq_bind, Option.bind_some, Option.pure_def, Option.some.injEq,
    exists_eq']

theorem writeHeader_succeeds (header : Header) (streams : disk.Streams path bytes) :
    ∃ final, Program.Exec answers (onSystem (writeHeader header)) disk true final := by
  obtain ⟨next, writes⟩ := streams.writes 0 (headerBytes header).toList
    (by rw [length_headerBytes]; decide)
  refine ⟨next, Program.exec_ask.mpr ⟨(headerBytes header).toList.length, next, writes, ?_⟩⟩
  exact Program.exec_done.mpr ⟨(beq_self_eq_true _).symm, rfl⟩

theorem allocateStore_succeeds (path : CString) (kdf : ssl.KdfSucceeds) (cbc : ssl.CbcInverts)
    (encrypts : ssl.CbcSucceeds) (nonempty : password.bytes ≠ []) (room : size.toNat < 2 ^ 63)
    (streams : disk.Streams temporary []) :
    ∃ final file, Program.Exec answers (allocateStore ssl path temporary size password) disk
        { ok := 0, file := false, fd := false } final ∧
      final.files path = some file := by
  obtain ⟨filled, filling⟩ := writeUrandomBytes_succeeds streams
    (by rw [List.length_nil, Nat.zero_add]; exact room)
  obtain ⟨fill, -, streamed⟩ := exec_writeUrandomBytes streams filling
  obtain ⟨header, sealed⟩ := encryptSecret_succeeds kdf cbc encrypts nonempty
    { totalSize := size
      writeOffset := UInt64.ofNat padlockHeaderSize
      salt := Bytes.cleared padlockSaltSize
      iv := Bytes.cleared padlockIvSize
      encryptedSecret := Bytes.cleared 128
      encryptedSecretSize := 0 } rfl (Bytes.cleared padlockXtsKeySize)
  obtain ⟨written, writing⟩ := writeHeader_succeeds header streamed
  obtain ⟨file, held, -⟩ := exec_writeHeader streamed writing
  refine ⟨{ files := Function.update (Function.update written.files temporary none) path
              (written.files temporary)
            stream := none }, file, ?_, (Function.update_self ..).trans held⟩
  refine exec_call.mpr ⟨true, disk, rfl, ?_⟩
  refine exec_call.mpr ⟨true, disk, rfl, ?_⟩
  refine Program.exec_bind.mpr ⟨(0 : Int), filled, filling, ?_⟩
  refine exec_call.mpr ⟨some (Bytes.cleared padlockSaltSize), filled, rfl, ?_⟩
  refine exec_call.mpr ⟨some (Bytes.cleared padlockIvSize), filled, rfl, ?_⟩
  refine exec_call.mpr ⟨some (Bytes.cleared padlockXtsKeySize), filled, rfl, ?_⟩
  refine Program.exec_bounded.mpr ⟨some header, sealed, ?_⟩
  refine Program.exec_bind.mpr ⟨true, written, writing, ?_⟩
  refine exec_call.mpr ⟨true, written, rfl, ?_⟩
  refine exec_call.mpr ⟨true, written, rfl, ?_⟩
  refine exec_call.mpr ⟨true, { written with stream := none }, rfl, ?_⟩
  exact exec_call.mpr ⟨true, _, rfl, .done _ _⟩

theorem ensureParentDirectory_succeeds (short : path.bytes.length < pathMax) (disk : Disk) :
    Program.Exec answers (ensureParentDirectory path) disk 0 disk := by
  simp only [ensureParentDirectory, if_neg (Nat.not_le.mpr short)]
  cases parentOf path.bytes with
  | none => exact .done _ _
  | some parent =>
    refine exec_call.mpr ⟨.created, disk, rfl, ?_⟩
    exact exec_call.mpr ⟨true, disk, rfl, .done _ _⟩

/-- For every path that is not too long, every size in range and every non-empty password there
is a store that `padlock_allocate` has created. -/
theorem exists_allocated (kdf : ssl.KdfSucceeds) (cbc : ssl.CbcInverts)
    (encrypts : ssl.CbcSucceeds) (nonempty : password.bytes ≠ []) (enough : 8192 ≤ size.toNat)
    (room : size.toNat < 2 ^ 63) (short : path.bytes.length + 11 < pathMax) :
    ∃ file, Allocated ssl path size password file := by
  have temporaryFree : 0 ∉ path.bytes ++ temporarySuffix := by
    rw [List.mem_append, not_or]
    exact ⟨path.nulFree, by decide⟩
  obtain ⟨temporary, temporaryEq⟩ : ∃ temporary : CString,
      temporary.bytes = path.bytes ++ temporarySuffix := ⟨⟨_, temporaryFree⟩, rfl⟩
  obtain ⟨bare, bareFree⟩ : ∃ bare : Disk, bare.files temporary = none :=
    ⟨{ files := fun _ => none, stream := none }, rfl⟩
  obtain ⟨final, file, storing, held⟩ :=
    allocateStore_succeeds path kdf cbc encrypts nonempty room (.created bare temporary)
  refine ⟨file, bare, final, ?_, held⟩
  have large : ¬ size < UInt64.ofNat padlockMinSize :=
    UInt64.not_lt.mpr (UInt64.le_iff_toNat_le.mpr enough)
  have fits : ¬ path.bytes.length + temporarySuffix.length ≥ pathMax := Nat.not_le.mpr short
  simp only [padlockAllocate, if_neg large]
  refine Program.exec_bind.mpr
    ⟨(0 : Int), _, ensureParentDirectory_succeeds (by omega) _, ?_⟩
  simp only [ne_eq, not_true_eq_false, if_false, if_neg fits]
  refine exec_call.mpr ⟨some temporary, _, ⟨bareFree, by rw [temporaryEq], rfl⟩, ?_⟩
  refine Program.exec_bind.mpr ⟨_, final, storing, ?_⟩
  exact Program.exec_bind.mpr ⟨(), final, .done _ _, .done _ _⟩

theorem sample_allocated : ∃ file, Allocated standIn samplePath 8192 samplePassword file :=
  exists_allocated standIn_lawful.kdf standIn_lawful.cbc standIn_lawful.encrypts (by decide)
    (by decide) (by decide) (by decide)

end Success

end Padlock
