/-
This file shows that `padlock_allocate` is all or nothing. Until its rename it
touches nothing but the temporary file it has made, and after a failure at any
step its clean-up removes that file; after a success the path holds a store of
the given size in which no key is found.

The one step that must not fail is the removal of the temporary file, after
which there is nothing the code could do. OpenSSL may refuse any call; what is
assumed of it is only that what it has encrypted it can decrypt.
-/

import Padlock.Store.Allocated
import Padlock.Store.Lookup

namespace Padlock

open Interaction

/-- The answers of a system in which a file can be removed. -/
def answersRemoving : Surroundings SystemRequest SystemResponse Disk
  | .unlink path, disk, unlinked, next =>
    unlinked = true ∧ answers (.unlink path) disk unlinked next
  | asked, disk, response, next => answers asked disk response next

theorem answers_of_removing {asked : SystemRequest} {disk next : Disk}
    {response : SystemResponse asked} (answered : answersRemoving asked disk response next) :
    answers asked disk response next := by
  cases asked with
  | unlink path => exact answered.2
  | _ => exact answered

/-! ### Nothing but the temporary file -/

/-- Away from the temporary file the files are these, and the open stream is the temporary
file's. -/
structure Disk.Beside (files : CString → Option File) (temporary : CString) (disk : Disk) :
    Prop where
  others : ∀ other, other ≠ temporary → disk.files other = files other
  stream : ∀ path position, disk.stream = some (path, position) → path = temporary

/-- Every request but those that make, move or remove a file. -/
def SystemRequest.StaysInStream : SystemRequest → Prop
  | .mkstemp _ | .rename _ _ | .unlink _ => False
  | _ => True

section Steps

variable {files : CString → Option File} {temporary : CString} {disk next : Disk}

theorem Disk.Beside.writes {position count : Nat} {data : List UInt8}
    (beside : disk.Beside files temporary) (writes : disk.Writes position data count next) :
    next.Beside files temporary := by
  obtain ⟨-, path, before, file, room, stream, held, rfl⟩ := writes
  obtain rfl := beside.stream path before stream
  refine ⟨fun other different => ?_, fun other place opened => ?_⟩
  · rw [← beside.others other different]
    exact Function.update_of_ne different ..
  · exact (Prod.mk.inj (Option.some.inj opened)).1.symm

theorem Disk.Beside.closed (beside : disk.Beside files temporary) :
    Disk.Beside files temporary { disk with stream := none } := by
  refine ⟨beside.others, ?_⟩
  rintro path position ⟨⟩

theorem Disk.Beside.step {asked : SystemRequest} {response : SystemResponse asked}
    (allowed : asked.StaysInStream) (beside : disk.Beside files temporary)
    (answered : answers asked disk response next) : next.Beside files temporary := by
  cases asked with
  | mkstemp template => cases allowed
  | rename source target => cases allowed
  | unlink path => cases allowed
  | fwrite data =>
    obtain ⟨path, position, -, writes⟩ := answered
    exact beside.writes writes
  | close =>
    obtain rfl := answered
    exact beside.closed
  | stdio asked =>
    cases asked with
    | seekWrite offset data => exact beside.writes answered
    | fclose =>
      obtain rfl := answered
      exact beside.closed
    | _ => exact (answered : next = disk) ▸ beside
  | _ => exact (answered : next = disk) ▸ beside

/-- The stream `mkstemp` opens stands beside the files there were. -/
theorem Disk.Beside.created (disk : Disk) (temporary : CString) :
    Disk.Beside disk.files temporary
      { files := Function.update disk.files temporary (some File.empty)
        stream := some (temporary, 0) } := by
  refine ⟨fun other different => Function.update_of_ne different .., ?_⟩
  rintro path position ⟨⟩
  rfl

end Steps

/-! The loops that fill the file ask for random bytes and write to the stream, nothing else. -/

theorem asks_readRounds (amount readTotal : Nat) (buffer : Bytes bufferSize) :
    (readRounds amount readTotal buffer).Asks SystemRequest.StaysInStream := by
  induction readTotal, buffer using readRounds.induct amount with
  | case1 readTotal buffer more inductionHypothesis =>
    rw [readRounds, if_pos more]
    refine ⟨trivial, fun response => ?_⟩
    cases response with
    | none => trivial
    | some read =>
      dsimp only
      split
      · trivial
      · rename_i nonempty
        cases buffer.store readTotal read.val with
        | none => trivial
        | some stored => exact inductionHypothesis read.val read.property nonempty stored
  | case2 readTotal buffer done =>
    rw [readRounds, if_neg done]
    trivial

theorem asks_writeRounds (amount writeTotal : Nat) (buffer : Bytes bufferSize) :
    (writeRounds amount writeTotal buffer).Asks SystemRequest.StaysInStream := by
  induction writeTotal using writeRounds.induct amount with
  | case1 writeTotal more inductionHypothesis =>
    rw [writeRounds, if_pos more]
    cases buffer.load writeTotal (amount - writeTotal) with
    | none => trivial
    | some data =>
      refine ⟨trivial, fun written => ?_⟩
      dsimp only
      split
      · trivial
      · rename_i nonzero
        exact inductionHypothesis data written nonzero
  | case2 writeTotal done =>
    rw [writeRounds, if_neg done]
    trivial

theorem asks_fillRounds (remaining : Nat) (buffer : Bytes bufferSize) :
    (fillRounds remaining buffer).Asks SystemRequest.StaysInStream := by
  induction remaining, buffer using fillRounds.induct with
  | case1 remaining buffer more inductionHypothesis =>
    rw [fillRounds, if_pos more]
    refine (asks_readRounds ..).bind fun read => ?_
    cases read with
    | none => trivial
    | some filled =>
      refine (asks_writeRounds ..).bind fun written => ?_
      cases written with
      | false => trivial
      | true => exact inductionHypothesis filled
  | case2 remaining buffer done =>
    rw [fillRounds, if_neg done]
    trivial

theorem asks_writeUrandomBytes (length : UInt64) :
    (writeUrandomBytes length).Asks SystemRequest.StaysInStream := by
  refine ⟨trivial, fun buffer => ?_⟩
  cases buffer with
  | none => trivial
  | some buffer =>
    refine ⟨trivial, fun opened => ?_⟩
    cases opened with
    | false => exact ⟨trivial, fun _ => trivial⟩
    | true =>
      exact (asks_fillRounds ..).bind fun filled =>
        ⟨trivial, fun _ => ⟨trivial, fun _ => trivial⟩⟩

/-! ### The part before the clean-up -/

/-- What `padlock_allocate` has done when it reaches its clean-up: nothing beside the temporary
file when it has failed, and nothing away from the path when it has not. -/
def AllocateEnd.Leaves (files : CString → Option File) (path temporary : CString)
    (finish : AllocateEnd) (disk : Disk) : Prop :=
  (finish.ok = -1 ∧ disk.Beside files temporary) ∨
    (finish.ok = 0 ∧ ∀ other, other ≠ path → disk.files other = files other)

section Allocation

variable {ssl : OpenSsl} {path temporary password : CString} {size : UInt64} {disk : Disk}
  {files : CString → Option File}

/-- A step that must succeed. -/
theorem ensures_passed {step : System Bool} {failed : AllocateEnd} {next : System AllocateEnd}
    (asks : step.Asks SystemRequest.StaysInStream) (refused : failed.ok = -1)
    (beside : disk.Beside files temporary)
    (rest : ∀ middle : Disk, middle.Beside files temporary →
      Program.Ensures answers next middle (AllocateEnd.Leaves files path temporary)) :
    Program.Ensures answers (step >>= fun passed => if !passed then pure failed else next) disk
      (AllocateEnd.Leaves files path temporary) := by
  refine (asks.ensures (fun _ _ _ _ allowed holds answered => holds.step allowed answered)
    beside).bind fun passed middle beside => ?_
  cases passed with
  | true => exact rest middle beside
  | false => exact Program.ensures_done.mpr (.inl ⟨refused, beside⟩)

/-- A step that must give something. -/
theorem ensures_given {Given : Type} {step : System (Option Given)} {failed : AllocateEnd}
    {next : Option Given → System AllocateEnd}
    (asks : step.Asks SystemRequest.StaysInStream) (otherwise : next none = .done failed)
    (refused : failed.ok = -1) (beside : disk.Beside files temporary)
    (rest : ∀ (given : Given) (middle : Disk), middle.Beside files temporary →
      Program.Ensures answers (next (some given)) middle
        (AllocateEnd.Leaves files path temporary)) :
    Program.Ensures answers (step >>= next) disk (AllocateEnd.Leaves files path temporary) := by
  refine (asks.ensures (fun _ _ _ _ allowed holds answered => holds.step allowed answered)
    beside).bind fun given middle beside => ?_
  cases given with
  | some given => exact rest given middle beside
  | none =>
    rw [otherwise]
    exact Program.ensures_done.mpr (.inl ⟨refused, beside⟩)

theorem ensures_allocateStore (ssl : OpenSsl) (path : CString) (size : UInt64)
    (password : CString) (free : files temporary = none)
    (beside : disk.Beside files temporary) :
    Program.Ensures answers (allocateStore ssl path temporary size password) disk
      (AllocateEnd.Leaves files path temporary) := by
  have once {asked : SystemRequest} (allowed : asked.StaysInStream) :
      (call asked).Asks SystemRequest.StaysInStream := ⟨allowed, fun _ => trivial⟩
  refine ensures_passed (once trivial) rfl beside fun disk beside => ?_
  refine ensures_passed (once trivial) rfl beside fun disk beside => ?_
  refine ((asks_writeUrandomBytes size).ensures
    (fun _ _ _ _ allowed holds answered => holds.step allowed answered) beside).bind
      fun filled disk beside => ?_
  dsimp only
  split
  · exact Program.ensures_done.mpr (.inl ⟨rfl, beside⟩)
  refine ensures_given (once trivial) rfl rfl beside fun salt disk beside => ?_
  refine ensures_given (once trivial) rfl rfl beside fun iv disk beside => ?_
  refine ensures_given (once trivial) rfl rfl beside fun xtsKey disk beside => ?_
  refine Program.ensures_bounded fun sealed _ => ?_
  cases sealed with
  | none => exact Program.ensures_done.mpr (.inl ⟨rfl, beside⟩)
  | some header =>
    refine ensures_passed (once trivial) rfl beside fun disk beside => ?_
    refine ensures_passed (once trivial) rfl beside fun disk beside => ?_
    refine ensures_passed (once trivial) rfl beside fun disk beside => ?_
    refine ensures_passed (once trivial) rfl beside fun disk beside => ?_
    refine Program.ensures_request.mpr fun renamed final moved => ?_
    obtain rfl := (moved : final = _)
    refine Program.ensures_done.mpr ?_
    cases renamed with
    | false => exact .inl ⟨rfl, beside⟩
    | true =>
      refine .inr ⟨rfl, fun other different => ?_⟩
      by_cases same : other = temporary
      · subst same
        rw [free]
        exact (Function.update_of_ne different ..).trans (Function.update_self ..)
      · rw [← beside.others other same]
        exact (Function.update_of_ne different ..).trans (Function.update_of_ne same ..)

/-- After a failure the clean-up closes what is open and removes the temporary file, and then the
files are those there were. -/
theorem ensures_allocateCleanUp {finish : AllocateEnd} (failed : finish.ok = -1)
    (free : files temporary = none) (beside : disk.Beside files temporary) :
    Program.Ensures answersRemoving (allocateCleanUp temporary finish) disk
      fun _ final => final.files = files := by
  have removed (disk : Disk) (beside : disk.Beside files temporary) :
      Program.Ensures answersRemoving (do
        if finish.ok ≠ 0 then
          let _ : Bool ← call (.unlink temporary)) disk fun _ final => final.files = files := by
    rw [if_pos (by rw [failed]; decide)]
    refine Program.ensures_request.mpr fun unlinked final answered => Program.ensures_done.mpr ?_
    obtain ⟨rfl, rfl⟩ := answered
    funext other
    by_cases same : other = temporary
    · subst same
      rw [free]
      exact Function.update_self ..
    · rw [← beside.others other same]
      exact Function.update_of_ne same ..
  have closed (disk : Disk) (beside : disk.Beside files temporary) :
      Program.Ensures answersRemoving (do
        if finish.fd then
          call .close
        if finish.ok ≠ 0 then
          let _ : Bool ← call (.unlink temporary)) disk fun _ final => final.files = files := by
    cases finish.fd with
    | false => exact removed disk beside
    | true =>
      refine Program.ensures_request.mpr fun _ middle answered => ?_
      obtain rfl := (answered : middle = _)
      exact removed _ beside.closed
  unfold allocateCleanUp
  cases finish.file with
  | false => exact closed disk beside
  | true =>
    refine Program.ensures_request.mpr fun _ middle answered => ?_
    obtain rfl := (answered : middle = _)
    exact closed _ beside.closed

/-! ### The whole call -/

/-- A store of this size that opens with the password, and in which no key is found. -/
structure EmptyStore (ssl : OpenSsl) (password : CString) (size : UInt64) (file : File) :
    Prop where
  length : file.bytes.length = size.toNat
  opens : ∃ header xtsKey, Opens ssl password file header xtsKey ∧ header.totalSize = size ∧
    header.writeOffset = 4096
  misses : ∀ path key,
    runOn (padlockGet ssl (some path) (some password) (some key) true) file = some (none, file)

/-- The scan of a store without records ends before its first round. -/
theorem runOn_get_of_empty {header : Header} {xtsKey : Bytes padlockXtsKeySize} {file : File}
    (opens : Opens ssl password file header xtsKey) (start : header.writeOffset = 4096)
    (path key : CString) :
    runOn (padlockGet ssl (some path) (some password) (some key) true) file =
      some (none, file) := by
  have scanned : runOn (scan ssl xtsKey header key 4096 none) file =
      some ({ found := none, complete := true }, file) := by
    rw [scan, start, if_neg (by decide)]
    rfl
  exact runOn_padlockGet opens scanned

theorem Fresh.empty {file : File} (fresh : Fresh ssl password size file) :
    EmptyStore ssl password size file := by
  obtain ⟨header, filling, xtsKey, layout, secret⟩ := fresh.store
  have opens : Opens ssl password file header xtsKey := ⟨layout.readAt_header, secret⟩
  have start : header.writeOffset = 4096 := UInt64.toNat_inj.mp layout.writeOffset
  exact ⟨layout.length, ⟨header, xtsKey, opens, UInt64.toNat_inj.mp layout.totalSize, start⟩,
    runOn_get_of_empty opens start⟩

/-- `padlock_allocate` is all or nothing: whichever of its steps fail, it returns -1 and the files
are what they were, or it returns 0 and has changed one file only, at the path, which is a store
without records of the given size. -/
theorem allocate_all_or_nothing (cbc : ssl.CbcInverts) (path password : Option CString)
    (size : UInt64) {before after : Disk} {result : Int}
    (execution : Program.Exec answersRemoving (padlockAllocate ssl path size password)
      before result after) :
    (result = -1 ∧ after.files = before.files) ∨
      (result = 0 ∧ ∃ place secret file, path = some place ∧ password = some secret ∧
        after.files place = some file ∧ EmptyStore ssl secret size file ∧
        ∀ other, other ≠ place → after.files other = before.files other) := by
  cases path with
  | none =>
    obtain ⟨rfl, rfl⟩ := Program.exec_done.mp execution
    exact .inl ⟨rfl, rfl⟩
  | some place =>
  cases password with
  | none =>
    obtain ⟨rfl, rfl⟩ := Program.exec_done.mp execution
    exact .inl ⟨rfl, rfl⟩
  | some secret =>
  obtain ⟨rfl, rfl⟩ | ⟨temporary, finish, stored, enough, free, filling, cleaning, rfl⟩ :=
    exec_padlockAllocate (fun _ _ _ _ answered => answers_of_removing answered) execution
  · exact .inl ⟨rfl, rfl⟩
  obtain ⟨failed, beside⟩ | ⟨returned, others⟩ := ensures_allocateStore ssl place size secret free
    (.created before temporary) finish stored filling
  · exact .inl ⟨failed, ensures_allocateCleanUp failed free beside () after cleaning⟩
  · obtain ⟨noFile, noFd, file, storedAt, fresh⟩ :=
      exec_allocateStore cbc enough (.created before temporary) filling returned
    obtain rfl := exec_allocateCleanUp noFile noFd returned cleaning
    exact .inr ⟨returned, place, secret, file, rfl, rfl, storedAt, fresh.empty, others⟩

end Allocation

/-! On an empty disk the temporary file is made, its mode cannot be set, and it is removed. -/

def emptyDisk : Disk := { files := fun _ => none, stream := none }

def sampleTemporary : CString := ⟨samplePath.bytes ++ temporarySuffix, by decide⟩

/-- The disk with the temporary file. -/
def temporaryDisk : Disk where
  files := Function.update emptyDisk.files sampleTemporary (some File.empty)
  stream := some (sampleTemporary, 0)

theorem sample_allocation_fails :
    Program.Exec answersRemoving
      (padlockAllocate standIn (some samplePath) 8192 (some samplePassword)) emptyDisk (-1)
      { files := Function.update temporaryDisk.files sampleTemporary none
        stream := none } := by
  have storing : Program.Exec answersRemoving
      (allocateStore standIn samplePath sampleTemporary 8192 samplePassword) temporaryDisk
      { ok := -1, file := false, fd := true } temporaryDisk :=
    Program.exec_request_bind.mpr ⟨false, temporaryDisk, rfl, .done _ _⟩
  have cleaning : Program.Exec answersRemoving
      (allocateCleanUp sampleTemporary { ok := -1, file := false, fd := true }) temporaryDisk ()
      { files := Function.update temporaryDisk.files sampleTemporary none
        stream := none } :=
    Program.exec_request_bind.mpr ⟨(), { temporaryDisk with stream := none }, rfl,
      Program.exec_request_bind.mpr ⟨true, _, ⟨rfl, rfl⟩, .done _ _⟩⟩
  refine Program.exec_bind.mpr ⟨(0 : Int), emptyDisk, .done _ _, ?_⟩
  refine Program.exec_request_bind.mpr
    ⟨some sampleTemporary, temporaryDisk, ⟨rfl, rfl, rfl⟩, ?_⟩
  refine Program.exec_bind.mpr ⟨_, temporaryDisk, storing, ?_⟩
  exact Program.exec_bind.mpr ⟨(), _, cleaning, .done _ _⟩

theorem allocate_all_or_nothing_sample :
    temporaryDisk.files sampleTemporary ≠ none ∧
      ∃ after, Program.Exec answersRemoving
          (padlockAllocate standIn (some samplePath) 8192 (some samplePassword)) emptyDisk (-1)
          after ∧
        after.files = emptyDisk.files := by
  refine ⟨?_, _, sample_allocation_fails, ?_⟩
  · show Function.update emptyDisk.files sampleTemporary (some File.empty) sampleTemporary ≠ none
    rw [Function.update_self]
    exact Option.some_ne_none _
  · obtain ⟨-, same⟩ | ⟨success, -⟩ := allocate_all_or_nothing standIn_lawful.cbc
      (some samplePath) (some samplePassword) 8192 sample_allocation_fails
    · exact same
    · cases success

end Padlock
