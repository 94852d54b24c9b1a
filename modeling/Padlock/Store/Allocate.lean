/-
This file models `padlock_allocate`: the parent directory, the temporary file
filled with random bytes, the sealed store key, the header, and the rename that
puts the finished file in place.

The system around the call is a relation, since it may fail at any step, may
give any random bytes and may take any part of a write. A read of
`/dev/urandom` that is interrupted is repeated by the code, so the response
here is the one after the interruptions. The count that `fwrite` returns is taken
to be the bytes the file has got, also when it is short; a stream that drops what
it has buffered when a write fails is not modelled here.
-/

import Mathlib.Logic.Function.Basic
import Padlock.Store.Secret

namespace Padlock

open Interaction

inductive MkdirResult where
  | created
  /-- -1 with `EEXIST` -/
  | present
  /-- -1 with another error -/
  | failed
  deriving DecidableEq

/-- `BUFFER_SIZE` of `write_urandom_bytes` -/
def bufferSize : Nat := 1024 * 1024

inductive SystemRequest where
  | stdio (asked : Request)
  | mkdir (path : List UInt8) (mode : Nat)
  | chmod (path : List UInt8) (mode : Nat)
  | mkstemp (template : List UInt8)
  | fchmod (mode : Nat)
  | fdopen
  /-- `malloc(BUFFER_SIZE)`: the block comes with whatever it holds -/
  | mallocBuffer
  | openUrandom
  | readUrandom (count : Nat)
  | closeUrandom
  /-- the response is how many bytes the file has got -/
  | fwrite (data : List UInt8)
  | randBytes (count : Nat)
  | fflush
  | fsync
  | close
  | rename (source target : CString)
  | unlink (path : CString)

abbrev SystemResponse : SystemRequest → Type
  | .stdio asked => Response asked
  | .mkdir _ _ => MkdirResult
  | .chmod _ _ => Bool
  | .mkstemp _ => Option CString
  | .fchmod _ => Bool
  | .fdopen => Bool
  | .mallocBuffer => Option (Bytes bufferSize)
  | .openUrandom => Bool
  | .readUrandom count => Option { bytes : List UInt8 // bytes.length ≤ count }
  | .closeUrandom => Unit
  | .fwrite data => Fin (data.length + 1)
  | .randBytes count => Option (Bytes count)
  | .fflush => Bool
  | .fsync => Bool
  | .close => Unit
  | .rename _ _ => Bool
  | .unlink _ => Bool

abbrev System (Result : Type) := Program SystemRequest SystemResponse Result

abbrev call (asked : SystemRequest) : System (SystemResponse asked) := Program.request asked

/-- A program over streams and the heap, as a part of one over the system. -/
def onSystem {Result : Type} (program : Stdio Result) : System Result :=
  program.relay fun asked => call (.stdio asked)

/-- `PATH_MAX` -/
def pathMax : Nat := 4096

/-- What stands before the last slash of a path, if it has one. -/
def parentOf (path : List UInt8) : Option (List UInt8) :=
  if 0x2f ∈ path then some (path.reverse.dropWhile (· ≠ 0x2f)).reverse.dropLast else none

def ensureParentDirectory (path : CString) : System Int := do
  if path.bytes.length ≥ pathMax then
    return -1
  let some parent := parentOf path.bytes | return 0
  let made : MkdirResult ← call (.mkdir parent 0o700)
  if made = .failed then
    return -1
  let _ : Bool ← call (.chmod parent 0o700)
  return 0

/-! ### The random filling -/

/-- The inner loop that fills the buffer up to `amount`. -/
def readRounds (amount readTotal : Nat) (buffer : Bytes bufferSize) :
    System (Option (Bytes bufferSize)) :=
  if readTotal < amount then
    .ask (.readUrandom (amount - readTotal)) fun
      | none => .done none
      | some ⟨bytes, _⟩ =>
        if bytes = [] then .done none
        else Program.bounded (buffer.store readTotal bytes) >>= fun buffer =>
          readRounds amount (readTotal + bytes.length) buffer
  else .done (some buffer)
termination_by amount - readTotal
decreasing_by
  have := List.length_pos_iff.mpr ‹¬ bytes = []›
  omega

/-- The inner loop that writes the first `amount` bytes of the buffer. -/
def writeRounds (amount writeTotal : Nat) (buffer : Bytes bufferSize) : System Bool :=
  if writeTotal < amount then
    Program.bounded (buffer.load writeTotal (amount - writeTotal)) >>= fun data =>
      .ask (.fwrite data) fun written =>
        if written.val = 0 then .done false
        else writeRounds amount (writeTotal + written.val) buffer
  else .done true
termination_by amount - writeTotal
decreasing_by omega

/-- `amount` of one round of the outer loop. -/
def roundAmount (remaining : Nat) : Nat :=
  if remaining > bufferSize then bufferSize else remaining

theorem roundAmount_le (remaining : Nat) : roundAmount remaining ≤ remaining := by
  unfold roundAmount
  split <;> omega

theorem roundAmount_pos {remaining : Nat} (more : 0 < remaining) : 0 < roundAmount remaining := by
  have : 0 < bufferSize := by decide
  unfold roundAmount
  split <;> omega

/-- The outer loop, one buffer at a time. -/
def fillRounds (remaining : Nat) (buffer : Bytes bufferSize) : System Int :=
  if 0 < remaining then
    readRounds (roundAmount remaining) 0 buffer >>= fun
      | none => .done (-1)
      | some buffer => writeRounds (roundAmount remaining) 0 buffer >>= fun
        | false => .done (-1)
        | true => fillRounds (remaining - roundAmount remaining) buffer
  else .done 0
termination_by remaining
decreasing_by
  have := roundAmount_pos ‹0 < remaining›
  omega

def writeUrandomBytes (length : UInt64) : System Int := do
  let some buffer ← call .mallocBuffer | return -1
  let opened : Bool ← call .openUrandom
  let ok ← if opened then fillRounds length.toNat buffer else pure (-1)
  if opened then
    call .closeUrandom
  onSystem (freeBlock (some (.plaintext (zeros bufferSize))))
  return ok

/-! ### The call -/

/-- What `padlock_allocate` has when it reaches its clean-up: the result, and whether the stream
or the bare descriptor is still open. -/
structure AllocateEnd where
  ok : Int
  file : Bool
  fd : Bool

/-- The part of `padlock_allocate` between `mkstemp` and the clean-up. -/
def allocateStore (ssl : OpenSsl) (path temporary : CString) (size : UInt64) (password : CString) :
    System AllocateEnd := do
  let bare : AllocateEnd := { ok := -1, file := false, fd := true }
  let failed : AllocateEnd := { ok := -1, file := true, fd := false }
  let restricted : Bool ← call (.fchmod 0o600)
  if !restricted then
    return bare
  let opened : Bool ← call .fdopen
  if !opened then
    return bare
  let filled ← writeUrandomBytes size
  if filled ≠ 0 then
    return failed
  let some salt ← call (.randBytes padlockSaltSize) | return failed
  let some iv ← call (.randBytes padlockIvSize) | return failed
  let some xtsKey ← call (.randBytes padlockXtsKeySize) | return failed
  let cleared : Header :=
    { totalSize := size
      writeOffset := UInt64.ofNat padlockHeaderSize
      salt
      iv
      encryptedSecret := Bytes.cleared 128
      encryptedSecretSize := 0 }
  let some header ← Program.bounded (encryptSecret ssl password cleared xtsKey) | return failed
  let written ← onSystem (writeHeader header)
  if !written then
    return failed
  let flushed : Bool ← call .fflush
  if !flushed then
    return failed
  let synced : Bool ← call .fsync
  if !synced then
    return failed
  let closed : Bool ← call (.stdio .fclose)
  if !closed then
    return { ok := -1, file := false, fd := false }
  let renamed : Bool ← call (.rename temporary path)
  return { ok := if renamed then 0 else -1, file := false, fd := false }

/-- The clean-up: close what is open, and remove the temporary file after a failure. -/
def allocateCleanUp (temporary : CString) (finish : AllocateEnd) : System Unit := do
  if finish.file then
    let _ : Bool ← call (.stdio .fclose)
  if finish.fd then
    call .close
  if finish.ok ≠ 0 then
    let _ : Bool ← call (.unlink temporary)

/-- `".tmp.XXXXXX"` -/
def temporarySuffix : List UInt8 :=
  [0x2e, 0x74, 0x6d, 0x70, 0x2e, 0x58, 0x58, 0x58, 0x58, 0x58, 0x58]

def padlockAllocate (ssl : OpenSsl) (path : Option CString) (size : UInt64)
    (password : Option CString) : System Int := do
  let some path := path | return -1
  let some password := password | return -1
  if size < UInt64.ofNat padlockMinSize then
    return -1
  let ensured ← ensureParentDirectory path
  if ensured ≠ 0 then
    return -1
  if path.bytes.length + temporarySuffix.length ≥ pathMax then
    return -1
  let some temporary ← call (.mkstemp (path.bytes ++ temporarySuffix)) | return -1
  let finish ← allocateStore ssl path temporary size password
  allocateCleanUp temporary finish
  return finish.ok

/-! ### The system around the call -/

/-- The files by their paths, and the file the open stream writes with its position. -/
structure Disk where
  files : CString → Option File
  stream : Option (CString × Nat)

def File.empty : File := ⟨[], by decide⟩

/-- A write of the first `count` bytes of some data at a position of the open stream's file. -/
def Disk.Writes (disk : Disk) (position : Nat) (data : List UInt8) (count : Nat) (next : Disk) :
    Prop :=
  count ≤ data.length ∧ ∃ path before file, ∃ room : position + (data.take count).length < 2 ^ 63,
    disk.stream = some (path, before) ∧ disk.files path = some file ∧
      next = { files := Function.update disk.files path
                 (some (file.write position (data.take count) room))
               stream := some (path, position + count) }

/-- The answers of the system: each step may fail, and then nothing has happened but for the
part of a write that was taken. -/
def answers : Surroundings SystemRequest SystemResponse Disk
  | .mkstemp template, disk, response, next =>
    match response with
    | none => next = disk
    | some temporary =>
      disk.files temporary = none ∧ temporary.bytes.length = template.length ∧
        next = { files := Function.update disk.files temporary (some File.empty)
                 stream := some (temporary, 0) }
  | .fwrite data, disk, count, next =>
    ∃ path position, disk.stream = some (path, position) ∧ disk.Writes position data count.val next
  | .stdio (.seekWrite offset data), disk, count, next => disk.Writes offset data count next
  | .stdio .fclose, disk, _, next => next = { disk with stream := none }
  | .close, disk, _, next => next = { disk with stream := none }
  | .rename source target, disk, renamed, next =>
    next = if renamed then
      { disk with files :=
        Function.update (Function.update disk.files source none) target (disk.files source) }
    else disk
  | .unlink path, disk, unlinked, next =>
    next = if unlinked then { disk with files := Function.update disk.files path none } else disk
  | _, disk, _, next => next = disk

/-- A file that `padlock_allocate` has put at a path. -/
def Allocated (ssl : OpenSsl) (path : CString) (size : UInt64) (password : CString) (file : File) :
    Prop :=
  ∃ before after, Program.Exec answers (padlockAllocate ssl (some path) size (some password))
      before 0 after ∧
    after.files path = some file

end Padlock
