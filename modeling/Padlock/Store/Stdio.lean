/-
This file gives the C library as the store code sees it: the requests a program
makes of its streams and its heap, the file behind a stream, and the reading of
a program in which no such request fails.

A seek is joined with the read or the write it positions, which is how the code
always uses it: the two fail alike. `fseeko` refuses an offset that is negative
as an `off_t`, so an offset from 2^63 on never reaches the file.
-/

import Padlock.Library.Program
import Padlock.Store.Format

namespace Padlock

open Interaction

inductive OpenMode where
  /-- `"rb"` -/
  | readOnly
  /-- `"rb+"` -/
  | update

/-- What a heap block holds when it is given back. -/
inductive Block where
  /-- Decrypted or caller's bytes were put there; these are its bytes now. -/
  | plaintext (contents : List UInt8)
  /-- Nothing but ciphertext was ever put there. -/
  | other (size : Nat)

inductive Request where
  | fopen (path : CString) (mode : OpenMode)
  | fclose
  | seekRead (offset count : Nat)
  | seekWrite (offset : Nat) (data : List UInt8)
  | malloc (size : Nat)
  | free (block : Block)

abbrev Response : Request → Type
  | .fopen _ _ => Bool
  | .fclose => Bool
  | .seekRead _ _ => List UInt8
  | .seekWrite _ _ => Nat
  | .malloc _ => Bool
  | .free _ => Unit

abbrev Stdio (Result : Type) := Program Request Response Result

/-- Make one request of the C library. -/
abbrev ask (asked : Request) : Stdio (Response asked) := Program.request asked

/-- `fseeko(file, (off_t) offset, SEEK_SET) == 0 && fread(.., count, file) == count` -/
def seekRead (offset : UInt64) (count : Nat) : Stdio (Option (Bytes count)) :=
  if offset.toNat < 2 ^ 63 then do
    let bytes : List UInt8 ← ask (.seekRead offset.toNat count)
    return if full : bytes.length = count then some ⟨bytes, full⟩ else none
  else
    return none

/-- `fseeko(file, (off_t) offset, SEEK_SET) == 0 && fwrite(data, 1u, n, file) == n` -/
def seekWrite (offset : UInt64) (data : List UInt8) : Stdio Bool :=
  if offset.toNat < 2 ^ 63 then do
    let written : Nat ← ask (.seekWrite offset.toNat data)
    return written == data.length
  else
    return false

/-- `free(block)`, which does nothing for a null pointer. -/
def freeBlock : Option Block → Stdio Unit
  | some block => ask (.free block)
  | none => return ()

def readHeader : Stdio (Option Header) := do
  let some buffer ← seekRead 0 padlockHeaderSize | return none
  return headerOfBuffer buffer

def writeHeader (header : Header) : Stdio Bool :=
  seekWrite 0 (headerBytes header).toList

/-! ### The file behind a stream -/

/-- The contents of a file. Its length is an `off_t`. -/
@[ext] structure File where
  bytes : List UInt8
  fits : bytes.length < 2 ^ 63

inductive FileRequest where
  | read (offset count : Nat)
  | write (offset : Nat) (data : List UInt8)

abbrev FileResponse : FileRequest → Type
  | .read _ _ => List UInt8
  | .write _ _ => Nat

abbrev FileProgram (Result : Type) := Program FileRequest FileResponse Result

/-- The file after a write; it grows when the write ends past its end. -/
def File.write (file : File) (offset : Nat) (data : List UInt8)
    (room : offset + data.length < 2 ^ 63) : File where
  bytes := Span.write 0 offset data file.bytes
  fits := by
    have := file.fits
    rw [Span.length_write_le]
    omega

/-- A file that serves each request whole. A write past the largest offset is refused. -/
def serveFile : Server FileRequest FileResponse File
  | .read offset count, file => (Span.read offset count file.bytes, file)
  | .write offset data, file =>
    if room : offset + data.length < 2 ^ 63 then (data.length, file.write offset data room)
    else (0, file)

/-- Streams and heap without failures: opening and allocating succeed, and reads and writes
become requests to the file. -/
def noFailure : (asked : Request) → FileProgram (Response asked)
  | .fopen _ _ => .done true
  | .fclose => .done true
  | .seekRead offset count => .ask (.read offset count) .done
  | .seekWrite offset data => .ask (.write offset data) .done
  | .malloc _ => .done true
  | .free _ => .done ()

/-- The requests to the file that a program makes when nothing fails. -/
def onFile {Result : Type} (program : Stdio Result) : FileProgram Result :=
  program.relay noFailure

/-- The result of a program on a file when nothing fails, and the file afterwards. -/
def runOn {Result : Type} (program : Stdio Result) (file : File) : Option (Result × File) :=
  (onFile program).run serveFile file

section OnFile

variable {Result Outcome : Type}

@[simp] theorem onFile_done (result : Result) : onFile (.done result) = .done result := rfl

theorem onFile_bind (program : Stdio Result) (next : Result → Stdio Outcome) :
    onFile (program >>= next) = (onFile program >>= fun result => onFile (next result)) :=
  Program.relay_bind noFailure program next

@[simp] theorem onFile_fopen (path : CString) (mode : OpenMode) (next : Bool → Stdio Result) :
    onFile (.ask (.fopen path mode) next) = onFile (next true) := rfl

@[simp] theorem onFile_fclose (next : Bool → Stdio Result) :
    onFile (.ask .fclose next) = onFile (next true) := rfl

@[simp] theorem onFile_malloc (size : Nat) (next : Bool → Stdio Result) :
    onFile (.ask (.malloc size) next) = onFile (next true) := rfl

@[simp] theorem onFile_freeBlock (block : Option Block) : onFile (freeBlock block) = .done () := by
  cases block <;> rfl

/-- What a positioned read becomes: one request, or none when the seek is refused. -/
theorem onFile_seekRead (offset : UInt64) (count : Nat) :
    onFile (seekRead offset count) =
      if offset.toNat < 2 ^ 63 then
        .ask (.read offset.toNat count) fun bytes =>
          .done (if full : bytes.length = count then some ⟨bytes, full⟩ else none)
      else .done none := by
  unfold seekRead
  split <;> rfl

theorem onFile_seekWrite (offset : UInt64) (data : List UInt8) :
    onFile (seekWrite offset data) =
      if offset.toNat < 2 ^ 63 then
        .ask (.write offset.toNat data) fun written => .done (written == data.length)
      else .done false := by
  unfold seekWrite
  split <;> rfl

@[simp] theorem runOn_done (result : Result) (file : File) :
    runOn (.done result) file = some (result, file) := rfl

@[simp] theorem runOn_fopen (path : CString) (mode : OpenMode) (next : Bool → Stdio Result)
    (file : File) : runOn (.ask (.fopen path mode) next) file = runOn (next true) file := rfl

@[simp] theorem runOn_fclose (next : Bool → Stdio Result) (file : File) :
    runOn (.ask .fclose next) file = runOn (next true) file := rfl

@[simp] theorem runOn_malloc (size : Nat) (next : Bool → Stdio Result) (file : File) :
    runOn (.ask (.malloc size) next) file = runOn (next true) file := rfl

@[simp] theorem runOn_freeBlock (block : Option Block) (next : Unit → Stdio Result) (file : File) :
    runOn (freeBlock block >>= next) file = runOn (next ()) file := by
  cases block <;> rfl

theorem runOn_bind (program : Stdio Result) (next : Result → Stdio Outcome) (file : File) :
    runOn (program >>= next) file =
      (runOn program file).bind fun output => runOn (next output.1) output.2 := by
  rw [runOn, onFile_bind, Program.run_bind]
  rfl

end OnFile

/-- The first `count` bytes of a range of a file, when the file has them all. -/
def File.readAt (file : File) (offset count : Nat) : Option (Bytes count) :=
  if full : (Span.read offset count file.bytes).length = count then
    some ⟨Span.read offset count file.bytes, full⟩
  else none

/-- A positioned read gives the bytes of the range when the file has them all. Past 2^63 the
seek is refused, and the file has no bytes there either. -/
theorem runOn_seekRead (offset : UInt64) {count : Nat} (positive : 0 < count) (file : File) :
    runOn (seekRead offset count) file = some (file.readAt offset.toNat count, file) := by
  rw [runOn, onFile_seekRead]
  split
  · rfl
  · have short : ¬ (Span.read offset.toNat count file.bytes).length = count := by
      have := file.fits
      rw [Span.length_read]
      omega
    rw [Program.run_done, File.readAt, dif_neg short]

theorem readAt_eq_some {file : File} {offset count : Nat} {bytes : Bytes count} :
    file.readAt offset count = some bytes ↔ Span.read offset count file.bytes = bytes.toList := by
  unfold File.readAt
  constructor
  · intro found
    split at found
    · rw [← Option.some.inj found]
    · cases found
  · intro same
    have full : (Span.read offset count file.bytes).length = count := by
      rw [same, bytes.lengthEq]
    rw [dif_pos full, Option.some.injEq, Bytes.ext_iff]
    exact same

end Padlock
