/-
This file says what a lookup asks of its file: it reads the header, and after
that only ranges between the header and the write offset it has read. So its
answer depends on nothing behind the write offset, nor on later headers, and a
lookup changes nothing.
-/

import Padlock.Store.Append

namespace Padlock

open Interaction

/-- A read inside the records: behind the header and before a write offset. -/
def FileRequest.InRecords (writeOffset : Nat) : FileRequest → Prop
  | .read offset count => padlockHeaderSize ≤ offset ∧ offset + count ≤ writeOffset
  | .write _ _ => False

/-- Two files have the same bytes between the header and a write offset. -/
def SameRecords (writeOffset : Nat) (file twin : File) : Prop :=
  ∀ offset count, padlockHeaderSize ≤ offset → offset + count ≤ writeOffset →
    Span.read offset count file.bytes = Span.read offset count twin.bytes

/-- A program that reads inside the records does the same on files with the same records. -/
theorem run_of_sameRecords {Result : Type} {writeOffset : Nat} {program : FileProgram Result}
    (asks : program.Asks (FileRequest.InRecords writeOffset)) {file twin : File}
    (same : SameRecords writeOffset file twin) {result : Result}
    (ran : program.run serveFile file = some (result, file)) :
    program.run serveFile twin = some (result, twin) := by
  have results := Program.run_congr serveFile serveFile (SameRecords writeOffset) (by
    intro asked first second inside alike
    cases asked with
    | read offset count => exact ⟨alike offset count inside.1 inside.2, alike⟩
    | write offset data => cases inside) asks same
  rw [ran, Option.map_some, eq_comm, Option.map_eq_some_iff] at results
  obtain ⟨⟨_, final⟩, twinRan, rfl⟩ := results
  have unchanged : final = twin := by
    refine Program.run_unchanged serveFile ?_ asks twinRan
    intro asked state inside
    cases asked with
    | read offset count => rfl
    | write offset data => cases inside
  rw [twinRan, unchanged]

/-- The same range, asked of the stream. Opening, closing and the heap leave the file alone. -/
def Request.InRecords (writeOffset : Nat) : Request → Prop
  | .seekRead offset count => FileRequest.InRecords writeOffset (.read offset count)
  | .seekWrite _ _ => False
  | _ => True

theorem asks_onFile {Result : Type} {writeOffset : Nat} {program : Stdio Result}
    (asks : program.Asks (Request.InRecords writeOffset)) :
    (onFile program).Asks (FileRequest.InRecords writeOffset) := by
  refine asks.relay fun asked allowed => ?_
  cases asked with
  | seekRead offset count => exact ⟨allowed, fun _ => trivial⟩
  | seekWrite offset data => cases allowed
  | _ => trivial

section Asks

variable {Result Outcome : Type} {writeOffset : Nat}

theorem asks_malloc {size : Nat} {next : Bool → Stdio Result}
    (rest : ∀ allocated, (next allocated).Asks (Request.InRecords writeOffset)) :
    (ask (.malloc size) >>= next).Asks (Request.InRecords writeOffset) :=
  ⟨trivial, rest⟩

theorem asks_freeBlock {block : Option Block} {next : Unit → Stdio Result}
    (rest : (next ()).Asks (Request.InRecords writeOffset)) :
    (freeBlock block >>= next).Asks (Request.InRecords writeOffset) := by
  cases block with
  | none => exact rest
  | some block => exact ⟨trivial, fun _ => rest⟩

theorem asks_bounded {bound : Option Result} {next : Result → Stdio Outcome}
    (rest : ∀ result, (next result).Asks (Request.InRecords writeOffset)) :
    (Program.bounded bound >>= next).Asks (Request.InRecords writeOffset) := by
  cases bound with
  | none => trivial
  | some result => exact rest result

theorem asks_seekRead {offset : UInt64} {count : Nat}
    {next : Option (Bytes count) → Stdio Result}
    (reads : offset.toNat < 2 ^ 63 → padlockHeaderSize ≤ offset.toNat ∧
      offset.toNat + count ≤ writeOffset)
    (rest : ∀ response, (next response).Asks (Request.InRecords writeOffset)) :
    (seekRead offset count >>= next).Asks (Request.InRecords writeOffset) := by
  refine Program.Asks.bind ?_ rest
  unfold seekRead
  split
  · rename_i seekable
    exact ⟨reads seekable, fun _ => trivial⟩
  · trivial

end Asks

/-! ### The reads of the scan -/

section Scan

variable (ssl : OpenSsl) (xtsKey : Bytes padlockXtsKeySize) (header : Header) (key : CString)

theorem inRecords_of_not_gt {offset length : UInt64} (seekable : offset.toNat < 2 ^ 63)
    (low : padlockHeaderSize ≤ offset.toNat)
    (short : length.toNat < 2 ^ 32) (inside : ¬ offset + length > header.writeOffset) :
    padlockHeaderSize ≤ offset.toNat ∧
      offset.toNat + length.toNat ≤ header.writeOffset.toNat := by
  have sum := UInt64.le_iff_toNat_le.mp (UInt64.not_lt.mp inside)
  rw [UInt64.toNat_add] at sum
  refine ⟨low, ?_⟩
  omega

theorem asks_readPrefix {offset : UInt64} (low : padlockHeaderSize ≤ offset.toNat)
    (keySize : UInt8) :
    (readPrefix ssl xtsKey header offset keySize).Asks
      (Request.InRecords header.writeOffset.toNat) := by
  unfold readPrefix
  dsimp only
  split
  · trivial
  · rename_i inside
    refine asks_malloc fun cipherAllocated => asks_malloc fun plainAllocated => ?_
    split
    · exact asks_freeBlock (asks_freeBlock trivial)
    refine asks_seekRead
      (fun seekable => inRecords_of_not_gt header seekable low (align16_lt _) inside) ?_
    intro response
    cases response with
    | none => exact asks_freeBlock (asks_freeBlock trivial)
    | some cipher =>
      dsimp only
      cases cryptXts ssl false xtsKey offset cipher with
      | none => exact asks_freeBlock (asks_freeBlock trivial)
      | some plain => trivial

theorem asks_readEntry {offset : UInt64} (low : padlockHeaderSize ≤ offset.toNat)
    (seekable : offset.toNat < 2 ^ 63) (keySize : UInt8) (valueLength : UInt32)
    (prefixSize : Nat) (found : Option Found) :
    (readEntry ssl xtsKey header key offset seekable keySize valueLength prefixSize found).Asks
      (Request.InRecords header.writeOffset.toNat) := by
  unfold readEntry
  dsimp only
  split
  · exact asks_freeBlock (asks_freeBlock trivial)
  · rename_i inside
    refine asks_malloc fun cipherAllocated => asks_malloc fun plainAllocated => ?_
    split
    · exact asks_freeBlock (asks_freeBlock (asks_freeBlock (asks_freeBlock trivial)))
    refine asks_seekRead
      (fun seekable =>
        inRecords_of_not_gt header seekable low (align16_lt _) (not_or.mp inside).2) ?_
    intro response
    cases response with
    | none => exact asks_freeBlock (asks_freeBlock (asks_freeBlock (asks_freeBlock trivial)))
    | some cipher =>
      dsimp only
      cases cryptXts ssl false xtsKey offset cipher with
      | none => exact asks_freeBlock (asks_freeBlock (asks_freeBlock (asks_freeBlock trivial)))
      | some plain =>
        dsimp only
        split
        · refine asks_bounded fun entryKey => ?_
          split
          · refine asks_malloc fun replacementAllocated => ?_
            split
            · exact asks_freeBlock (asks_freeBlock trivial)
            refine asks_bounded fun replacement => asks_freeBlock ?_
            exact asks_freeBlock (asks_freeBlock (asks_freeBlock (asks_freeBlock trivial)))
          · exact asks_freeBlock (asks_freeBlock (asks_freeBlock (asks_freeBlock trivial)))
        · exact asks_freeBlock (asks_freeBlock (asks_freeBlock (asks_freeBlock trivial)))

theorem asks_scanRound {offset : UInt64} (low : padlockHeaderSize ≤ offset.toNat)
    (found : Option Found) (room : offset + 16 ≤ header.writeOffset) :
    (scanRound ssl xtsKey header key offset found).Asks
      (Request.InRecords header.writeOffset.toNat) := by
  unfold scanRound
  split
  · rename_i seekable
    refine asks_seekRead
      (fun seekable =>
        inRecords_of_not_gt header seekable low (by decide) (UInt64.not_lt.mpr room)) ?_
    intro response
    cases response with
    | none => trivial
    | some cipher =>
      dsimp only
      cases cryptXts ssl false xtsKey offset cipher with
      | none => trivial
      | some block =>
        dsimp only
        split
        · trivial
        · refine (asks_readPrefix ssl xtsKey header low _).bind fun response => ?_
          cases response with
          | none => trivial
          | some prefixPlain =>
            refine asks_bounded fun valueLength => ?_
            exact asks_readEntry ssl xtsKey header key low seekable _ _ _ found
  · trivial

/-- Every range the scan reads, whatever fails, lies behind the header and ends at or before the
write offset. -/
theorem asks_scan {offset : UInt64} (low : padlockHeaderSize ≤ offset.toNat)
    (found : Option Found) :
    (scan ssl xtsKey header key offset found).Asks
      (Request.InRecords header.writeOffset.toNat) := by
  induction left : 2 ^ 64 - offset.toNat using Nat.strongRecOn generalizing offset found with
  | _ left inductionHypothesis =>
    rw [scan]
    split
    · rename_i room
      refine (asks_scanRound ssl xtsKey header key low found room).bind ?_
      intro round
      cases round with
      | done found => trivial
      | next following above found =>
        have bound := following.toNat_lt
        rw [UInt64.lt_iff_toNat_lt] at above
        exact inductionHypothesis _ (by omega) (by omega) found rfl
    · trivial

end Scan

/-! ### The whole lookup -/

/-- What follows the read of the header in a lookup. -/
def lookupFor (ssl : OpenSsl) (password key : CString) : Option Header → FileProgram ScanEnd
  | none => .done { found := none, complete := false }
  | some header => Program.bounded (decryptSecret ssl password header) >>= fun
    | none => .done { found := none, complete := false }
    | some xtsKey => onFile (scan ssl xtsKey header key (UInt64.ofNat padlockHeaderSize) none)

variable {ssl : OpenSsl} {path password key : CString}

/-- The call of `padlock_get` with all its arguments given. -/
abbrev callGet (ssl : OpenSsl) (path password key : CString) : Stdio (Option Found) :=
  padlockGet ssl (some path) (some password) (some key) true

/-- The requests of `padlock_get` to its file. -/
theorem onFile_padlockGet :
    onFile (callGet ssl path password key) =
      .ask (.read 0 padlockHeaderSize) fun bytes =>
        lookupFor ssl password key (headerIn bytes) >>= fun finish => .done finish.answer := by
  have stored : onFile (getStore ssl password key) =
      .ask (.read 0 padlockHeaderSize) fun bytes =>
        lookupFor ssl password key (headerIn bytes) := by
    rw [getStore, onFile_readHeader]
    congr 1
    funext bytes
    cases headerIn bytes with
    | none => rfl
    | some header =>
      simp only [lookupFor, onFile_bind, onFile_bounded]
      congr 1
      funext secret
      cases secret <;> rfl
  simp only [callGet, padlockGet, Bool.not_true, Bool.false_eq_true, if_false,
    Program.request_bind, onFile_fopen, if_true, onFile_bind, stored, onFile_fclose,
    Program.ask_bind]
  congr 1
  funext bytes
  congr 1
  funext finish
  split
  · rw [onFile_bind, onFile_freeBlock]
    rfl
  · rfl

theorem asks_lookupFor (header : Header) :
    (lookupFor ssl password key (some header)).Asks
      (FileRequest.InRecords header.writeOffset.toNat) := by
  rw [lookupFor]
  cases decryptSecret ssl password header with
  | none => trivial
  | some secret =>
    cases secret with
    | none => trivial
    | some xtsKey => exact asks_onFile (asks_scan ssl xtsKey header key (by decide) none)

end Padlock
