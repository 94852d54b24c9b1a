/-
This file models `padlock_get`: the scan over the records, which reads and
decrypts each record three times, at growing length, and keeps the last value
whose key is the one looked for.

The loop ends because each round moves the offset up. The length of a record is
computed in 32 bits and the offset in 64, so this rests on the checks of the
round and on the seek, which refuses an offset from 2^63 on; a round that goes on
therefore carries the proof that the next offset lies above its own.
-/

import Padlock.Store.Secret

namespace Padlock

open Interaction

/-- A copy of a value: the block with its terminating NUL, and the length beside it. -/
structure Found where
  contents : List UInt8
  length : UInt32
  deriving DecidableEq

/-- The end of one round of the scan: `goto done`, or the next offset. -/
inductive Round (offset : UInt64) where
  | done (found : Option Found)
  | next (following : UInt64) (above : offset < following) (found : Option Found)

/-- What the scan leaves for the clean-up: the copy it holds, and whether it reached the end of
the records. -/
structure ScanEnd where
  found : Option Found
  complete : Bool

/-- The value for the caller: the copy, when the scan reached the end. -/
def ScanEnd.answer (finish : ScanEnd) : Option Found :=
  if finish.complete then finish.found else none

/-- `entry_length`, computed in 32 bits. -/
def entryLength (keySize : UInt8) (valueLength : UInt32) : UInt64 :=
  (1 + keySize.toUInt32 + 4 + valueLength).toUInt64

/-- `prefix_length`: the key size, the key and the value length, in whole blocks. -/
def prefixLength (keySize : UInt8) : UInt64 :=
  align16 (1 + keySize.toUInt32 + 4).toUInt64

theorem advance {offset : UInt64} (seekable : offset.toNat < 2 ^ 63) {length : UInt64}
    (enough : ¬ align16 length < 16) : offset < offset + align16 length := by
  have bound := align16_lt length
  have sixteen : UInt64.toNat 16 = 16 := rfl
  rw [UInt64.lt_iff_toNat_lt, sixteen] at enough
  rw [UInt64.lt_iff_toNat_lt, UInt64.toNat_add]
  omega

section Scan

variable (ssl : OpenSsl) (xtsKey : Bytes padlockXtsKeySize) (header : Header) (key : CString)

/-- The second read of a round: key size, key and value length. -/
def readPrefix (offset : UInt64) (keySize : UInt8) :
    Stdio (Option (Bytes (prefixLength keySize).toNat)) := do
  let size := (prefixLength keySize).toNat
  if offset + prefixLength keySize > header.writeOffset then
    return none
  let cipherAllocated : Bool ← ask (.malloc size)
  let plainAllocated : Bool ← ask (.malloc size)
  if !cipherAllocated || !plainAllocated then
    freeBlock (if cipherAllocated then some (.other size) else none)
    freeBlock (if plainAllocated then some (.other size) else none)
    return none
  let some prefixCipher ← seekRead offset size
    | do
      freeBlock (some (.other size))
      freeBlock (some (.other size))
      return none
  let some prefixPlain := cryptXts ssl false xtsKey offset prefixCipher
    | do
      freeBlock (some (.other size))
      freeBlock (some (failedOutput ssl xtsKey offset prefixCipher))
      return none
  return some prefixPlain

/-- The copy of a matching record's value, with its terminating NUL. The block has
`current_value_length + 1u` bytes, a sum in 32 bits. -/
def copyValue (keySize : UInt8) (valueLength : UInt32) {size : Nat} (entryPlain : Bytes size) :
    Option Found := do
  let replacement := Bytes.cleared (valueLength + 1).toNat
  let value ← entryPlain.load (1 + keySize.toNat + 4) valueLength.toNat
  let replacement ← replacement.store 0 value
  let replacement ← replacement.store valueLength.toNat [0]
  return { contents := replacement.toList, length := valueLength }

/-- The third read of a round: the whole record, compared and copied. `prefixSize` is the size
of the two blocks the second read left allocated. -/
def readEntry (offset : UInt64) (seekable : offset.toNat < 2 ^ 63) (keySize : UInt8)
    (valueLength : UInt32) (prefixSize : Nat) (found : Option Found) : Stdio (Round offset) := do
  let paddedLength := align16 (entryLength keySize valueLength)
  let size := paddedLength.toNat
  if outside : paddedLength < 16 ∨ offset + paddedLength > header.writeOffset then
    freeBlock (some (.other prefixSize))
    freeBlock (some (.plaintext (zeros prefixSize)))
    return .done found
  else
    let cipherAllocated : Bool ← ask (.malloc size)
    let plainAllocated : Bool ← ask (.malloc size)
    if !cipherAllocated || !plainAllocated then
      freeBlock (some (.other prefixSize))
      freeBlock (some (.plaintext (zeros prefixSize)))
      freeBlock (if cipherAllocated then some (.other size) else none)
      freeBlock (if plainAllocated then some (.other size) else none)
      return .done found
    let failed (output : Block) : Stdio (Round offset) := do
      freeBlock (some (.other prefixSize))
      freeBlock (some (.plaintext (zeros prefixSize)))
      freeBlock (some (.other size))
      freeBlock (some output)
      return .done found
    let some entryCipher ← seekRead offset size | failed (.other size)
    let some entryPlain := cryptXts ssl false xtsKey offset entryCipher
      | failed (failedOutput ssl xtsKey offset entryCipher)
    let finish (found : Option Found) : Stdio (Round offset) := do
      freeBlock (some (.other prefixSize))
      freeBlock (some (.plaintext (zeros prefixSize)))
      freeBlock (some (.other size))
      freeBlock (some (.plaintext (zeros size)))
      return .next (offset + paddedLength) (advance seekable (not_or.mp outside).1) found
    if keySize.toNat = key.bytes.length then
      let entryKey ← Program.bounded (entryPlain.load 1 key.bytes.length)
      if entryKey = key.bytes then
        let replacementAllocated : Bool ← ask (.malloc (valueLength + 1).toNat)
        if !replacementAllocated then
          freeBlock (some (.other size))
          freeBlock (some (.plaintext entryPlain.toList))
          return .done found
        let replacement ← Program.bounded (copyValue keySize valueLength entryPlain)
        freeBlock (found.map fun copy => .plaintext copy.contents)
        finish (some replacement)
      else
        finish found
    else
      finish found

/-- One round of the scan at `offset`. -/
def scanRound (offset : UInt64) (found : Option Found) : Stdio (Round offset) := do
  if seekable : offset.toNat < 2 ^ 63 then
    let some cipher ← seekRead offset 16 | return .done found
    let some block := cryptXts ssl false xtsKey offset cipher | return .done found
    let keySize := block.toList.headD 0
    if keySize = 0 then
      return .done found
    let some prefixPlain ← readPrefix ssl xtsKey header offset keySize | return .done found
    let valueLength ← Program.bounded (prefixPlain.load (1 + keySize.toNat) 4)
    readEntry ssl xtsKey header key offset seekable keySize (getU32 valueLength)
      (prefixLength keySize).toNat found
  else
    return .done found

/-- The scan loop from `offset` on. -/
def scan (offset : UInt64) (found : Option Found) : Stdio ScanEnd := do
  if offset + 16 ≤ header.writeOffset then
    match ← scanRound ssl xtsKey header key offset found with
    | .done found => return { found, complete := false }
    | .next following _above found => scan following found
  else
    return { found, complete := true }
termination_by 2 ^ 64 - offset.toNat
decreasing_by
  have := following.toNat_lt
  rw [UInt64.lt_iff_toNat_lt] at _above
  omega

end Scan

/-- The part of `padlock_get` between opening the file and the clean-up. -/
def getStore (ssl : OpenSsl) (password key : CString) : Stdio ScanEnd := do
  let some header ← readHeader | return { found := none, complete := false }
  let some xtsKey ← Program.bounded (decryptSecret ssl password header)
    | return { found := none, complete := false }
  scan ssl xtsKey header key (UInt64.ofNat padlockHeaderSize) none

/-- The value handed to the caller; `none` is the result -1. `outputs` says that neither of the
two pointers for the result is null. -/
def padlockGet (ssl : OpenSsl) (path password key : Option CString) (outputs : Bool) :
    Stdio (Option Found) := do
  let some path := path | return none
  let some password := password | return none
  let some key := key | return none
  if !outputs then
    return none
  let opened : Bool ← ask (.fopen path .readOnly)
  let finish ← if opened then getStore ssl password key
    else pure { found := none, complete := false }
  if opened then
    let _ : Bool ← ask .fclose
  if finish.answer.isNone then
    freeBlock (finish.found.map fun copy => .plaintext copy.contents)
  return finish.answer

end Padlock
