/-
This file models `padlock_set`: the checks, the record in the clear, its
encryption at the write offset, and the rewritten header.
-/

import Padlock.Store.Secret

namespace Padlock

open Interaction

/-- What `padlock_set` has when it reaches its clean-up: the result, and the two blocks it
allocated, as far as it got. -/
structure SetEnd where
  ok : Int
  plain : Option Block
  cipher : Option Block

/-- The clean-up found with nothing allocated. -/
def SetEnd.refused : SetEnd := { ok := -1, plain := none, cipher := none }

/-- `plain_length` in 64 bits. -/
def plainLength (key : CString) (value : Value) : UInt64 :=
  1 + UInt64.ofNat key.bytes.length + 4 + (UInt32.ofNat value.bytes.length).toUInt64

/-- The record in the clear, put into a cleared buffer piece by piece. -/
def buildRecord (key : CString) (value : Value) (size : Nat) : Option (Bytes size) := do
  let plain := Bytes.cleared size
  let plain ← plain.store 0 [UInt8.ofNat key.bytes.length]
  let plain ← plain.store 1 key.bytes
  let plain ← plain.store (1 + key.bytes.length) (putU32 (UInt32.ofNat value.bytes.length))
  plain.store (1 + key.bytes.length + 4) value.bytes

/-- The part of `padlock_set` between opening the file and the clean-up. -/
def setStore (ssl : OpenSsl) (password key : CString) (value : Value) : Stdio SetEnd := do
  let some header ← readHeader | return .refused
  let some xtsKey ← Program.bounded (decryptSecret ssl password header) | return .refused
  let paddedLength := align16 (plainLength key value)
  let size := paddedLength.toNat
  if paddedLength < 16 ∨ header.writeOffset + paddedLength > header.totalSize then
    return .refused
  let plainAllocated : Bool ← ask (.malloc size)
  let cipherAllocated : Bool ← ask (.malloc size)
  if !plainAllocated || !cipherAllocated then
    return { ok := -1
             plain := if plainAllocated then some (.other size) else none
             cipher := if cipherAllocated then some (.other size) else none }
  let plain ← Program.bounded (buildRecord key value size)
  -- the clean-up wipes `plain` before it frees it
  let failed : SetEnd :=
    { ok := -1, plain := some (.plaintext (zeros size)), cipher := some (.other size) }
  let some cipher := cryptXts ssl true xtsKey header.writeOffset plain | return failed
  let recordWritten ← seekWrite header.writeOffset cipher.toList
  if !recordWritten then
    return failed
  let headerWritten ←
    writeHeader { header with writeOffset := header.writeOffset + paddedLength }
  if !headerWritten then
    return failed
  return { failed with ok := 0 }

def padlockSet (ssl : OpenSsl) (path password key : Option CString) (value : Option Value) :
    Stdio Int := do
  let some path := path | return -1
  let some password := password | return -1
  let some key := key | return -1
  let some value := value | return -1
  if key.bytes.length = 0 ∨ key.bytes.length > 255 then
    return -1
  let opened : Bool ← ask (.fopen path .update)
  let finish ← if opened then setStore ssl password key value else pure .refused
  if opened then
    let _ : Bool ← ask .fclose
  freeBlock finish.plain
  freeBlock finish.cipher
  return finish.ok

end Padlock
