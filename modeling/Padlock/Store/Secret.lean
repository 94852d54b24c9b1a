/-
This file models the cryptographic part of the store: the key derivation, the
sealing of the store key in the header, and the encryption of record ranges.

OpenSSL is a parameter. Each of its functions may refuse; the outputs of an
update and of the final call are kept apart where the code writes them to
different places of one buffer. What the store relies on is stated as laws, and
every result names the laws it uses.
-/

import Padlock.Store.Stdio

namespace Padlock

open Interaction

/-- The OpenSSL functions the store calls. `none` is a call that does not return 1. -/
structure OpenSsl where
  /-- `PKCS5_PBKDF2_HMAC` with the store's iteration count and SHA-256 -/
  pbkdf2 : List UInt8 → Bytes padlockSaltSize → Option (Bytes 32)
  /-- `EVP_EncryptUpdate` of AES-256-CBC on a whole message -/
  cbcEncryptUpdate : Bytes 32 → Bytes padlockIvSize → List UInt8 → Option (List UInt8)
  /-- `EVP_EncryptFinal_ex` after that update -/
  cbcEncryptFinal : Bytes 32 → Bytes padlockIvSize → List UInt8 → Option (List UInt8)
  /-- `EVP_DecryptUpdate` of AES-256-CBC on a whole message -/
  cbcDecryptUpdate : Bytes 32 → Bytes padlockIvSize → List UInt8 → Option (List UInt8)
  /-- `EVP_DecryptFinal_ex` after that update -/
  cbcDecryptFinal : Bytes 32 → Bytes padlockIvSize → List UInt8 → Option (List UInt8)
  /-- AES-256-XTS encryption of one range, update and final call together -/
  xtsEncrypt : Bytes padlockXtsKeySize → Bytes 16 → List UInt8 → Option (List UInt8)
  /-- AES-256-XTS decryption of one range, update and final call together -/
  xtsDecrypt : Bytes padlockXtsKeySize → Bytes 16 → List UInt8 → Option (List UInt8)
  /-- what the update has put into the output when a decryption of one range fails -/
  xtsDecryptLeaves : Bytes padlockXtsKeySize → Bytes 16 → List UInt8 → List UInt8

/-! ### The laws the store relies on -/

namespace OpenSsl

/-- XTS works block by block: what a range of whole blocks decrypts to begins with what its
first blocks decrypt to. -/
def XtsBlockwise (ssl : OpenSsl) : Prop :=
  ∀ key tweak cipher plain count, ssl.xtsDecrypt key tweak cipher = some plain →
    16 ∣ cipher.length → 16 ∣ count → 0 < count → count ≤ cipher.length →
    ssl.xtsDecrypt key tweak (cipher.take count) = some (plain.take count)

/-- On whole blocks, at least one and at most 2^24 bytes, XTS encryption succeeds, keeps the
length and is undone by decryption under the same key and tweak. -/
def XtsInverts (ssl : OpenSsl) : Prop :=
  ∀ key tweak plain, plain ≠ [] → 16 ∣ plain.length → plain.length ≤ 2 ^ 24 →
    ∃ cipher, ssl.xtsEncrypt key tweak plain = some cipher ∧ cipher.length = plain.length ∧
      ssl.xtsDecrypt key tweak cipher = some plain

/-- CBC encryption, when both its calls succeed, pads to the next whole block, and decryption under
the same key and iv gives back what was encrypted. -/
def CbcInverts (ssl : OpenSsl) : Prop :=
  ∀ key iv plain first last, ssl.cbcEncryptUpdate key iv plain = some first →
    ssl.cbcEncryptFinal key iv plain = some last →
    (first ++ last).length = (plain.length / 16 + 1) * 16 ∧
      ∃ front back, ssl.cbcDecryptUpdate key iv (first ++ last) = some front ∧
        ssl.cbcDecryptFinal key iv (first ++ last) = some back ∧ front ++ back = plain

/-- Both calls of CBC encryption succeed. -/
def CbcSucceeds (ssl : OpenSsl) : Prop :=
  ∀ key iv plain, ∃ first last,
    ssl.cbcEncryptUpdate key iv plain = some first ∧ ssl.cbcEncryptFinal key iv plain = some last

/-- The key derivation gives a key for every password and salt. -/
def KdfSucceeds (ssl : OpenSsl) : Prop :=
  ∀ password salt, ∃ key, ssl.pbkdf2 password salt = some key

/-- CBC decryption takes padding away: what it gives is never longer than what it was given. -/
def CbcShrinks (ssl : OpenSsl) : Prop :=
  ∀ key iv cipher first, ssl.cbcDecryptUpdate key iv cipher = some first →
    first.length ≤ cipher.length ∧
      ∀ last, ssl.cbcDecryptFinal key iv cipher = some last →
        first.length + last.length ≤ cipher.length

/-- The laws together. -/
structure Lawful (ssl : OpenSsl) : Prop where
  kdf : ssl.KdfSucceeds
  cbc : ssl.CbcInverts
  encrypts : ssl.CbcSucceeds
  inverts : ssl.XtsInverts
  blockwise : ssl.XtsBlockwise

end OpenSsl

/-! ### The sealed store key

Both functions write what OpenSSL gives them into a buffer of fixed size. The outer `none` is a
write past that buffer, the inner one the result -1. -/

def deriveHeaderKey (ssl : OpenSsl) (password : CString) (salt : Bytes padlockSaltSize) :
    Option (Bytes 32) :=
  if password.bytes = [] then none else ssl.pbkdf2 password.bytes salt

def encryptSecret (ssl : OpenSsl) (password : CString) (header : Header)
    (xtsKey : Bytes padlockXtsKeySize) : Option (Option Header) := do
  let secret := padlockSecretMagic ++ xtsKey.toList
  let some key := deriveHeaderKey ssl password header.salt | return none
  let some first := ssl.cbcEncryptUpdate key header.iv secret | return none
  let encryptedSecret ← header.encryptedSecret.store 0 first
  let some last := ssl.cbcEncryptFinal key header.iv secret | return none
  let encryptedSecret ← encryptedSecret.store first.length last
  return some { header with
    encryptedSecret
    encryptedSecretSize := UInt32.ofNat (first.length + last.length) }

def decryptSecret (ssl : OpenSsl) (password : CString) (header : Header) :
    Option (Option (Bytes padlockXtsKeySize)) := do
  if header.encryptedSecretSize > 128 then
    return none
  let some key := deriveHeaderKey ssl password header.salt | return none
  let encrypted := header.encryptedSecret.toList.take header.encryptedSecretSize.toNat
  let some first := ssl.cbcDecryptUpdate key header.iv encrypted | return none
  let secret ← (Bytes.cleared (padlockSecretSize + 16)).store 0 first
  let some last := ssl.cbcDecryptFinal key header.iv encrypted | return none
  let secret ← secret.store first.length last
  if first.length + last.length < padlockSecretSize then
    return none
  if Span.read 0 padlockSecretMagic.length secret.toList ≠ padlockSecretMagic then
    return none
  return some (subarray secret 8 padlockXtsKeySize (by decide))

/-! ### Record ranges -/

/-- The tweak of a range: its block number, lowest byte first. -/
def xtsTweak (fileOffset : UInt64) : Bytes 16 :=
  ⟨putU64 (fileOffset / 16) ++ zeros 8, rfl⟩

/-- Encrypt or decrypt a range. The length goes to OpenSSL as an `int`, which is negative from
2^31 on and then refused; a result of another length is a failure. -/
def cryptXts (ssl : OpenSsl) (encrypt : Bool) (xtsKey : Bytes padlockXtsKeySize)
    (fileOffset : UInt64) {length : Nat} (input : Bytes length) : Option (Bytes length) :=
  if length < 2 ^ 31 then
    match (if encrypt then ssl.xtsEncrypt else ssl.xtsDecrypt) xtsKey (xtsTweak fileOffset)
      input.toList with
    | some output => if full : output.length = length then some ⟨output, full⟩ else none
    | none => none
  else none

/-- The block meant for the output of a decryption that has failed, with what was put there before
it failed. OpenSSL puts nothing there when it refuses the length. -/
def failedOutput (ssl : OpenSsl) (xtsKey : Bytes padlockXtsKeySize) (fileOffset : UInt64)
    {length : Nat} (input : Bytes length) : Block :=
  if length < 2 ^ 31 then
    .plaintext ((ssl.xtsDecrypt xtsKey (xtsTweak fileOffset) input.toList).getD
      (ssl.xtsDecryptLeaves xtsKey (xtsTweak fileOffset) input.toList))
  else .other length

end Padlock
