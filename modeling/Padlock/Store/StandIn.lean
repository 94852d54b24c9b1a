/-
This file shows that the laws on OpenSSL can be met together: a stand-in with
the outward shape of the real functions obeys them. Its ciphers mask every byte
with one of the key and one of the iv or tweak. Like AES-256-CBC it pads to whole
blocks, holds the last block back until the final call and refuses a wrong
padding; like AES-256-XTS it refuses less than one block and more than 2^24
bytes.
-/

import Padlock.Store.Secret

namespace Padlock

/-- The byte that masks a place of a message. -/
def maskByte (key tweak : List UInt8) (index : Nat) : UInt8 :=
  key.getD (index % key.length) 0 ^^^ tweak.getD (index % tweak.length) 0 ^^^
    UInt8.ofNat (index / 16)

def mask (key tweak bytes : List UInt8) : List UInt8 :=
  bytes.mapIdx fun index byte => byte ^^^ maskByte key tweak index

@[simp] theorem length_mask (key tweak bytes : List UInt8) :
    (mask key tweak bytes).length = bytes.length :=
  List.length_mapIdx

@[simp] theorem mask_mask (key tweak bytes : List UInt8) :
    mask key tweak (mask key tweak bytes) = bytes := by
  rw [mask, mask, List.mapIdx_mapIdx, List.mapIdx_eq_iff]
  intro index
  cases bytes[index]? with
  | none => rfl
  | some byte =>
    rw [Option.map_some, Function.comp_apply, UInt8.xor_assoc, UInt8.xor_self, UInt8.xor_zero]

theorem mask_take (key tweak bytes : List UInt8) (count : Nat) :
    mask key tweak (bytes.take count) = (mask key tweak bytes).take count := by
  rw [mask, mask, List.mapIdx_eq_iff]
  intro index
  rw [List.getElem?_take, List.getElem?_take, List.getElem?_mapIdx]
  split <;> rfl

/-- Encrypt or decrypt a range. -/
def maskRange (key tweak bytes : List UInt8) : Option (List UInt8) :=
  if bytes.length < 16 ∨ 2 ^ 24 < bytes.length then none else some (mask key tweak bytes)

/-- The bytes from the end of a message to the next whole block, each the number of them. -/
def padding (length : Nat) : List UInt8 :=
  List.replicate (16 - length % 16) (UInt8.ofNat (16 - length % 16))

/-- The last block of a message without its padding. -/
def unpad (block : List UInt8) : Option (List UInt8) :=
  let count := (block.getLastD 0).toNat
  if 1 ≤ count ∧ count ≤ 16 ∧ block.length = 16 ∧
      block.drop (16 - count) = List.replicate count (UInt8.ofNat count) then
    some (block.take (16 - count))
  else none

/-- The whole blocks of a message, the last one aside. -/
def heldBack (length : Nat) : Nat := (length - 1) / 16 * 16

def standIn : OpenSsl where
  pbkdf2 password salt := some
    ⟨(salt.toList ++ (password ++ zeros 32)).take 32, by simp [zeros]; omega⟩
  cbcEncryptUpdate key iv plain := some
    ((mask key.toList iv.toList plain).take (plain.length / 16 * 16))
  cbcEncryptFinal key iv plain := some
    ((mask key.toList iv.toList (plain ++ padding plain.length)).drop (plain.length / 16 * 16))
  cbcDecryptUpdate key iv cipher := some
    ((mask key.toList iv.toList cipher).take (heldBack cipher.length))
  cbcDecryptFinal key iv cipher :=
    unpad ((mask key.toList iv.toList cipher).drop (heldBack cipher.length))
  xtsEncrypt key tweak plain := maskRange key.toList tweak.toList plain
  xtsDecrypt key tweak cipher := maskRange key.toList tweak.toList cipher
  xtsDecryptLeaves _ _ _ := []

theorem standIn_xtsBlockwise : standIn.XtsBlockwise := by
  intro key tweak cipher plain count decrypted _ blocks positive within
  have enough : 16 ≤ count := Nat.le_of_dvd positive blocks
  simp only [standIn, maskRange] at decrypted ⊢
  split at decrypted
  · cases decrypted
  · obtain rfl := Option.some.inj decrypted
    rw [if_neg (by rw [List.length_take]; omega), mask_take]

theorem standIn_xtsInverts : standIn.XtsInverts := by
  intro key tweak plain nonempty blocks small
  have enough : 16 ≤ plain.length := Nat.le_of_dvd (List.length_pos_iff.mpr nonempty) blocks
  refine ⟨mask key.toList tweak.toList plain, ?_, length_mask .., ?_⟩
  · simp only [standIn, maskRange]
    rw [if_neg (by omega)]
  · simp only [standIn, maskRange]
    rw [if_neg (by rw [length_mask]; omega), mask_mask]

theorem unpad_append {rest : List UInt8} {length : Nat} (restLength : rest.length = length % 16) :
    unpad (rest ++ padding length) = some rest := by
  have bound : length % 16 < 16 := Nat.mod_lt _ (by decide)
  have size : (padding length).length = 16 - length % 16 := List.length_replicate
  have last : ((rest ++ padding length).getLastD 0).toNat = 16 - length % 16 := by
    obtain ⟨count, countEq⟩ : ∃ count, 16 - length % 16 = count + 1 := ⟨15 - length % 16, by omega⟩
    rw [padding, countEq, List.replicate_succ', ← List.append_assoc, List.getLastD_concat,
      UInt8.toNat_ofNat', Nat.mod_eq_of_lt (by omega)]
  have padded : (rest ++ padding length).drop (16 - (16 - length % 16)) = padding length :=
    List.drop_left' (by omega)
  unfold unpad
  simp only [last]
  rw [if_pos ⟨by omega, by omega, by rw [List.length_append, size]; omega, padded⟩,
    List.take_left' (by omega)]

/-- A message with its padding, and the blocks of it that an update gives. -/
theorem heldBack_padded (plain : List UInt8) :
    (plain ++ padding plain.length).length = (plain.length / 16 + 1) * 16 ∧
      heldBack (plain ++ padding plain.length).length = plain.length / 16 * 16 := by
  have length : (plain ++ padding plain.length).length = (plain.length / 16 + 1) * 16 := by
    rw [List.length_append, padding, List.length_replicate]
    omega
  refine ⟨length, ?_⟩
  rw [length, heldBack]
  omega

theorem standIn_cbcInverts : standIn.CbcInverts := by
  intro key iv plain first last update final
  obtain rfl := Option.some.inj update
  obtain rfl := Option.some.inj final
  obtain ⟨length, held⟩ := heldBack_padded plain
  have whole : plain.length / 16 * 16 ≤ plain.length := Nat.div_mul_le_self ..
  -- both calls together give the masked message with its padding
  have joined : (mask key.toList iv.toList plain).take (plain.length / 16 * 16) ++
      (mask key.toList iv.toList (plain ++ padding plain.length)).drop (plain.length / 16 * 16) =
        mask key.toList iv.toList (plain ++ padding plain.length) := by
    have front : (plain ++ padding plain.length).take (plain.length / 16 * 16) =
        plain.take (plain.length / 16 * 16) := List.take_append_of_le_length whole
    rw [← mask_take, ← front, mask_take, List.take_append_drop]
  refine ⟨?_, plain.take (plain.length / 16 * 16), plain.drop (plain.length / 16 * 16), ?_, ?_,
    List.take_append_drop ..⟩
  · rw [joined, length_mask, length]
  · rw [joined]
    simp only [standIn, mask_mask, length_mask, held]
    rw [List.take_append_of_le_length whole]
  · rw [joined]
    simp only [standIn, mask_mask, length_mask, held]
    rw [List.drop_append_of_le_length whole]
    exact unpad_append (by rw [List.length_drop]; omega)

theorem length_unpad {block rest : List UInt8} (unpadded : unpad block = some rest) :
    rest.length ≤ block.length := by
  unfold unpad at unpadded
  simp only at unpadded
  split at unpadded
  · obtain rfl := Option.some.inj unpadded
    exact List.length_take_le' ..
  · cases unpadded

theorem standIn_cbcShrinks : standIn.CbcShrinks := by
  intro key iv cipher first updated
  obtain rfl := Option.some.inj updated
  have within : ((mask key.toList iv.toList cipher).take (heldBack cipher.length)).length ≤
      cipher.length := by
    rw [List.length_take, length_mask]
    exact Nat.min_le_right ..
  refine ⟨within, fun last finished => ?_⟩
  have shorter := length_unpad finished
  rw [List.length_drop, length_mask] at shorter
  rw [List.length_take, length_mask]
  omega

theorem standIn_lawful : standIn.Lawful where
  kdf _ _ := ⟨_, rfl⟩
  cbc := standIn_cbcInverts
  encrypts _ _ _ := ⟨_, _, rfl, rfl⟩
  inverts := standIn_xtsInverts
  blockwise := standIn_xtsBlockwise

/-! A path, a password and two keys to try the store with. -/

def samplePath : CString := ⟨[115], by decide⟩
def samplePassword : CString := ⟨[112], by decide⟩
def sampleKey (caller : Bool) : CString := bif caller then ⟨[97], by decide⟩ else ⟨[98], by decide⟩
def sampleValue (caller : Bool) : Value :=
  bif caller then ⟨[1, 2, 3], by decide⟩ else ⟨[4], by decide⟩

end Padlock
