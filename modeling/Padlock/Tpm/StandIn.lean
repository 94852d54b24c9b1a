/-
This file shows that the promises about the TPM can be met together: a stand-in
with the outward shape of the real one. Its objects are written with their
length in front, as the marshalled objects of a TPM are; a sealed pair carries
the same serial number in both parts, and a pair of parts that were not made
together does not unseal.
-/

import Padlock.Tpm.SealedKey

namespace Padlock

/-- The private part of a stand-in object: the serial number and the secret. -/
structure StandInPrivate where
  serial : UInt8
  secret : Bytes padlockTpmKeySize

/-- A public part is written as its length and the serial number. -/
def standInPublicArea : Marshaller UInt8 where
  size := 612
  marshal serial := some [0, 1, serial]
  unmarshal
    | 0 :: 1 :: serial :: _ => some (serial, 3)
    | _ => none

/-- A private part is written as its length, the serial number and the secret. -/
def standInPrivateArea : Marshaller StandInPrivate where
  size := 1550
  marshal blob := some (0 :: 33 :: blob.serial :: blob.secret.toList)
  unmarshal
    | 0 :: 33 :: serial :: rest =>
      if long : padlockTpmKeySize ≤ rest.length then
        some (⟨serial, ⟨rest.take padlockTpmKeySize, List.length_take_of_le long⟩⟩, 35)
      else none
    | _ => none

/-- Only the two parts of one object unseal. -/
def standInTpm : Tpm UInt8 StandInPrivate where
  publicArea := standInPublicArea
  privateArea := standInPrivateArea
  unsealPair serial blob := if serial = blob.serial then some blob.secret.toList else none

theorem standInPublicArea_used {file : List UInt8} {serial : UInt8} {used : Nat}
    (reads : standInPublicArea.unmarshal file = some (serial, used)) : used = 3 := by
  simp only [standInPublicArea] at reads
  split at reads
  · exact (Prod.mk.inj (Option.some.inj reads)).2.symm
  · cases reads

theorem standInPrivateArea_used {file : List UInt8} {blob : StandInPrivate} {used : Nat}
    (reads : standInPrivateArea.unmarshal file = some (blob, used)) : used = 35 := by
  simp only [standInPrivateArea] at reads
  split at reads
  · split at reads
    · exact (Prod.mk.inj (Option.some.inj reads)).2.symm
    · cases reads
  · cases reads

theorem standInPublicArea_lawful : standInPublicArea.Lawful where
  holds serial bytes written := by
    obtain rfl := Option.some.inj written
    exact ⟨by simp, by simp [standInPublicArea], rfl⟩
  refuses serial bytes count other written short := by
    obtain rfl := Option.some.inj written
    rintro ⟨-, -, reads⟩
    have used := standInPublicArea_used reads
    rw [List.length_take, Nat.min_eq_left short.le] at used
    exact short.ne used

theorem standInPrivateArea_lawful : standInPrivateArea.Lawful where
  holds blob bytes written := by
    obtain rfl := Option.some.inj written
    have length : (0 :: 33 :: blob.serial :: blob.secret.toList).length = 35 := by
      simp only [List.length_cons, blob.secret.lengthEq, padlockTpmKeySize]
    refine ⟨by simp, by rw [length]; simp [standInPrivateArea], ?_⟩
    have long : padlockTpmKeySize ≤ blob.secret.toList.length := blob.secret.lengthEq.ge
    have whole : blob.secret.toList.take padlockTpmKeySize = blob.secret.toList :=
      List.take_of_length_le blob.secret.lengthEq.le
    simp only [standInPrivateArea, dif_pos long, whole, length]
  refuses blob bytes count other written short := by
    obtain rfl := Option.some.inj written
    rintro ⟨-, -, reads⟩
    have used := standInPrivateArea_used reads
    rw [List.length_take, Nat.min_eq_left short.le] at used
    simp only [List.length_cons, blob.secret.lengthEq, padlockTpmKeySize] at short
    omega

end Padlock
