/-
This file asks when the store code stays inside its buffers: the record that
`padlock_set` builds, and the secret that `decrypt_secret` has OpenSSL write.
Both buffers have room for what the writer of a store produces. A record of more
than 2^32 bytes is rounded to its length modulo 2^32, and a hostile header may
hold a longer secret than the writer's.
-/

import Mathlib.Order.Bounds.Basic
import Padlock.Store.Allocated

namespace Padlock

open Interaction

/-! ### The record of a set -/

/-- `padlock_set` passes its capacity check. -/
def HasRoom (header : Header) (key : CString) (value : Value) : Prop :=
  ¬ (align16 (plainLength key value) < 16 ∨
    header.writeOffset + align16 (plainLength key value) > header.totalSize)

/-- The surroundings of a call answer its read of the header with this header. -/
def Presents {State : Type} (surroundings : Surroundings Request Response State)
    (header : Header) : Prop :=
  ∀ state response next, surroundings (.seekRead 0 padlockHeaderSize) state response next →
    headerIn response = some header

/-- A set does not build a record that does not fit its buffer: past the capacity check the size
of the buffer is the padded length of the record and nothing is stored behind it, and a record
that does not fit before the end of the store is refused, on a file and in any other surroundings,
where allocations, reads and writes may fail. -/
structure SetInBounds (ssl : OpenSsl) (header : Header) (key : CString) (value : Value) :
    Prop where
  least : HasRoom header key value →
    IsLeast {multiple | 16 ∣ multiple ∧ recordLength key.bytes value.bytes ≤ multiple}
      (align16 (plainLength key value)).toNat
  inside : HasRoom header key value →
    buildRecord key value (align16 (plainLength key value)).toNat ≠ none
  refused : header.totalSize.toNat - header.writeOffset.toNat <
      padded (recordLength key.bytes value.bytes) →
    ∀ path password file secret,
      (file.readAt 0 padlockHeaderSize).bind headerOfBuffer = some header →
      decryptSecret ssl password header = some secret →
      runOn (callSet ssl path password key value) file = some (-1, file)
  refusedAlways : header.totalSize.toNat - header.writeOffset.toNat <
      padded (recordLength key.bytes value.bytes) →
    ∀ (State : Type) (surroundings : Surroundings Request Response State),
      Presents surroundings header →
      ∀ path password state result final,
        Program.Exec surroundings (callSet ssl path password key value) state result final →
        result = -1

theorem padded_isLeast (length : Nat) :
    IsLeast {multiple | 16 ∣ multiple ∧ length ≤ multiple} (padded length) := by
  refine ⟨⟨dvd_padded length, le_padded length⟩, ?_⟩
  rintro multiple ⟨⟨blocks, rfl⟩, enough⟩
  unfold padded
  omega

section Set

variable {ssl : OpenSsl} {header : Header} {path password key : CString} {value : Value}

/-- Beyond 2^32 bytes the rounding gives the padded length less 2^32. -/
theorem align16_of_long (short : key.bytes.length ≤ 255)
    (long : 2 ^ 32 < recordLength key.bytes value.bytes) :
    (align16 (plainLength key value)).toNat + 2 ^ 32 =
      padded (recordLength key.bytes value.bytes) := by
  have := value.lengthLt
  rw [align16_toNat, plainLength_toNat key value short, padded]
  unfold recordLength at long ⊢
  omega

/-- The capacity check of such a record asks whether what is left of its length fits. -/
theorem not_hasRoom_iff_of_long (short : key.bytes.length ≤ 255)
    (long : 2 ^ 32 < recordLength key.bytes value.bytes) :
    ¬ HasRoom header key value ↔ header.totalSize.toNat <
      (header.writeOffset.toNat + (padded (recordLength key.bytes value.bytes) - 2 ^ 32)) %
        2 ^ 64 := by
  have wrapped := align16_of_long short long
  have enough := le_padded (recordLength key.bytes value.bytes)
  have whole := dvd_padded (recordLength key.bytes value.bytes)
  rw [HasRoom, not_not, lt_sixteen_iff, gt_iff_lt, UInt64.lt_iff_toNat_lt, UInt64.toNat_add,
    show padded (recordLength key.bytes value.bytes) - 2 ^ 32 =
      (align16 (plainLength key value)).toNat by omega]
  refine or_iff_right ?_
  omega

/-- Up to 2^32 bytes the capacity check lets only exact roundings pass. -/
theorem align16_of_hasRoom (short : key.bytes.length ≤ 255)
    (limited : recordLength key.bytes value.bytes ≤ 2 ^ 32) (room : HasRoom header key value) :
    (align16 (plainLength key value)).toNat = padded (recordLength key.bytes value.bytes) := by
  have enough := (not_or.mp room).1
  rw [lt_sixteen_iff, align16_toNat, plainLength_toNat key value short] at enough
  rw [align16_toNat, plainLength_toNat key value short, padded]
  omega

/-- A record that does not fit passes the check only when the sum wraps, and then its offset is
one that a seek refuses. -/
theorem offset_of_wrapped
    (length : (align16 (plainLength key value)).toNat =
      padded (recordLength key.bytes value.bytes))
    (large : header.totalSize.toNat - header.writeOffset.toNat <
      padded (recordLength key.bytes value.bytes))
    (room : HasRoom header key value) : ¬ header.writeOffset.toNat < 2 ^ 63 := by
  have fits := (not_or.mp room).2
  have bound := align16_lt (plainLength key value)
  have offsetLt := header.writeOffset.toNat_lt
  rw [gt_iff_lt, UInt64.lt_iff_toNat_lt, UInt64.toNat_add] at fits
  omega

theorem headerIn_of_readAt {file : File}
    (presented : (file.readAt 0 padlockHeaderSize).bind headerOfBuffer = some header) :
    headerIn (Span.read 0 padlockHeaderSize file.bytes) = some header := by
  rw [Padlock.headerIn_read, presented]

/-- A set that decides to write has passed the check, and writes at the write offset. -/
theorem hasRoom_of_appendFor {append : Append}
    (decision : appendFor ssl password key value header = some (some append)) :
    HasRoom header key value ∧ append.offset = header.writeOffset := by
  unfold appendFor at decision
  obtain ⟨secret, -, decision⟩ := Option.bind_eq_some_iff.mp decision
  cases secret with
  | none => cases decision
  | some xtsKey =>
    dsimp only at decision
    split at decision
    · cases decision
    rename_i room
    obtain ⟨plain, -, decision⟩ := Option.bind_eq_some_iff.mp decision
    split at decision
    · obtain rfl := Option.some.inj (Option.some.inj decision)
      exact ⟨room, rfl⟩
    · cases decision

/-- What follows the read of the header, when the record does not fit. -/
theorem performFor_of_large {secret : Option (Bytes padlockXtsKeySize)}
    (short : key.bytes.length ≤ 255)
    (limited : recordLength key.bytes value.bytes ≤ 2 ^ 32 ∨ ¬ HasRoom header key value)
    (large : header.totalSize.toNat - header.writeOffset.toNat <
      padded (recordLength key.bytes value.bytes))
    (unsealed : decryptSecret ssl password header = some secret) :
    performFor ssl password key value (some header) = .done (-1) := by
  simp only [performFor, appendFor, unsealed, Option.bind_eq_bind, Option.bind_some]
  cases secret with
  | none => rfl
  | some xtsKey =>
    dsimp only
    by_cases room : HasRoom header key value
    · have length := align16_of_hasRoom short (limited.resolve_right (not_not.mpr room)) room
      obtain ⟨plain, built, -⟩ := buildRecord_eq key value
        (by rw [length]; exact le_padded _ :
          recordLength key.bytes value.bytes ≤ (align16 (plainLength key value)).toNat)
      rw [if_neg room, built, Option.bind_some]
      cases cryptXts ssl true xtsKey header.writeOffset plain with
      | none => rfl
      | some cipher =>
        simp only [Option.pure_def, Program.bounded_some, Program.done_bind]
        exact if_neg (offset_of_wrapped length large room)
    · rw [if_pos (not_not.mp room)]
      rfl

theorem runOn_set_of_large {file : File} {secret : Option (Bytes padlockXtsKeySize)}
    (nonempty : key.bytes.length ≠ 0) (short : key.bytes.length ≤ 255)
    (limited : recordLength key.bytes value.bytes ≤ 2 ^ 32 ∨ ¬ HasRoom header key value)
    (large : header.totalSize.toNat - header.writeOffset.toNat <
      padded (recordLength key.bytes value.bytes))
    (presented : (file.readAt 0 padlockHeaderSize).bind headerOfBuffer = some header)
    (unsealed : decryptSecret ssl password header = some secret) :
    runOn (callSet ssl path password key value) file = some (-1, file) := by
  rw [runOn, onFile_padlockSet, if_neg (by omega), Program.run_ask, serveFile]
  dsimp only
  rw [headerIn_of_readAt presented, performFor_of_large short limited large unsealed,
    Program.run_done]

/-! In other surroundings the call is followed from the header it is given: whatever the
allocations, the encryption and the writes answer, it ends with -1. -/

theorem exec_set_of_large {State : Type} {surroundings : Surroundings Request Response State}
    (short : key.bytes.length ≤ 255)
    (limited : recordLength key.bytes value.bytes ≤ 2 ^ 32 ∨ ¬ HasRoom header key value)
    (large : header.totalSize.toNat - header.writeOffset.toNat <
      padded (recordLength key.bytes value.bytes))
    (presents : Presents surroundings header) {state final : State} {finish : SetEnd}
    (execution : Program.Exec surroundings (setStore ssl password key value) state finish final) :
    finish.ok = -1 := by
  obtain failed | ⟨-, read, append, decision, _, _, _, _, reading, -, -, writing, -⟩ :=
    exec_setStore execution
  · exact failed
  · obtain ⟨bytes, answered, readEq⟩ := exec_readHeader.mp reading
    obtain rfl := Option.some.inj (readEq.trans (presents _ _ _ answered))
    obtain ⟨room, offset⟩ := hasRoom_of_appendFor decision
    have length := align16_of_hasRoom short (limited.resolve_right (not_not.mpr room)) room
    have high := offset_of_wrapped length large room
    rw [← offset] at high
    exact absurd (exec_seekWrite.mp writing).1 high

/-- A record beyond 2^32 bytes that passes the check does not fit its buffer. -/
theorem not_inBounds_of_long (short : key.bytes.length ≤ 255)
    (long : 2 ^ 32 < recordLength key.bytes value.bytes) (room : HasRoom header key value) :
    ¬ SetInBounds ssl header key value := by
  intro bounds
  obtain ⟨⟨-, enough⟩, -⟩ := bounds.least room
  have wrapped := align16_of_long short long
  have := padded_lt (recordLength key.bytes value.bytes)
  omega

end Set

/-- A set stays in its buffer and refuses what does not fit exactly when the record has at most
2^32 bytes or the store has no room for what is left of its length modulo 2^32: a longer record is
taken for one of that length, and is built in a buffer of that size when there is room for it. -/
theorem set_in_bounds_iff (ssl : OpenSsl) (header : Header) {key : CString} (value : Value)
    (nonempty : 1 ≤ key.bytes.length) (short : key.bytes.length ≤ 255) :
    SetInBounds ssl header key value ↔
      recordLength key.bytes value.bytes ≤ 2 ^ 32 ∨ header.totalSize.toNat <
        (header.writeOffset.toNat + (padded (recordLength key.bytes value.bytes) - 2 ^ 32)) %
          2 ^ 64 := by
  constructor
  · intro bounds
    by_contra long
    obtain ⟨long, room⟩ := not_or.mp long
    rw [← not_hasRoom_iff_of_long short (Nat.not_le.mp long), not_not] at room
    exact not_inBounds_of_long short (Nat.not_le.mp long) room bounds
  · intro condition
    have limited : recordLength key.bytes value.bytes ≤ 2 ^ 32 ∨ ¬ HasRoom header key value := by
      by_cases long : 2 ^ 32 < recordLength key.bytes value.bytes
      · exact .inr ((not_hasRoom_iff_of_long short long).mpr
          (condition.resolve_left (Nat.not_le.mpr long)))
      · exact .inl (Nat.not_lt.mp long)
    have exact (room : HasRoom header key value) :
        (align16 (plainLength key value)).toNat = padded (recordLength key.bytes value.bytes) :=
      align16_of_hasRoom short (limited.resolve_right (not_not.mpr room)) room
    refine ⟨fun room => ?_, fun room => ?_, fun large path password file secret => ?_,
      fun large State surroundings presents path password state result final execution => ?_⟩
    · rw [exact room]
      exact padded_isLeast _
    · obtain ⟨plain, built, -⟩ := buildRecord_eq key value
        (by rw [exact room]; exact le_padded _ :
          recordLength key.bytes value.bytes ≤ (align16 (plainLength key value)).toNat)
      rw [built]
      exact nofun
    · exact runOn_set_of_large (by omega) short limited large
    · obtain ⟨-, refused⟩ | ⟨finish, opened, stored, -, storing, -, returned⟩ :=
        (exec_padlockSet (by omega) short).mp execution
      · exact refused
      · rw [returned]
        exact exec_set_of_large short limited large presents storing

/-- The header of an empty store of 8192 bytes. -/
def sampleHeader : Header where
  totalSize := 8192
  writeOffset := 4096
  salt := Bytes.cleared padlockSaltSize
  iv := Bytes.cleared padlockIvSize
  encryptedSecret := Bytes.cleared 128
  encryptedSecretSize := 80

theorem set_in_bounds_sample :
    SetInBounds standIn sampleHeader (sampleKey true) (sampleValue true) :=
  (set_in_bounds_iff standIn sampleHeader (sampleValue true) (by decide) (by decide)).mpr
    (.inl (by decide))

/-- With a key of one byte a value of 2^32 - 1 bytes makes a record of 2^32 + 5 bytes, for which
`padlock_set` takes a buffer of 16. -/
theorem not_inBounds_of_longest {value : Value} (valueLength : value.bytes.length = 2 ^ 32 - 1) :
    HasRoom sampleHeader (sampleKey true) value ∧
      ¬ SetInBounds standIn sampleHeader (sampleKey true) value := by
  have short : (sampleKey true).bytes.length ≤ 255 := by decide
  have length : recordLength (sampleKey true).bytes value.bytes = 2 ^ 32 + 5 := by
    have keyLength : (sampleKey true).bytes.length = 1 := rfl
    unfold recordLength
    omega
  have long : 2 ^ 32 < recordLength (sampleKey true).bytes value.bytes := by
    omega
  have wrapped := align16_of_long short long
  rw [length, padded] at wrapped
  have size : align16 (plainLength (sampleKey true) value) = 16 := by
    apply UInt64.toNat_inj.mp
    change _ = 16
    omega
  have room : HasRoom sampleHeader (sampleKey true) value := by
    rw [HasRoom, size]
    decide
  exact ⟨room, not_inBounds_of_long short long room⟩

/-- The longest value there can be. -/
def hugeValue : Value := ⟨zeros (2 ^ 32 - 1), by rw [length_zeros]; decide⟩

theorem huge_value_overruns :
    sampleHeader.accepted = true ∧ HasRoom sampleHeader (sampleKey true) hugeValue ∧
      ¬ SetInBounds standIn sampleHeader (sampleKey true) hugeValue :=
  ⟨by decide, not_inBounds_of_longest (length_zeros _)⟩

/-! ### The secret of a header

`decrypt_secret` hands OpenSSL a buffer of 88 bytes and as much of the header's 128 bytes as the
header says. What OpenSSL writes there is counted whether or not there is room for it. -/

/-- CBC decryption with padding holds the last block back in the update; the final call gives less
than a block, and only for a message of whole blocks. -/
def OpenSsl.CbcUnpads (ssl : OpenSsl) : Prop :=
  ∀ key iv cipher,
    (∀ first, ssl.cbcDecryptUpdate key iv cipher = some first →
      first.length = heldBack cipher.length) ∧
    ∀ last, ssl.cbcDecryptFinal key iv cipher = some last →
      16 ∣ cipher.length ∧ last.length < 16

/-- What `decrypt_secret` has been told to be written into its buffer when it is done with it:
`out_len` of the update and `final_len`, as far as it comes. -/
def unsealedBytes (ssl : OpenSsl) (password : CString) (header : Header) : Nat :=
  if header.encryptedSecretSize > 128 then 0
  else
    match deriveHeaderKey ssl password header.salt with
    | none => 0
    | some key =>
      let encrypted := header.encryptedSecret.toList.take header.encryptedSecretSize.toNat
      match ssl.cbcDecryptUpdate key header.iv encrypted with
      | none => 0
      | some first =>
        first.length + (ssl.cbcDecryptFinal key header.iv encrypted).elim 0 List.length

section Secret

variable {ssl : OpenSsl} {password : CString} {header : Header}

/-- The model of `decrypt_secret` goes wrong exactly when more is written than fits. -/
theorem decryptSecret_eq_none :
    decryptSecret ssl password header = none ↔ 88 < unsealedBytes ssl password header := by
  unfold decryptSecret unsealedBytes
  split
  · exact iff_of_false (Option.some_ne_none _) (Nat.not_lt_zero _)
  cases deriveHeaderKey ssl password header.salt with
  | none => exact iff_of_false (Option.some_ne_none _) (Nat.not_lt_zero _)
  | some key =>
    dsimp only
    generalize header.encryptedSecret.toList.take header.encryptedSecretSize.toNat = encrypted
    cases ssl.cbcDecryptUpdate key header.iv encrypted with
    | none => exact iff_of_false (Option.some_ne_none _) (Nat.not_lt_zero _)
    | some first =>
      dsimp only
      have size : padlockSecretSize + 16 = 88 := rfl
      cases stored : (Bytes.cleared (padlockSecretSize + 16)).store 0 first with
      | none =>
        have beyond := Bytes.store_eq_none.mp stored
        exact iff_of_true rfl (by omega)
      | some secret =>
        have within := Bytes.store_inside stored
        cases ssl.cbcDecryptFinal key header.iv encrypted with
        | none => exact iff_of_false (Option.some_ne_none _) (by rw [Option.elim_none]; omega)
        | some last =>
          simp only [Option.bind_eq_bind, Option.bind_some, Option.elim_some]
          cases finished : secret.store first.length last with
          | none => exact iff_of_true rfl (size ▸ Bytes.store_eq_none.mp finished)
          | some whole =>
            have inside := Bytes.store_inside finished
            refine iff_of_false ?_ (Nat.not_lt.mpr (size ▸ inside))
            rw [Option.bind_some]
            split
            · exact Option.some_ne_none _
            · split <;> exact Option.some_ne_none _

theorem length_encrypted (accepted : header.accepted = true) :
    (header.encryptedSecret.toList.take header.encryptedSecretSize.toNat).length =
      header.encryptedSecretSize.toNat := by
  have limit := (header.accepted_iff.mp accepted).2.2.2
  rw [List.length_take, length_encryptedSecret, Nat.min_eq_left limit]

theorem unsealedBytes_eq {key : Bytes 32} {first : List UInt8} (accepted : header.accepted = true)
    (derived : deriveHeaderKey ssl password header.salt = some key)
    (updated : ssl.cbcDecryptUpdate key header.iv
      (header.encryptedSecret.toList.take header.encryptedSecretSize.toNat) = some first) :
    unsealedBytes ssl password header =
      first.length + (ssl.cbcDecryptFinal key header.iv
        (header.encryptedSecret.toList.take header.encryptedSecretSize.toNat)).elim 0
          List.length := by
  have limit : ¬ header.encryptedSecretSize > 128 :=
    Nat.not_lt.mpr (header.accepted_iff.mp accepted).2.2.2
  simp only [unsealedBytes, if_neg limit, derived, updated]

/-- Less than six blocks are unsealed inside the buffer. -/
theorem unsealedBytes_le (unpads : ssl.CbcUnpads) (accepted : header.accepted = true)
    (small : header.encryptedSecretSize.toNat < 96) :
    unsealedBytes ssl password header ≤ 88 := by
  cases derived : deriveHeaderKey ssl password header.salt with
  | none =>
    simp only [unsealedBytes, derived, ite_self]
    exact Nat.zero_le _
  | some key =>
    obtain ⟨update, final⟩ := unpads key header.iv
      (header.encryptedSecret.toList.take header.encryptedSecretSize.toNat)
    rw [length_encrypted accepted, heldBack] at update
    rw [length_encrypted accepted] at final
    cases updated : ssl.cbcDecryptUpdate key header.iv
        (header.encryptedSecret.toList.take header.encryptedSecretSize.toNat) with
    | none =>
      simp only [unsealedBytes, derived, updated, ite_self]
      exact Nat.zero_le _
    | some first =>
      have written := update first updated
      rw [unsealedBytes_eq accepted derived updated]
      cases finished : ssl.cbcDecryptFinal key header.iv
          (header.encryptedSecret.toList.take header.encryptedSecretSize.toNat) with
      | none =>
        rw [Option.elim_none]
        omega
      | some last =>
        have rest := final last finished
        rw [Option.elim_some]
        omega

/-- More than six blocks overrun the buffer in the update, whatever the padding is. -/
theorem unsealedBytes_overrun (unpads : ssl.CbcUnpads) (accepted : header.accepted = true)
    (large : 96 < header.encryptedSecretSize.toNat) {key : Bytes 32} {first : List UInt8}
    (derived : deriveHeaderKey ssl password header.salt = some key)
    (updated : ssl.cbcDecryptUpdate key header.iv
      (header.encryptedSecret.toList.take header.encryptedSecretSize.toNat) = some first) :
    88 < unsealedBytes ssl password header := by
  have written := (unpads key header.iv _).1 first updated
  rw [length_encrypted accepted, heldBack] at written
  rw [unsealedBytes_eq accepted derived updated]
  omega

end Secret

theorem unpad_eq_some {block rest : List UInt8} (unpadded : unpad block = some rest) :
    block.length = 16 ∧ rest.length < 16 := by
  unfold unpad at unpadded
  simp only at unpadded
  split at unpadded
  · rename_i well
    obtain rfl := Option.some.inj unpadded
    refine ⟨well.2.2.1, ?_⟩
    rw [List.length_take]
    omega
  · cases unpadded

theorem standIn_cbcUnpads : standIn.CbcUnpads := by
  intro key iv cipher
  constructor
  · intro first updated
    obtain rfl := Option.some.inj updated
    rw [List.length_take, length_mask, heldBack]
    omega
  · intro last finished
    obtain ⟨whole, short⟩ := unpad_eq_some finished
    rw [List.length_drop, length_mask, heldBack] at whole
    exact ⟨by omega, short⟩

/-- An OpenSSL that finds one byte of padding in every last block. -/
def leastPadding : OpenSsl :=
  { standIn with
    cbcDecryptFinal := fun _ _ cipher => if 16 ∣ cipher.length then some (zeros 15) else none }

theorem leastPadding_cbcUnpads : leastPadding.CbcUnpads := by
  intro key iv cipher
  refine ⟨(standIn_cbcUnpads key iv cipher).1, fun last finished => ?_⟩
  simp only [leastPadding] at finished
  split at finished
  · rename_i whole
    obtain rfl := Option.some.inj finished
    exact ⟨whole, by decide⟩
  · cases finished

theorem leastPadding_overruns {password : CString} {header : Header}
    (accepted : header.accepted = true) (large : 96 ≤ header.encryptedSecretSize.toNat)
    (nonempty : password.bytes ≠ []) : 88 < unsealedBytes leastPadding password header := by
  obtain ⟨key, derived⟩ : ∃ key, deriveHeaderKey leastPadding password header.salt = some key :=
    ⟨_, if_neg nonempty⟩
  obtain ⟨first, updated⟩ : ∃ first, leastPadding.cbcDecryptUpdate key header.iv
      (header.encryptedSecret.toList.take header.encryptedSecretSize.toNat) = some first :=
    ⟨_, rfl⟩
  rcases Nat.lt_or_eq_of_le large with longer | equal
  · exact unsealedBytes_overrun leastPadding_cbcUnpads accepted longer derived updated
  · have written := (leastPadding_cbcUnpads key header.iv _).1 first updated
    rw [length_encrypted accepted, ← equal] at written
    have finished : leastPadding.cbcDecryptFinal key header.iv
        (header.encryptedSecret.toList.take header.encryptedSecretSize.toNat) = some (zeros 15) :=
      if_pos (by rw [length_encrypted accepted, ← equal]; decide)
    rw [unsealedBytes_eq accepted derived updated, written, finished]
    decide

/-- Unsealing the secret of a header that `read_header` accepts stays inside the buffer, whatever
OpenSSL makes of it, exactly when the header says that the secret has less than 96 bytes or no key
is derived because there is no password. From 97 bytes on the update alone overruns the buffer, at
96 a short padding does. -/
theorem unseal_in_bounds_iff {buffer : Bytes padlockHeaderSize} {header : Header}
    (password : CString) (read : headerOfBuffer buffer = some header) :
    (∀ ssl : OpenSsl, ssl.CbcUnpads →
      unsealedBytes ssl password header ≤ 88 ∧ decryptSecret ssl password header ≠ none) ↔
      header.encryptedSecretSize.toNat < 96 ∨ password.bytes = [] := by
  have accepted := (headerOfBuffer_eq_some read).2
  constructor
  · intro inside
    by_contra condition
    obtain ⟨large, nonempty⟩ := not_or.mp condition
    exact Nat.not_lt.mpr (inside leastPadding leastPadding_cbcUnpads).1
      (leastPadding_overruns accepted (Nat.not_lt.mp large) nonempty)
  · rintro condition ssl unpads
    suffices inside : unsealedBytes ssl password header ≤ 88 from
      ⟨inside, mt decryptSecret_eq_none.mp (Nat.not_lt.mpr inside)⟩
    rcases condition with small | empty
    · exact unsealedBytes_le unpads accepted small
    · have refused : deriveHeaderKey ssl password header.salt = none := if_pos empty
      simp only [unsealedBytes, refused, ite_self]
      exact Nat.zero_le _

theorem unseal_in_bounds_sample :
    headerOfBuffer (headerBytes sampleHeader) = some sampleHeader ∧
      unsealedBytes standIn samplePassword sampleHeader ≤ 88 ∧
      decryptSecret standIn samplePassword sampleHeader ≠ none := by
  have read : headerOfBuffer (headerBytes sampleHeader) = some sampleHeader :=
    (headerOfBuffer_headerBytes sampleHeader).trans (if_pos (by decide))
  have inside := (unseal_in_bounds_iff samplePassword read).mpr (.inl (by decide))
  exact ⟨read, inside standIn standIn_cbcUnpads⟩

/-- A header that fills its field with a secret of eight blocks. -/
def overlongHeader : Header := { sampleHeader with encryptedSecretSize := 128 }

/-- `read_header` accepts it, and the update writes 112 bytes into the buffer of 88. -/
theorem overlong_secret_overruns :
    standIn.CbcUnpads ∧ headerOfBuffer (headerBytes overlongHeader) = some overlongHeader ∧
      ¬ unsealedBytes standIn samplePassword overlongHeader ≤ 88 :=
  ⟨standIn_cbcUnpads, (headerOfBuffer_headerBytes overlongHeader).trans (if_pos (by decide)),
    Nat.not_le.mpr (unsealedBytes_overrun standIn_cbcUnpads (by decide) (by decide)
      (if_neg (by decide)) rfl)⟩

end Padlock
