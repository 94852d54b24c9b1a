/-
This file asks when the scan of `padlock_get` stays inside the records it has
decrypted. Key size and value length of a record come out of the file, and the
length of the record is their sum in 32 bits. A round whose checks let a record
pass therefore reads what it has decrypted exactly when the sum has not wrapped,
and whether it ever wraps is a question about the file alone.
-/

import Padlock.Store.Bounds
import Padlock.Store.Reference

namespace Padlock

open Interaction

section Scan

variable (ssl : OpenSsl) (xtsKey : Bytes padlockXtsKeySize) (header : Header) (key : CString)
  (file : File)

/-- The scan comes to a round: the offset the round is at, and the copy held there. -/
inductive Reaches : UInt64 → Option Found → Prop
  | initial : Reaches (UInt64.ofNat padlockHeaderSize) none
  | next {offset following : UInt64} {above : offset < following} {found kept : Option Found}
      (earlier : Reaches offset found) (room : offset + 16 ≤ header.writeOffset)
      (round : runOn (scanRound ssl xtsKey header key offset found) file =
        some (.next following above kept, file)) : Reaches following kept

/-- A round passes its bound checks: the first block and the prefix can be had, and neither the
prefix nor the record, in the length the code computes for it, ends past the write offset. -/
structure Passes (offset : UInt64) (keySize : UInt8) (valueLength : UInt32) : Prop where
  entered : offset + 16 ≤ header.writeOffset
  first : ∃ block, file.plainAt ssl xtsKey offset 16 = some block ∧
    block.toList.headD 0 = keySize
  nonzero : keySize ≠ 0
  prefixInside : ¬ offset + prefixLength keySize > header.writeOffset
  second : ∃ prefixPlain,
    file.plainAt ssl xtsKey offset (prefixLength keySize).toNat = some prefixPlain ∧
      getU32 (Span.read (1 + keySize.toNat) 4 prefixPlain.toList) = valueLength
  inside : ¬ (align16 (entryLength keySize valueLength) < 16 ∨
    offset + align16 (entryLength keySize valueLength) > header.writeOffset)

end Scan

/-- A lookup does not access a record beyond what it has decrypted: in every round that passes its
bound checks the record lies inside the plaintext and the block for its value has room for the
value and the NUL behind it, and no access of the call leaves its block. -/
structure GetInBounds (ssl : OpenSsl) (password key : CString) (file : File) : Prop where
  extent : ∀ header xtsKey, Opens ssl password file header xtsKey →
    ∀ offset found, Reaches ssl xtsKey header key file offset found →
    ∀ keySize valueLength, Passes ssl xtsKey header file offset keySize valueLength →
      1 + keySize.toNat + 4 + valueLength.toNat ≤
          (align16 (entryLength keySize valueLength)).toNat ∧
        valueLength.toNat + 1 ≤ (valueLength + 1).toNat
  accesses : ∀ header xtsKey, Opens ssl password file header xtsKey →
    ∀ path, runOn (padlockGet ssl (some path) (some password) (some key) true) file ≠ none

section Rounds

variable {ssl : OpenSsl} {xtsKey : Bytes padlockXtsKeySize} {header : Header} {key : CString}
  {file : File}

theorem Passes.declares (blockwise : ssl.XtsBlockwise) {offset : UInt64} {keySize : UInt8}
    {valueLength : UInt32} (passes : Passes ssl xtsKey header file offset keySize valueLength) :
    Declares ssl xtsKey file header.writeOffset.toNat offset.toNat keySize valueLength := by
  obtain ⟨block, first, head⟩ := passes.first
  obtain ⟨prefixPlain, second, declared⟩ := passes.second
  exact declares_of_plainAt ssl xtsKey header blockwise first head passes.nonzero
    passes.prefixInside second declared

theorem Leads.concat {offset place : Nat} {entries : List Entry} {entry : Entry}
    (leads : Leads ssl xtsKey file header.writeOffset.toNat offset entries place)
    (last : RecordAt ssl xtsKey file header.writeOffset.toNat place entry) :
    Leads ssl xtsKey file header.writeOffset.toNat offset (entries ++ [entry])
      (place + padded (recordLength entry.1 entry.2)) := by
  induction leads with
  | nil place => exact .cons last (.nil _)
  | cons first others inductionHypothesis => exact .cons first (inductionHypothesis last)

/-- While no length wraps, the scan comes only to places that records lead to. -/
theorem Reaches.leads (blockwise : ssl.XtsBlockwise)
    (fits : NoneWraps ssl xtsKey file header.writeOffset.toNat padlockHeaderSize)
    {offset : UInt64} {found : Option Found}
    (reaches : Reaches ssl xtsKey header key file offset found) :
    ∃ entries,
      Leads ssl xtsKey file header.writeOffset.toNat padlockHeaderSize entries offset.toNat := by
  induction reaches with
  | initial => exact ⟨[], .nil _⟩
  | @next offset following above found kept earlier room round inductionHypothesis =>
    obtain ⟨entries, leads⟩ := inductionHypothesis
    by_cases present : ∃ entry,
        RecordAt ssl xtsKey file header.writeOffset.toNat offset.toNat entry
    · obtain ⟨entry, record⟩ := present
      obtain ⟨behind, higher, behindNat, goesOn⟩ :=
        runOn_scanRound_next ssl xtsKey header key blockwise record found
      rw [goesOn] at round
      cases round
      rw [behindNat]
      exact ⟨_, leads.concat record⟩
    · rw [runOn_scanRound_done ssl xtsKey header key blockwise (not_exists.mp present)
        (fun keySize valueLength => fits _ _ keySize valueLength leads)] at round
      cases round

/-- The scan comes to every place that records lead to. -/
theorem Reaches.of_leads {offset : UInt64} {found : Option Found}
    (reaches : Reaches ssl xtsKey header key file offset found) (blockwise : ssl.XtsBlockwise)
    {start place : Nat} {entries : List Entry}
    (leads : Leads ssl xtsKey file header.writeOffset.toNat start entries place)
    (startEq : offset.toNat = start) (low : start < 2 ^ 63) :
    ∃ last kept, last.toNat = place ∧ Reaches ssl xtsKey header key file last kept := by
  induction leads generalizing offset found with
  | nil place => exact ⟨offset, found, startEq, reaches⟩
  | @cons start place entry rest first others inductionHypothesis =>
    subst startEq
    have room : offset.toNat + 16 ≤ header.writeOffset.toNat := by
      have := first.inside
      have := padded_recordLength_pos entry.1 entry.2
      omega
    obtain ⟨following, above, followingNat, round⟩ :=
      runOn_scanRound_next ssl xtsKey header key blockwise first found
    exact inductionHypothesis (.next reaches ((room_iff offset low).mpr room) round) followingNat
      (first.following_lt low)

/-- A place that declares a length beyond 2^32 which wraps to one inside the written range passes
the checks of its round. -/
theorem Declares.passes (blockwise : ssl.XtsBlockwise) {offset : UInt64} {keySize : UInt8}
    {valueLength : UInt32}
    (declares : Declares ssl xtsKey file header.writeOffset.toNat offset.toNat keySize valueLength)
    (long : 2 ^ 32 < 5 + keySize.toNat + valueLength.toNat)
    (wraps : offset.toNat + (padded (5 + keySize.toNat + valueLength.toNat) - 2 ^ 32) ≤
      header.writeOffset.toNat) :
    Passes ssl xtsKey header file offset keySize valueLength := by
  obtain ⟨nonzero, inside, plain, decrypted, head, declared⟩ := declares
  rw [UInt64.ofNat_toNat] at decrypted
  have sixteen := sixteen_le_prefixLength keySize
  have seekable := seekable_of_plainAt ssl xtsKey decrypted (by omega)
  have length := align16_entryLength_of_long long
  have longer := le_padded (5 + keySize.toNat + valueLength.toNat)
  have blocks := dvd_align16 (entryLength keySize valueLength)
  have bound := align16_lt (entryLength keySize valueLength)
  have prefixBound := align16_lt (1 + keySize.toUInt32 + 4).toUInt64
  obtain ⟨block, first, blockEq⟩ := plainAt_take blockwise decrypted (dvd_prefixLength keySize)
    (Nat.dvd_refl 16) (by omega) sixteen
  refine ⟨(room_iff offset seekable).mpr (by omega), ⟨block, first, ?_⟩, nonzero, ?_,
    ⟨plain, decrypted, declared⟩, ?_⟩
  · rw [blockEq, headD_take (by omega), head]
  · rw [gt_iff_lt, UInt64.lt_iff_toNat_lt, UInt64.toNat_add]
    unfold prefixLength at inside ⊢
    omega
  · rw [lt_sixteen_iff, gt_iff_lt, UInt64.lt_iff_toNat_lt, UInt64.toNat_add]
    omega

/-- Over a range whose lengths do not wrap the scan ends without leaving its blocks. -/
theorem runOn_scan_ends (key : CString) (blockwise : ssl.XtsBlockwise)
    (fits : NoneWraps ssl xtsKey file header.writeOffset.toNat padlockHeaderSize) :
    ∃ finish, runOn (scan ssl xtsKey header key 4096 none) file = some (finish, file) := by
  have start : UInt64.toNat 4096 = padlockHeaderSize := rfl
  obtain ⟨entries, parses⟩ | breaks := parses_or_breaks ssl xtsKey file header.writeOffset.toNat
    padlockHeaderSize
  · exact ⟨_, runOn_scan_of_parses key blockwise parses start (by decide) none⟩
  · obtain ⟨held, scanned⟩ := runOn_scan_of_breaks key blockwise breaks fits start (by decide) none
    exact ⟨_, scanned⟩

end Rounds

section Call

variable {ssl : OpenSsl} {password key : CString} {file : File} {header : Header}
  {xtsKey : Bytes padlockXtsKeySize}

theorem GetInBounds.noneWraps (bounds : GetInBounds ssl password key file)
    (blockwise : ssl.XtsBlockwise) (opens : Opens ssl password file header xtsKey) :
    NoneWraps ssl xtsKey file header.writeOffset.toNat padlockHeaderSize := by
  intro entries place keySize valueLength leads declares
  by_contra wraps
  obtain ⟨long, wraps⟩ := not_or.mp wraps
  rw [Nat.not_le] at long
  rw [Nat.not_lt] at wraps
  have start : Reaches ssl xtsKey header key file (UInt64.ofNat padlockHeaderSize) none := .initial
  obtain ⟨offset, found, rfl, reaches⟩ := start.of_leads blockwise leads rfl (by decide)
  have passes := declares.passes blockwise long wraps
  have extent := (bounds.extent header xtsKey opens offset found reaches _ _ passes).1
  have bound := align16_lt (entryLength keySize valueLength)
  omega

/-- A lookup stays inside the records it has decrypted exactly when no record that its scan comes
to declares more than 2^32 bytes, of which what is left beyond 2^32 would end at or before the
write offset. -/
theorem get_in_bounds_iff (blockwise : ssl.XtsBlockwise) (password key : CString) (file : File) :
    GetInBounds ssl password key file ↔
      ∀ header xtsKey, Opens ssl password file header xtsKey →
        NoneWraps ssl xtsKey file header.writeOffset.toNat padlockHeaderSize := by
  constructor
  · intro bounds header xtsKey opens
    exact bounds.noneWraps blockwise opens
  · intro fits
    constructor
    · intro header xtsKey opens offset found reaches keySize valueLength passes
      obtain ⟨entries, leads⟩ := reaches.leads blockwise (fits header xtsKey opens)
      have declares := passes.declares blockwise
      obtain ⟨block, first, -⟩ := passes.first
      have seekable := seekable_of_plainAt ssl xtsKey first (by omega)
      obtain ⟨enough, within⟩ := not_or.mp passes.inside
      have limited := limited_of_allowed header seekable
        (fits header xtsKey opens _ _ _ _ leads declares) within
      have small := small_of_enough limited enough
      refine ⟨?_, ?_⟩
      · rw [align16_entryLength small]
        have := le_padded (5 + keySize.toNat + valueLength.toNat)
        omega
      · rw [UInt32.toNat_add, show UInt32.toNat 1 = 1 from rfl]
        omega
    · intro header xtsKey opens path
      obtain ⟨finish, scanned⟩ := runOn_scan_ends key blockwise (fits header xtsKey opens)
      rw [runOn_padlockGet opens scanned]
      exact Option.some_ne_none _

end Call

theorem get_in_bounds_sample :
    ∃ file header xtsKey, Opens standIn samplePassword file header xtsKey ∧
      runOn (callGet standIn samplePath samplePassword (sampleKey true)) file =
        some (some (Found.ofValue (sampleValue true).bytes), file) ∧
      GetInBounds standIn samplePassword (sampleKey true) file := by
  obtain ⟨before, allocated⟩ := sample_allocated
  obtain ⟨file, -, stored⟩ :=
    (stored_of_allocated standIn_lawful.cbc allocated).runOn_set_of_room samplePath
      standIn_lawful.inverts
      (by decide : recordLength (sampleKey true).bytes (sampleValue true).bytes ≤ 2 ^ 24)
      (by decide)
  obtain ⟨header, xtsKey, opens, lengths⟩ := stored.opens standIn_lawful.blockwise
  refine ⟨file, header, xtsKey, opens, stored.runOn_get standIn_lawful.blockwise,
    (get_in_bounds_iff standIn_lawful.blockwise samplePassword (sampleKey true) file).mpr ?_⟩
  intro other otherKey otherOpens
  obtain rfl := Option.some.inj (opens.headerRead.symm.trans otherOpens.headerRead)
  obtain rfl := Option.some.inj (Option.some.inj (opens.secret.symm.trans otherOpens.secret))
  exact lengths.noneWraps

/-! A store that somebody who knows the password has written: its one record has a key of one byte
and declares a value of 2^32 - 1, so that the record has 16 bytes and the block for the value
none. -/

def wrappingPlain : List UInt8 := [1, 97, 255, 255, 255, 255] ++ zeros 10

def wrappingStart : Header := { sampleHeader with writeOffset := 4112 }

def wrappingHeader : Header :=
  ((encryptSecret standIn samplePassword wrappingStart (Bytes.cleared padlockXtsKeySize)).bind
    id).getD wrappingStart

def wrappingFile : File where
  bytes := (headerBytes wrappingHeader).toList ++
    mask (zeros padlockXtsKeySize) (xtsTweak 4096).toList wrappingPlain
  fits := by
    rw [List.length_append, length_headerBytes, length_mask]
    decide

theorem wrappingFile_opens :
    wrappingHeader.writeOffset = 4112 ∧
      Opens standIn samplePassword wrappingFile wrappingHeader
        (Bytes.cleared padlockXtsKeySize) := by
  obtain ⟨header, sealed⟩ := encryptSecret_succeeds standIn_lawful.kdf standIn_lawful.cbc
    standIn_lawful.encrypts (by decide : samplePassword.bytes ≠ []) wrappingStart rfl
    (Bytes.cleared padlockXtsKeySize)
  obtain ⟨totalSize, writeOffset, secretSize, secret⟩ :=
    decryptSecret_encryptSecret standIn_lawful.cbc rfl sealed
  have same : wrappingHeader = header := by
    rw [wrappingHeader, sealed]
    rfl
  have accepted : header.accepted = true := by
    rw [header.accepted_iff, totalSize, writeOffset, secretSize]
    decide
  rw [← same] at writeOffset accepted secret
  exact ⟨writeOffset, opens_of_bytes accepted secret rfl⟩

theorem wrappingFile_declares :
    Declares standIn (Bytes.cleared padlockXtsKeySize) wrappingFile 4112 4096 1 0xffffffff := by
  have read : Span.read 4096 16 wrappingFile.bytes =
      mask (zeros padlockXtsKeySize) (xtsTweak 4096).toList wrappingPlain := by
    have parts : wrappingFile.bytes = (headerBytes wrappingHeader).toList ++
        (mask (zeros padlockXtsKeySize) (xtsTweak 4096).toList wrappingPlain ++ []) := by
      rw [List.append_nil]
      rfl
    exact Span.read_between parts (length_headerBytes wrappingHeader) (length_mask ..)
  refine ⟨by decide, by decide, ⟨wrappingPlain, rfl⟩, plainAt_eq_some.mpr ⟨by decide, ?_, ?_⟩, rfl,
    by decide⟩
  · exact (congrArg List.length read).trans (length_mask ..)
  · have decrypted : standIn.xtsDecrypt (Bytes.cleared padlockXtsKeySize) (xtsTweak 4096)
        (Span.read 4096 16 wrappingFile.bytes) = some wrappingPlain := by
      rw [read]
      simp only [standIn, maskRange]
      rw [if_neg (by rw [length_mask]; decide)]
      exact congrArg some (mask_mask ..)
    exact decrypted

/-- The scan comes to the record, which passes the checks, and does not stay inside it. -/
theorem wrapping_record_overruns :
    Opens standIn samplePassword wrappingFile wrappingHeader (Bytes.cleared padlockXtsKeySize) ∧
      ¬ GetInBounds standIn samplePassword (sampleKey true) wrappingFile := by
  obtain ⟨writeOffset, opens⟩ := wrappingFile_opens
  refine ⟨opens, fun bounds => ?_⟩
  have fits := bounds.noneWraps standIn_lawful.blockwise opens
  rw [writeOffset] at fits
  have wraps := fits [] _ _ _ (.nil _) wrappingFile_declares
  revert wraps
  decide

end Padlock
