/-
This file compares `padlock_get` with the reference parser on every file that
opens: it finds a value exactly when the written range parses to its end and
holds a record for the key. The one condition, that no declared length exceeds
32 bits, holds for every store.
-/

import Padlock.Store.Log

namespace Padlock

open Interaction KeyValueLog

section Reference

variable {ssl : OpenSsl} {path password key : CString} {file : File} {header : Header}
  {xtsKey : Bytes padlockXtsKeySize}

/-- A place declares one key size and one value length. -/
theorem Declares.unique (blockwise : ssl.XtsBlockwise) {writeOffset offset : Nat}
    {keySize otherKeySize : UInt8} {valueLength otherLength : UInt32}
    (declares : Declares ssl xtsKey file writeOffset offset keySize valueLength)
    (other : Declares ssl xtsKey file writeOffset offset otherKeySize otherLength) :
    otherKeySize = keySize ∧ otherLength = valueLength := by
  obtain ⟨-, -, plain, decrypted, headEq, lengthEq⟩ := declares
  obtain ⟨-, -, otherPlain, otherDecrypted, otherHeadEq, otherLengthEq⟩ := other
  -- both plaintexts begin with the same block
  have block {size : UInt8} {whole : Bytes (prefixLength size).toNat}
      (given : file.plainAt ssl xtsKey (UInt64.ofNat offset) (prefixLength size).toNat =
        some whole) : ∃ part, file.plainAt ssl xtsKey (UInt64.ofNat offset) 16 = some part ∧
          part.toList.headD 0 = whole.toList.headD 0 := by
    have enough : 16 ≤ (prefixLength size).toNat := by
      rw [prefixLength_toNat]
      exact padded_pos (by omega)
    obtain ⟨part, partPlain, partEq⟩ := plainAt_take blockwise given (dvd_prefixLength size)
      (by decide) (by decide) enough
    exact ⟨part, partPlain, by rw [partEq, headD_take (by decide)]⟩
  obtain ⟨part, partPlain, partHead⟩ := block decrypted
  obtain ⟨otherPart, otherPartPlain, otherPartHead⟩ := block otherDecrypted
  obtain rfl := Option.some.inj (partPlain.symm.trans otherPartPlain)
  have sameSize : otherKeySize = keySize := by
    rw [← otherHeadEq, ← headEq, ← otherPartHead, ← partHead]
  subst sameSize
  obtain rfl := Option.some.inj (decrypted.symm.trans otherDecrypted)
  exact ⟨rfl, otherLengthEq.symm.trans lengthEq⟩

/-- What a place of a record declares is the length of the record. -/
theorem RecordAt.declared (blockwise : ssl.XtsBlockwise) {offset : Nat} {entry : Entry}
    (record : RecordAt ssl xtsKey file header.writeOffset.toNat offset entry) {keySize : UInt8}
    {valueLength : UInt32}
    (declares : Declares ssl xtsKey file header.writeOffset.toNat offset keySize valueLength) :
    5 + keySize.toNat + valueLength.toNat = recordLength entry.1 entry.2 := by
  obtain ⟨rfl, rfl⟩ := (record.declares blockwise).unique blockwise declares
  rw [UInt8.toNat_ofNat', UInt32.toNat_ofNat', Nat.mod_eq_of_lt record.keySize.2,
    Nat.mod_eq_of_lt record.valueLength, recordLength]

/-- The lengths of a store fit: the parser comes to its records only. -/
theorem EncryptsAll.lengthsFit (blockwise : ssl.XtsBlockwise) {offset : Nat}
    {records : List UInt8} {log : List Entry}
    (all : EncryptsAll ssl xtsKey offset records log) {front tail : List UInt8}
    (parts : file.bytes = front ++ (records ++ tail)) (start : front.length = offset)
    (writeOffset : header.writeOffset.toNat = offset + records.length) :
    LengthsFit ssl xtsKey file header.writeOffset.toNat offset := by
  induction all generalizing front with
  | nil offset =>
    intro entries place keySize valueLength leads declares
    rw [List.length_nil] at writeOffset
    cases leads with
    | nil =>
      have positive : 16 ≤ (prefixLength keySize).toNat := by
        rw [prefixLength_toNat]
        exact padded_pos (by omega)
      have inside := declares.inside
      omega
    | @cons _ _ entry _ first others =>
      have positive := padded_recordLength_pos entry.1 entry.2
      have inside := first.inside
      omega
  | @cons offset cipher rest entry log first others inductionHypothesis =>
    intro entries place keySize valueLength leads declares
    have split : file.bytes = front ++ (cipher ++ (rest ++ tail)) := by
      rw [parts, List.append_assoc]
    rw [List.length_append] at writeOffset
    have record := first.recordAt split start (by omega : _ ≤ header.writeOffset.toNat)
    cases leads with
    | nil =>
      rw [record.declared blockwise declares]
      exact first.small.trans (by decide)
    | @cons _ _ other _ otherRecord otherLeads =>
      -- both records begin at one place, so they have one length
      have same := record.declared blockwise (otherRecord.declares blockwise)
      rw [otherRecord.declared blockwise (otherRecord.declares blockwise)] at same
      rw [same, ← first.length] at otherLeads
      exact inductionHypothesis (split.trans (List.append_assoc ..).symm)
        (by rw [List.length_append, start]) (by omega) _ _ _ _ otherLeads declares

/-- Every store opens, and its lengths fit. -/
theorem Stored.opens (blockwise : ssl.XtsBlockwise) {size : Nat} {log : List Entry}
    (stored : Stored ssl password size file log) :
    ∃ header xtsKey, Opens ssl password file header xtsKey ∧
      LengthsFit ssl xtsKey file header.writeOffset.toNat padlockHeaderSize := by
  obtain ⟨header, records, tail, xtsKey, layout, secret, all⟩ := stored.parts
  exact ⟨header, xtsKey, ⟨layout.readAt_header, secret⟩,
    all.lengthsFit blockwise layout.parts (length_headerBytes header) layout.writeOffset⟩

/-- `padlock_get` is the reference parser: on every file that opens, it finds a value exactly
when the range from the header on parses to its end and has a record for the key, and the value
is that of the last such record. A place that does not parse makes it fail for every key. -/
theorem padlockGet_eq_reference (blockwise : ssl.XtsBlockwise)
    (opens : Opens ssl password file header xtsKey)
    (lengths : LengthsFit ssl xtsKey file header.writeOffset.toNat padlockHeaderSize) :
    ∃ answer,
      runOn (padlockGet ssl (some path) (some password) (some key) true) file =
        some (answer, file) ∧
      (∀ found, answer = some found ↔ ∃ entries value,
        Parses ssl xtsKey file header.writeOffset.toNat padlockHeaderSize entries ∧
          latest entries key.bytes = some value ∧ found = Found.ofValue value) ∧
      (Breaks ssl xtsKey file header.writeOffset.toNat padlockHeaderSize → answer = none) := by
  have start : UInt64.toNat 4096 = padlockHeaderSize := rfl
  have low : padlockHeaderSize < 2 ^ 63 := by decide
  by_cases breaks : Breaks ssl xtsKey file header.writeOffset.toNat padlockHeaderSize
  · obtain ⟨held, scanned⟩ := runOn_scan_of_breaks key blockwise breaks lengths.noneWraps start low
      none
    refine ⟨none, runOn_padlockGet opens scanned, ?_, fun _ => rfl⟩
    intro found
    constructor
    · intro answered
      cases answered
    · rintro ⟨entries, value, parses, -, -⟩
      -- a range that breaks does not parse: the scan would end in two ways
      rw [runOn_scan_of_parses key blockwise parses start low none]
        at scanned
      cases scanned
  · obtain ⟨entries, parses⟩ := (parses_or_breaks ..).resolve_right breaks
    have scanned := runOn_scan_of_parses key blockwise parses
        start low none
    refine ⟨_, runOn_padlockGet opens scanned, ?_, fun broken => absurd broken breaks⟩
    intro found
    simp only [ScanEnd.answer, if_true, Option.or_none, Option.map_eq_some_iff]
    constructor
    · rintro ⟨value, answer, rfl⟩
      exact ⟨entries, value, parses, answer, rfl⟩
    · rintro ⟨others, value, otherParses, answer, rfl⟩
      have twice := runOn_scan_of_parses key blockwise otherParses start low none
      rw [scanned, answer] at twice
      simp only [Option.or_none, Option.map_some, Option.some.injEq, Prod.mk.injEq,
        ScanEnd.mk.injEq, and_true, Option.map_eq_some_iff] at twice
      exact twice

theorem padlockGet_eq_reference_sample :
    ∃ file header xtsKey, Opens standIn samplePassword file header xtsKey ∧
      ∃ answer,
        runOn (callGet standIn samplePath samplePassword (sampleKey true)) file =
          some (answer, file) ∧
        ∃ entries value,
          Parses standIn xtsKey file header.writeOffset.toNat padlockHeaderSize entries ∧
            latest entries (sampleKey true).bytes = some value ∧
              Found.ofValue (sampleValue true).bytes = Found.ofValue value := by
  obtain ⟨file, allocated⟩ := sample_allocated
  obtain ⟨final, -, grown⟩ := (stored_of_allocated standIn_lawful.cbc
    allocated).runOn_set_of_room samplePath standIn_lawful.inverts
      (by decide : recordLength (sampleKey true).bytes (sampleValue true).bytes ≤ 2 ^ 24)
      (by decide)
  obtain ⟨header, xtsKey, opens, lengths⟩ := grown.opens standIn_lawful.blockwise
  obtain ⟨answer, answered, found, -⟩ :=
    padlockGet_eq_reference standIn_lawful.blockwise opens lengths
  refine ⟨final, header, xtsKey, opens, answer, answered, (found _).mp ?_⟩
  have same := (grown.runOn_get standIn_lawful.blockwise).symm.trans answered
  rw [← (Prod.mk.inj (Option.some.inj same)).1, List.nil_append]
  rfl

end Reference

end Padlock
