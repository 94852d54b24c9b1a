/-
This file is about whole lookups on an arbitrary file, corrupt or hostile. The
scan is followed from its first offset to its last: over records that stand one
after another it goes on, at the first place where none stands it stops, and
`padlock_get` answers with what it then holds.
-/

import Padlock.Store.Parser

namespace Padlock

open Interaction KeyValueLog

section Scan

variable {ssl : OpenSsl} {xtsKey : Bytes padlockXtsKeySize} {header : Header} {file : File}

/-- The offset behind a record of the file is one the file reaches. -/
theorem RecordAt.following_lt {offset : Nat} {entry : Entry}
    (record : RecordAt ssl xtsKey file header.writeOffset.toNat offset entry)
    (low : offset < 2 ^ 63) :
    offset + padded (recordLength entry.1 entry.2) < 2 ^ 63 := by
  obtain ⟨plain, decrypted, -⟩ := record.decrypts
  have longer := padded_recordLength_pos entry.1 entry.2
  have offsetNat : (UInt64.ofNat offset).toNat = offset := by
    rw [UInt64.toNat_ofNat']
    omega
  obtain ⟨-, full, -⟩ := plainAt_eq_some.mp decrypted
  have := file.fits
  rw [Span.length_read, offsetNat] at full
  omega

/-- The length a record declares is its own. -/
theorem RecordAt.declares (blockwise : ssl.XtsBlockwise) {offset : Nat} {entry : Entry}
    (record : RecordAt ssl xtsKey file header.writeOffset.toNat offset entry) :
    Declares ssl xtsKey file header.writeOffset.toNat offset (UInt8.ofNat entry.1.length)
      (UInt32.ofNat entry.2.length) := by
  obtain ⟨⟨nonempty, keySize⟩, -, inside, plain, decrypted, starts⟩ := record
  have sizeNat : (UInt8.ofNat entry.1.length).toNat = entry.1.length := by
    rw [UInt8.toNat_ofNat', Nat.mod_eq_of_lt keySize]
  have prefixNat :
      (prefixLength (UInt8.ofNat entry.1.length)).toNat = padded (5 + entry.1.length) := by
    rw [prefixLength_toNat, sizeNat]
  have prefixLe : padded (5 + entry.1.length) ≤ padded (recordLength entry.1 entry.2) := by
    unfold padded recordLength
    omega
  have within : 1 + entry.1.length + 4 ≤ padded (5 + entry.1.length) := by
    unfold padded
    omega
  obtain ⟨part, partPlain, partEq⟩ := plainAt_take blockwise decrypted (dvd_padded _)
    (dvd_prefixLength (UInt8.ofNat entry.1.length)) (by omega) (by rw [prefixNat]; exact prefixLe)
  refine ⟨?_, by rw [prefixNat]; omega, part, partPlain, ?_, ?_⟩
  · intro zero
    rw [zero] at sizeNat
    exact absurd sizeNat.symm (Nat.pos_iff_ne_zero.mp nonempty)
  · rw [partEq, headD_take (by omega), headD_of_record starts]
  · rw [partEq, prefixNat, sizeNat, Span.read_take _ within, read_length_of_record starts,
      getU32_putU32]

/-- A place that records lead to is one the file reaches. -/
theorem Leads.place_lt {offset place : Nat} {entries : List Entry}
    (leads : Leads ssl xtsKey file header.writeOffset.toNat offset entries place)
    (low : offset < 2 ^ 63) : place < 2 ^ 63 := by
  induction leads with
  | nil place => exact low
  | cons first others inductionHypothesis => exact inductionHypothesis (first.following_lt low)

theorem room_iff (offset : UInt64) (low : offset.toNat < 2 ^ 63) :
    offset + 16 ≤ header.writeOffset ↔ offset.toNat + 16 ≤ header.writeOffset.toNat := by
  have sixteen : UInt64.toNat 16 = 16 := rfl
  rw [UInt64.le_iff_toNat_le, UInt64.toNat_add, sixteen]
  omega

variable (key : CString)

/-- The scan goes over records to the place behind them, and then holds the last value of the
key among them. -/
theorem runOn_scan_of_leads (blockwise : ssl.XtsBlockwise) {start place : Nat}
    {entries : List Entry}
    (leads : Leads ssl xtsKey file header.writeOffset.toNat start entries place) {offset : UInt64}
    (startEq : offset.toNat = start) (low : start < 2 ^ 63) (found : Option Found) :
    runOn (scan ssl xtsKey header key offset found) file =
      runOn (scan ssl xtsKey header key (UInt64.ofNat place)
        (((latest entries key.bytes).map Found.ofValue).or found)) file := by
  induction leads generalizing offset found with
  | nil place =>
    subst startEq
    rw [UInt64.ofNat_toNat]
    rfl
  | @cons start place entry rest first others inductionHypothesis =>
    subst startEq
    have room : offset.toNat + 16 ≤ header.writeOffset.toNat := by
      have := first.inside
      have := padded_recordLength_pos entry.1 entry.2
      omega
    obtain ⟨following, above, followingNat, round⟩ := runOn_scanRound_next ssl xtsKey header key
      blockwise first found
    rw [scan, if_pos ((room_iff offset low).mpr room), runOn_bind, round]
    simp only [Option.bind_some]
    rw [inductionHypothesis followingNat (first.following_lt low), latest,
      Option.map_or, Option.or_assoc]
    congr 3
    split <;> rfl

theorem toNat_ofNat_of_lt {place : Nat} (low : place < 2 ^ 63) :
    (UInt64.ofNat place).toNat = place := by
  rw [UInt64.toNat_ofNat']
  omega

/-- Over a range that parses the scan runs to the end and holds the last value of the key. -/
theorem runOn_scan_of_parses (blockwise : ssl.XtsBlockwise) {start : Nat} {entries : List Entry}
    (parses : Parses ssl xtsKey file header.writeOffset.toNat start entries) {offset : UInt64}
    (startEq : offset.toNat = start) (low : start < 2 ^ 63) (found : Option Found) :
    runOn (scan ssl xtsKey header key offset found) file =
      some ({ found := ((latest entries key.bytes).map Found.ofValue).or found
              complete := true }, file) := by
  obtain ⟨place, leads, short⟩ := parses
  have placeLt := leads.place_lt low
  have stop : ¬ UInt64.ofNat place + 16 ≤ header.writeOffset := by
    rw [room_iff _ (by rw [toNat_ofNat_of_lt placeLt]; exact placeLt), toNat_ofNat_of_lt placeLt]
    omega
  rw [runOn_scan_of_leads key blockwise leads startEq low, scan, if_neg stop]
  rfl

/-- Over a range that does not parse the scan stops before the end. -/
theorem runOn_scan_of_breaks (blockwise : ssl.XtsBlockwise) {start : Nat}
    (breaks : Breaks ssl xtsKey file header.writeOffset.toNat start)
    (fits : NoneWraps ssl xtsKey file header.writeOffset.toNat start) {offset : UInt64}
    (startEq : offset.toNat = start) (low : start < 2 ^ 63) (found : Option Found) :
    ∃ held, runOn (scan ssl xtsKey header key offset found) file =
      some ({ found := held, complete := false }, file) := by
  obtain ⟨entries, place, leads, room, absent⟩ := breaks
  have placeLt := leads.place_lt low
  have placeNat := toNat_ofNat_of_lt placeLt
  have inside : UInt64.ofNat place + 16 ≤ header.writeOffset := by
    rw [room_iff _ (by rw [placeNat]; exact placeLt), placeNat]
    exact room
  rw [runOn_scan_of_leads key blockwise leads startEq low, scan,
    if_pos inside, runOn_bind, runOn_scanRound_done ssl xtsKey header key blockwise
      (by rw [placeNat]; exact absent)
      (by
        rw [placeNat]
        exact fun keySize valueLength => fits _ _ keySize valueLength leads)]
  exact ⟨_, rfl⟩

end Scan

/-! ### The whole call -/

section Call

variable {ssl : OpenSsl} {path password key : CString} {file : File}

theorem runOn_readHeader (file : File) :
    runOn readHeader file = some ((file.readAt 0 padlockHeaderSize).bind headerOfBuffer, file) := by
  have read : runOn (seekRead 0 padlockHeaderSize) file =
      some (file.readAt 0 padlockHeaderSize, file) :=
    runOn_seekRead 0 (by decide) file
  rw [readHeader, runOn_bind, read, Option.bind_some]
  cases file.readAt 0 padlockHeaderSize with
  | none => rfl
  | some buffer => rfl

/-- A file opens with a password: its header is accepted and the sealed key comes out. -/
structure Opens (ssl : OpenSsl) (password : CString) (file : File) (header : Header)
    (xtsKey : Bytes padlockXtsKeySize) : Prop where
  headerRead : (file.readAt 0 padlockHeaderSize).bind headerOfBuffer = some header
  secret : decryptSecret ssl password header = some (some xtsKey)

variable {header : Header} {xtsKey : Bytes padlockXtsKeySize}

/-- On a file that opens, `padlock_get` answers from its scan. -/
theorem runOn_padlockGet_of_opens (opens : Opens ssl password file header xtsKey) :
    runOn (padlockGet ssl (some path) (some password) (some key) true) file =
      (runOn (scan ssl xtsKey header key 4096 none) file).map fun output =>
        (output.1.answer, output.2) := by
  have stored : runOn (getStore ssl password key) file =
      runOn (scan ssl xtsKey header key 4096 none) file := by
    simp only [getStore, runOn_bind, runOn_readHeader, opens.headerRead, Option.bind_some,
      opens.secret, Program.bounded_some, runOn_done]
    rfl
  simp only [padlockGet, Bool.not_true, Bool.false_eq_true, if_false, Program.request_bind,
    runOn_fopen, if_true, runOn_bind, stored]
  cases runOn (scan ssl xtsKey header key 4096 none) file with
  | none => rfl
  | some output =>
    simp only [Option.bind_some, runOn_fclose, Option.map_some]
    -- the copy is freed only when nothing is returned, and freeing does not touch the file
    split
    · rw [runOn_freeBlock]
      rfl
    · rfl

theorem runOn_padlockGet {finish : ScanEnd} {rest : File}
    (opens : Opens ssl password file header xtsKey)
    (scanned : runOn (scan ssl xtsKey header key 4096 none) file = some (finish, rest)) :
    runOn (padlockGet ssl (some path) (some password) (some key) true) file =
      some (finish.answer, rest) := by
  rw [runOn_padlockGet_of_opens opens, scanned, Option.map_some]

end Call

end Padlock
