/-
This file shows that a store is an append-only log of keys and values. The
invariant is that the bytes behind the header are the encrypted records of the
log, each at its own offset; `padlock_set` adds one at the end or refuses, and
`padlock_get` answers from the log.
-/

import Padlock.Library.Machine
import Padlock.Store.Allocated
import Padlock.Store.Reader

namespace Padlock

open Interaction KeyValueLog

/-! ### The log -/

/-- A call on a store. -/
inductive Call where
  | set (key : CString) (value : Value)
  | get (key : CString)

/-- What a call returns. -/
inductive Output where
  | set (result : Int)
  | get (found : Option Found)
  deriving DecidableEq

/-- The bytes the records of a log take. -/
def totalLength (log : List Entry) : Nat :=
  (log.map fun entry => padded (recordLength entry.1 entry.2)).sum

/-- A record can be added to a log in a file of a given size. -/
abbrev Room (size : Nat) (log : List Entry) (key value : List UInt8) : Prop :=
  1 ≤ key.length ∧ key.length ≤ 255 ∧
    padlockHeaderSize + totalLength log + padded (recordLength key value) ≤ size

/-- One call on a log: a set adds its pair at the end when there is room, a get returns the last
value of its key. -/
def logStep (size : Nat) (log : List Entry) : Call → Output × List Entry
  | .set key value =>
    if Room size log key.bytes value.bytes then (.set 0, log ++ [(key.bytes, value.bytes)])
    else (.set (-1), log)
  | .get key => (.get ((latest log key.bytes).map Found.ofValue), log)

/-- What a sequence of calls on a log returns, and the log afterwards. -/
def logRun (size : Nat) : List Entry → List Call → List Output × List Entry :=
  Machine.run (logStep size)

/-! ### The records of a log -/

section Records

variable (ssl : OpenSsl) (xtsKey : Bytes padlockXtsKeySize)

/-- A range of a file encrypts one record at an offset. -/
structure Encrypts (offset : Nat) (cipher : List UInt8) (entry : Entry) : Prop where
  keySize : 0 < entry.1.length ∧ entry.1.length < 256
  small : recordLength entry.1 entry.2 ≤ 2 ^ 24
  length : cipher.length = padded (recordLength entry.1 entry.2)
  decrypts : ∃ plain, ssl.xtsDecrypt xtsKey (xtsTweak (UInt64.ofNat offset)) cipher = some plain ∧
    plain.length = cipher.length ∧ recordBytes entry.1 entry.2 <+: plain

/-- A range of a file encrypts the records of a log, one after another. -/
inductive EncryptsAll : Nat → List UInt8 → List Entry → Prop
  | nil (offset : Nat) : EncryptsAll offset [] []
  | cons {offset : Nat} {cipher rest : List UInt8} {entry : Entry} {log : List Entry}
      (first : Encrypts ssl xtsKey offset cipher entry)
      (others : EncryptsAll (offset + cipher.length) rest log) :
      EncryptsAll offset (cipher ++ rest) (entry :: log)

variable {ssl xtsKey}

/-- Where a record is encrypted, the reference parser finds it. -/
theorem Encrypts.recordAt {offset writeOffset : Nat} {cipher : List UInt8} {entry : Entry}
    (encrypts : Encrypts ssl xtsKey offset cipher entry) {file : File} {front back : List UInt8}
    (parts : file.bytes = front ++ (cipher ++ back)) (start : front.length = offset)
    (inside : offset + cipher.length ≤ writeOffset) :
    RecordAt ssl xtsKey file writeOffset offset entry := by
  obtain ⟨plain, decrypted, plainLength, record⟩ := encrypts.decrypts
  have fits := file.fits
  have bound := padded_lt (recordLength entry.1 entry.2)
  have small := encrypts.small
  have length := encrypts.length
  have lengths : file.bytes.length = offset + (cipher.length + back.length) := by
    rw [parts, List.length_append, List.length_append, start]
  have offsetNat : (UInt64.ofNat offset).toNat = offset := toNat_ofNat_of_lt (by omega)
  have range : Span.read offset (padded (recordLength entry.1 entry.2)) file.bytes = cipher :=
    Span.read_between parts start encrypts.length
  refine ⟨encrypts.keySize, ?_, by omega, ⟨plain, by rw [plainLength, encrypts.length]⟩,
    plainAt_eq_some.mpr ⟨by omega, ?_, ?_⟩, record⟩
  · unfold recordLength at small
    omega
  · rw [offsetNat, range, encrypts.length]
  · rw [offsetNat, range]
    exact decrypted

theorem EncryptsAll.concat {offset : Nat} {records cipher : List UInt8} {log : List Entry}
    {entry : Entry} (all : EncryptsAll ssl xtsKey offset records log)
    (last : Encrypts ssl xtsKey (offset + records.length) cipher entry) :
    EncryptsAll ssl xtsKey offset (records ++ cipher) (log ++ [entry]) := by
  induction all with
  | nil offset =>
    rw [List.length_nil, Nat.add_zero] at last
    rw [List.nil_append, List.nil_append, ← List.append_nil cipher]
    exact .cons last (.nil _)
  | cons first others inductionHypothesis =>
    rw [List.append_assoc, List.cons_append]
    refine .cons first (inductionHypothesis ?_)
    rwa [List.length_append, ← Nat.add_assoc] at last

theorem EncryptsAll.length {offset : Nat} {records : List UInt8} {log : List Entry}
    (all : EncryptsAll ssl xtsKey offset records log) : records.length = totalLength log := by
  induction all with
  | nil offset => rfl
  | cons first others inductionHypothesis =>
    rw [List.length_append, inductionHypothesis, first.length]
    rfl

/-- The records of a log lead from their offset to the place behind them. -/
theorem EncryptsAll.leads {offset writeOffset : Nat} {records : List UInt8} {log : List Entry}
    (all : EncryptsAll ssl xtsKey offset records log) {file : File} {front tail : List UInt8}
    (parts : file.bytes = front ++ (records ++ tail)) (start : front.length = offset)
    (inside : offset + records.length ≤ writeOffset) :
    Leads ssl xtsKey file writeOffset offset log (offset + records.length) := by
  induction all generalizing front with
  | nil offset => exact .nil offset
  | @cons offset cipher rest entry log first others inductionHypothesis =>
    have split : file.bytes = front ++ (cipher ++ (rest ++ tail)) := by
      rw [parts, List.append_assoc]
    rw [List.length_append] at inside
    have further := inductionHypothesis (split.trans (List.append_assoc ..).symm)
      (by rw [List.length_append, start]) (by omega)
    rw [List.length_append, ← Nat.add_assoc]
    refine .cons (first.recordAt split start (by omega)) ?_
    rw [← first.length]
    exact further

end Records

/-! ### The store and the log -/

/-- A file is a store of a given size whose records are those of a log. -/
structure Stored (ssl : OpenSsl) (password : CString) (size : Nat) (file : File)
    (log : List Entry) : Prop where
  parts : ∃ header records tail xtsKey, Layout size file header records tail ∧
    decryptSecret ssl password header = some (some xtsKey) ∧
    EncryptsAll ssl xtsKey padlockHeaderSize records log

theorem stored_of_allocated {ssl : OpenSsl} (cbc : ssl.CbcInverts) {path password : CString}
    {size : UInt64} {file : File} (allocated : Allocated ssl path size password file) :
    Stored ssl password size.toNat file [] := by
  obtain ⟨header, filling, xtsKey, layout, secret⟩ := (fresh_of_allocated cbc allocated).store
  exact ⟨header, [], filling, xtsKey, layout, secret, .nil _⟩

section Calls

variable {ssl : OpenSsl} {path password key : CString} {value : Value} {size : Nat} {file : File}
  {header : Header} {records tail : List UInt8} {xtsKey : Bytes padlockXtsKeySize}
  {log : List Entry}

/-- A file that begins with an accepted header of known secret opens. -/
theorem opens_of_bytes (accepted : header.accepted = true)
    (secret : decryptSecret ssl password header = some (some xtsKey)) {rest : List UInt8}
    (bytes : file.bytes = (headerBytes header).toList ++ rest) :
    Opens ssl password file header xtsKey := by
  refine ⟨?_, secret⟩
  have read : Span.read 0 padlockHeaderSize file.bytes = (headerBytes header).toList :=
    Span.read_between (bytes.trans (List.nil_append _).symm) rfl (length_headerBytes header)
  rw [readAt_eq_some.mpr read, Option.bind_some, headerOfBuffer_headerBytes, if_pos accepted]

theorem runOn_get_of_layout (blockwise : ssl.XtsBlockwise)
    (layout : Layout size file header records tail)
    (secret : decryptSecret ssl password header = some (some xtsKey))
    (all : EncryptsAll ssl xtsKey padlockHeaderSize records log) :
    runOn (callGet ssl path password key) file =
      some ((latest log key.bytes).map Found.ofValue, file) := by
  have parses : Parses ssl xtsKey file header.writeOffset.toNat padlockHeaderSize log := by
    rw [layout.writeOffset]
    exact ⟨_, all.leads layout.parts (length_headerBytes header) le_rfl, by omega⟩
  have scanned := runOn_scan_of_parses key blockwise parses
    (rfl : UInt64.toNat 4096 = padlockHeaderSize) (by decide) none
  rw [callGet, runOn_padlockGet ⟨layout.readAt_header, secret⟩ scanned, Option.or_none]
  rfl

/-- A get on a store returns the last value of its key and changes nothing. -/
theorem Stored.runOn_get (stored : Stored ssl password size file log)
    (blockwise : ssl.XtsBlockwise) :
    runOn (callGet ssl path password key) file =
      some ((latest log key.bytes).map Found.ofValue, file) := by
  obtain ⟨header, records, tail, xtsKey, layout, secret, all⟩ := stored.parts
  exact runOn_get_of_layout blockwise layout secret all

/-! A set on a store adds its pair exactly when the log has room for it. -/

theorem xtsEncrypt_of_cryptXts {offset : UInt64} {length : Nat} {input output : Bytes length}
    (encrypted : cryptXts ssl true xtsKey offset input = some output) :
    ssl.xtsEncrypt xtsKey (xtsTweak offset) input.toList = some output.toList := by
  unfold cryptXts at encrypted
  split at encrypted
  · split at encrypted
    · rename_i given givenEq
      split at encrypted
      · rw [← Option.some.inj encrypted]
        exact givenEq
      · cases encrypted
    · cases encrypted
  · cases encrypted

/-- A record within the limit of the cipher laws stays within it when it is padded. -/
theorem padded_small {length : Nat} (small : length ≤ 2 ^ 24) : padded length ≤ 2 ^ 24 := by
  unfold padded
  omega

/-- Under the cipher laws a set that has room decides to append. -/
theorem appendFor_of_room (inverts : ssl.XtsInverts)
    (secret : decryptSecret ssl password header = some (some xtsKey))
    (short : key.bytes.length ≤ 255) (small : recordLength key.bytes value.bytes ≤ 2 ^ 24)
    (room : header.writeOffset.toNat + padded (recordLength key.bytes value.bytes) ≤
      header.totalSize.toNat) :
    ∃ append, appendFor ssl password key value header = some (some append) := by
  have lengthNat := align16_plainLength short small
  have enough := le_padded (recordLength key.bytes value.bytes)
  have bound := padded_lt (recordLength key.bytes value.bytes)
  have positive := padded_recordLength_pos key.bytes value.bytes
  have inside : ¬ (align16 (plainLength key value) < 16 ∨
      header.writeOffset + align16 (plainLength key value) > header.totalSize) := by
    have total := header.totalSize.toNat_lt
    rw [lt_sixteen_iff, gt_iff_lt, UInt64.lt_iff_toNat_lt, UInt64.toNat_add, lengthNat]
    omega
  obtain ⟨plain, built, -⟩ :=
    buildRecord_eq key value (by rw [lengthNat]; exact enough :
      recordLength key.bytes value.bytes ≤ (align16 (plainLength key value)).toNat)
  obtain ⟨cipher, encrypted, cipherLength, -⟩ := inverts xtsKey (xtsTweak header.writeOffset)
    plain.toList
    (by rw [← List.length_pos_iff, plain.lengthEq]; omega)
    (by rw [plain.lengthEq]; exact dvd_align16 _)
    (by rw [plain.lengthEq, lengthNat]; exact padded_small small)
  rw [plain.lengthEq] at cipherLength
  have crypted : cryptXts ssl true xtsKey header.writeOffset plain =
      some ⟨cipher, cipherLength⟩ := by
    rw [cryptXts, if_pos (by omega)]
    simp only [if_true, encrypted, dif_pos cipherLength]
  simp only [appendFor, secret, Option.bind_eq_bind, Option.bind_some, if_neg inside, built,
    crypted, Option.pure_def, Option.some.injEq, exists_eq']

theorem appendFor_of_full
    (secret : decryptSecret ssl password header = some (some xtsKey))
    (short : key.bytes.length ≤ 255) (small : recordLength key.bytes value.bytes ≤ 2 ^ 24)
    (low : header.writeOffset.toNat < 2 ^ 63)
    (full : header.totalSize.toNat <
      header.writeOffset.toNat + padded (recordLength key.bytes value.bytes)) :
    appendFor ssl password key value header = some none := by
  have lengthNat := align16_plainLength short small
  have bound := padded_lt (recordLength key.bytes value.bytes)
  have outside : align16 (plainLength key value) < 16 ∨
      header.writeOffset + align16 (plainLength key value) > header.totalSize := by
    right
    rw [gt_iff_lt, UInt64.lt_iff_toNat_lt, UInt64.toNat_add, lengthNat]
    omega
  simp only [appendFor, secret, Option.bind_eq_bind, Option.bind_some, if_pos outside,
    Option.pure_def]

/-- A decided append holds its record. -/
theorem Decided.encrypts {append : Append}
    {plain : Bytes (padded (recordLength key.bytes value.bytes))} (inverts : ssl.XtsInverts)
    (decided : Decided ssl password key value header (padded (recordLength key.bytes value.bytes))
      append xtsKey plain)
    (keySize : 0 < key.bytes.length ∧ key.bytes.length < 256)
    (small : recordLength key.bytes value.bytes ≤ 2 ^ 24) :
    Encrypts ssl xtsKey header.writeOffset.toNat append.cipher (key.bytes, value.bytes) := by
  have positive := padded_recordLength_pos key.bytes value.bytes
  have bound := padded_lt (recordLength key.bytes value.bytes)
  obtain ⟨cipher, encrypted, cipherLength, decrypted⟩ := inverts xtsKey
    (xtsTweak header.writeOffset) plain.toList
    (by rw [← List.length_pos_iff, plain.lengthEq]; omega)
    (by rw [plain.lengthEq]; exact dvd_padded _)
    (by rw [plain.lengthEq]; exact padded_small small)
  rw [xtsEncrypt_of_cryptXts decided.encrypted, Option.some.injEq] at encrypted
  subst encrypted
  refine ⟨keySize, small, decided.length, plain.toList, ?_, cipherLength.symm, ?_⟩
  · rw [UInt64.ofNat_toNat]
    exact decrypted
  · rw [decided.record]
    exact List.prefix_append ..

/-- A set that has room on a store of a log: the parts of the store, and what the set decides to
write. -/
structure Appending (ssl : OpenSsl) (password key : CString) (value : Value) (size : Nat)
    (file : File) (log : List Entry) (header : Header) (records tail : List UInt8)
    (xtsKey : Bytes padlockXtsKeySize) (append : Append) : Prop where
  layout : Layout size file header records tail
  secret : decryptSecret ssl password header = some (some xtsKey)
  all : EncryptsAll ssl xtsKey padlockHeaderSize records log
  decision : appendFor ssl password key value header = some (some append)
  fits : append.Fits header tail
  encrypts : Encrypts ssl xtsKey header.writeOffset.toNat append.cipher (key.bytes, value.bytes)

theorem Stored.appending (stored : Stored ssl password size file log) (inverts : ssl.XtsInverts)
    (small : recordLength key.bytes value.bytes ≤ 2 ^ 24)
    (room : Room size log key.bytes value.bytes) :
    ∃ header records tail xtsKey append,
      Appending ssl password key value size file log header records tail xtsKey append := by
  obtain ⟨header, records, tail, xtsKey, layout, secret, all⟩ := stored.parts
  obtain ⟨nonempty, short, inside⟩ := room
  have lengths := layout.lengths
  have sizeLt := layout.size_lt
  have writeOffset := layout.writeOffset
  have totalSize := layout.totalSize
  have allLength := all.length
  obtain ⟨append, decision⟩ := appendFor_of_room inverts secret short small (by omega)
  obtain ⟨sameKey, plain, decided⟩ := appendFor_some (align16_plainLength short small)
    (le_padded _) (by omega) decision
  obtain rfl : xtsKey = sameKey :=
    Option.some.inj (Option.some.inj (secret.symm.trans decided.secret))
  exact ⟨header, records, tail, xtsKey, append, layout, secret, all, decision,
    decided.fits layout (dvd_padded _), decided.encrypts inverts ⟨nonempty, by omega⟩ small⟩

section Appending

variable {append : Append} {next : File} {other : List UInt8}

/-- A file with the old header and records is a store of the old log. -/
theorem Appending.before
    (appending : Appending ssl password key value size file log header records tail xtsKey append)
    (same : Layout size next header records other) : Stored ssl password size next log :=
  ⟨header, records, other, xtsKey, same, appending.secret, appending.all⟩

/-- A file with the new header and records is a store of the new log. -/
theorem Appending.after
    (appending : Appending ssl password key value size file log header records tail xtsKey append)
    (grown : Layout size next append.header (records ++ append.cipher) other) :
    Stored ssl password size next (log ++ [(key.bytes, value.bytes)]) := by
  refine ⟨append.header, _, other, xtsKey, grown, ?_, appending.all.concat ?_⟩
  · rw [appending.fits.header]
    exact appending.secret
  · rw [← appending.layout.writeOffset]
    exact appending.encrypts

end Appending

theorem Stored.runOn_set_of_room (path : CString) (stored : Stored ssl password size file log)
    (inverts : ssl.XtsInverts) (small : recordLength key.bytes value.bytes ≤ 2 ^ 24)
    (room : Room size log key.bytes value.bytes) :
    ∃ final, runOn (callSet ssl path password key value) file = some (0, final) ∧
      Stored ssl password size final (log ++ [(key.bytes, value.bytes)]) := by
  obtain ⟨header, records, tail, xtsKey, append, appending⟩ :=
    stored.appending inverts small room
  obtain ⟨final, performed, grown⟩ := appending.layout.perform appending.fits
  refine ⟨final, ?_, appending.after grown⟩
  rw [appending.layout.runOn_set (by omega), performFor, appending.decision, Program.bounded_some,
    Program.done_bind]
  exact performed

/-- A set without room is refused once the header is read. -/
theorem Stored.appendFor_of_full (stored : Stored ssl password size file log)
    (small : recordLength key.bytes value.bytes ≤ 2 ^ 24)
    (good : ¬ (key.bytes.length = 0 ∨ key.bytes.length > 255))
    (full : ¬ Room size log key.bytes value.bytes) :
    ∃ header, headerIn (Span.read 0 padlockHeaderSize file.bytes) = some header ∧
      appendFor ssl password key value header = some none := by
  obtain ⟨header, records, tail, xtsKey, layout, secret, all⟩ := stored.parts
  have lengths := layout.lengths
  have sizeLt := layout.size_lt
  have writeOffset := layout.writeOffset
  have totalSize := layout.totalSize
  have allLength := all.length
  exact ⟨header, layout.headerIn_read,
    Padlock.appendFor_of_full secret (by omega) small (by omega) (by omega)⟩

theorem Stored.performFor_of_full (stored : Stored ssl password size file log)
    (small : recordLength key.bytes value.bytes ≤ 2 ^ 24)
    (good : ¬ (key.bytes.length = 0 ∨ key.bytes.length > 255))
    (full : ¬ Room size log key.bytes value.bytes) :
    performFor ssl password key value
      (headerIn (Span.read 0 padlockHeaderSize file.bytes)) = .done (-1) := by
  obtain ⟨header, read, decision⟩ := stored.appendFor_of_full small good full
  rw [read, performFor, decision, Program.bounded_some, Program.done_bind]

theorem Stored.runOn_set_of_full (stored : Stored ssl password size file log)
    (small : recordLength key.bytes value.bytes ≤ 2 ^ 24)
    (full : ¬ Room size log key.bytes value.bytes) :
    runOn (callSet ssl path password key value) file = some (-1, file) := by
  by_cases bad : key.bytes.length = 0 ∨ key.bytes.length > 255
  · exact runOn_set_badKey bad file
  · rw [runOn, onFile_padlockSet, if_neg bad, Program.run_ask, serveFile]
    dsimp only
    rw [stored.performFor_of_full small bad full, Program.run_done]

end Calls

/-! ### Whole runs -/

section Runs

variable {ssl : OpenSsl} {path password : CString} {size : Nat} {file : File} {log : List Entry}

/-- The program of a call. -/
def Call.program (ssl : OpenSsl) (path password : CString) : Call → Stdio Output
  | .set key value => do return .set (← callSet ssl path password key value)
  | .get key => do return .get (← callGet ssl path password key)

/-- Calls made one after another on a file. -/
def runCalls (ssl : OpenSsl) (path password : CString) :
    List Call → File → Option (List Output × File)
  | [], file => some ([], file)
  | call :: rest, file => do
    let (output, next) ← runOn (call.program ssl path password) file
    let (outputs, final) ← runCalls ssl path password rest next
    return (output :: outputs, final)

/-- The record of a set is one the cipher laws speak of. -/
def Call.Small : Call → Prop
  | .set key value => recordLength key.bytes value.bytes ≤ 2 ^ 24
  | .get _ => True

instance : DecidablePred Call.Small
  | .set _ _ => inferInstanceAs (Decidable (_ ≤ _))
  | .get _ => inferInstanceAs (Decidable True)

/-- One call does on a store what it does on its log. -/
theorem Stored.step (lawful : ssl.Lawful) (stored : Stored ssl password size file log)
    (call : Call) (small : call.Small) :
    ∃ final, runOn (call.program ssl path password) file =
        some ((logStep size log call).1, final) ∧
      Stored ssl password size final (logStep size log call).2 := by
  cases call with
  | set key value =>
    unfold Call.program
    rw [runOn_bind, logStep]
    split
    · rename_i room
      obtain ⟨final, returned, grown⟩ := stored.runOn_set_of_room path lawful.inverts small room
      exact ⟨final, by rw [returned]; rfl, grown⟩
    · rename_i full
      exact ⟨file, by rw [stored.runOn_set_of_full small full]; rfl, stored⟩
  | get key =>
    unfold Call.program
    rw [runOn_bind, stored.runOn_get lawful.blockwise]
    exact ⟨file, rfl, stored⟩

/-- Every run of calls does on a store what it does on its log. -/
theorem Stored.run (lawful : ssl.Lawful) (stored : Stored ssl password size file log)
    (calls : List Call) (small : ∀ call ∈ calls, call.Small) :
    ∃ final, runCalls ssl path password calls file = some ((logRun size log calls).1, final) ∧
      Stored ssl password size final (logRun size log calls).2 := by
  induction calls generalizing file log with
  | nil => exact ⟨file, rfl, stored⟩
  | cons call rest inductionHypothesis =>
    obtain ⟨next, first, storedNext⟩ := stored.step lawful call (small call List.mem_cons_self)
    obtain ⟨final, others, storedFinal⟩ := inductionHypothesis storedNext
      (fun later member => small later (List.mem_cons_of_mem _ member))
    refine ⟨final, ?_, storedFinal⟩
    rw [runCalls, first]
    simp only [Option.bind_eq_bind, Option.bind_some, others]
    rfl

/-- The store refines the log: on a file that `padlock_allocate` has created, every sequence of
sets and gets under its password returns what the log returns. A set returns 0 exactly when the
key has 1 to 255 bytes and the padded records fit the size, and a get returns the value of the
last successful set of its key. -/
theorem store_refines_log (lawful : ssl.Lawful) {allocatedSize : UInt64}
    (allocated : Allocated ssl path allocatedSize password file) (calls : List Call)
    (small : ∀ call ∈ calls, call.Small) :
    ∃ final, runCalls ssl path password calls file =
      some ((logRun allocatedSize.toNat [] calls).1, final) := by
  obtain ⟨final, run, -⟩ := (stored_of_allocated lawful.cbc allocated).run lawful calls small
  exact ⟨final, run⟩

theorem store_refines_log_sample :
    ∃ file final, Allocated standIn samplePath 8192 samplePassword file ∧
      runCalls standIn samplePath samplePassword
          [.set (sampleKey true) (sampleValue true), .get (sampleKey true),
            .get (sampleKey false)] file =
        some ([.set 0, .get (some (Found.ofValue [1, 2, 3])), .get none], final) := by
  obtain ⟨file, allocated⟩ := sample_allocated
  obtain ⟨final, ran⟩ := store_refines_log standIn_lawful allocated
    [.set (sampleKey true) (sampleValue true), .get (sampleKey true), .get (sampleKey false)]
    (by decide)
  exact ⟨file, final, allocated, ran⟩

end Runs

end Padlock
