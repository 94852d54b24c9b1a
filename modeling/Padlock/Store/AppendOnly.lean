/-
This file is about the bytes of a store over whole runs of sets, under right and
wrong passwords alike: the length of the file never changes, the records tile
the range from the header to the write offset, and what has been committed is
never written again. Of the header only the write offset changes.
-/

import Padlock.Store.Allocated

namespace Padlock

open Interaction

/-- A call of `padlock_set` with its own password. -/
structure Attempt where
  password : CString
  key : CString
  value : Value

/-- The length of the record of an attempt, before its padding. -/
def Attempt.recordLength (attempt : Attempt) : Nat :=
  Padlock.recordLength attempt.key.bytes attempt.value.bytes

def Attempt.program (ssl : OpenSsl) (path : CString) (attempt : Attempt) : Stdio Int :=
  callSet ssl path attempt.password attempt.key attempt.value

/-- Sets made one after another on a file. -/
def runSets (ssl : OpenSsl) (path : CString) : List Attempt → File → Option (List Int × File)
  | [], file => some ([], file)
  | attempt :: rest, file => do
    let (result, next) ← runOn (attempt.program ssl path) file
    let (results, final) ← runSets ssl path rest next
    return (result :: results, final)

/-- The ranges of the records that successful sets have put from an offset on. -/
def committed : Nat → List (Attempt × Int) → List (Nat × Nat)
  | _, [] => []
  | offset, (attempt, result) :: rest =>
    if result = 0 then
      (offset, padded attempt.recordLength) ::
        committed (offset + padded attempt.recordLength) rest
    else committed offset rest

/-- The shape of a store: its length is its size, the header is accepted, and the records tile
the range from the header to the write offset, each with a tweak of its own. -/
structure Shape (size : Nat) (file : File) (header : Header) (ranges : List (Nat × Nat)) :
    Prop where
  length : file.bytes.length = size
  headerRead : (file.readAt 0 padlockHeaderSize).bind headerOfBuffer = some header
  totalSize : header.totalSize.toNat = size
  blocks : 16 ∣ header.writeOffset.toNat
  low : padlockHeaderSize ≤ header.writeOffset.toNat
  high : header.writeOffset.toNat ≤ size
  covers : ∀ index, padlockHeaderSize ≤ index ∧ index < header.writeOffset.toNat ↔
    ∃ range ∈ ranges, range.1 ≤ index ∧ index < range.1 + range.2
  disjoint : ranges.Pairwise fun first second => first.1 + first.2 ≤ second.1
  tweaks : ranges.Pairwise fun first second =>
    xtsTweak (UInt64.ofNat first.1) ≠ xtsTweak (UInt64.ofNat second.1)

/-- A later file of a store: what was committed is as it was, and so is the header up to its
write offset. -/
structure Extends (file : File) (header : Header) (next : File) (nextHeader : Header) : Prop where
  offset : header.writeOffset.toNat ≤ nextHeader.writeOffset.toNat
  sameHeader : nextHeader = { header with writeOffset := nextHeader.writeOffset }
  bytes : ∀ index, index < header.writeOffset.toNat → ¬ (32 ≤ index ∧ index < 40) →
    next.bytes[index]? = file.bytes[index]?

theorem Extends.refl (file : File) (header : Header) : Extends file header file header :=
  ⟨le_rfl, rfl, fun _ _ _ => rfl⟩

theorem Extends.trans {file middle final : File} {header middleHeader finalHeader : Header}
    (first : Extends file header middle middleHeader)
    (second : Extends middle middleHeader final finalHeader) :
    Extends file header final finalHeader := by
  refine ⟨first.offset.trans second.offset, ?_, ?_⟩
  · rw [second.sameHeader, first.sameHeader]
  · intro index below outside
    rw [second.bytes index (below.trans_le first.offset) outside, first.bytes index below outside]

/-! ### One set -/

section Step

variable {ssl : OpenSsl} {path : CString} {size : Nat} {file : File} {header : Header}
  {records tail : List UInt8}

/-- An append changes nothing outside the new record and the write offset. -/
theorem Layout.unchanged {final : File} {cipher : List UInt8} {writeOffset : UInt64}
    (layout : Layout size file header records tail)
    (grown : Layout size final { header with writeOffset } (records ++ cipher)
      (tail.drop cipher.length)) {index : Nat}
    (outsideRecord : ¬ (header.writeOffset.toNat ≤ index ∧
      index < header.writeOffset.toNat + cipher.length))
    (outsideOffset : ¬ (32 ≤ index ∧ index < 40)) :
    final.bytes[index]? = file.bytes[index]? := by
  rw [layout.writeOffset] at outsideRecord
  rw [grown.parts, layout.parts, List.append_assoc records]
  refine Span.getElem?_replace ?_ ?_ ?_
  · rw [length_headerBytes, length_headerBytes]
  · intro _
    exact getElem?_headerBytes header writeOffset outsideOffset
  · rw [length_headerBytes]
    exact outsideRecord

/-- The outcome of one attempt on a store. -/
theorem Layout.attempt (path : CString) (layout : Layout size file header records tail)
    (shrinks : ssl.CbcShrinks) (attempt : Attempt) (small : attempt.recordLength ≤ 2 ^ 24) :
    runOn (attempt.program ssl path) file = some (-1, file) ∨
      ∃ final nextHeader cipher rest, runOn (attempt.program ssl path) file = some (0, final) ∧
        Layout size final nextHeader (records ++ cipher) rest ∧
        cipher.length = padded attempt.recordLength ∧ Extends file header final nextHeader ∧
        ∀ index, ¬ (header.writeOffset.toNat ≤ index ∧
            index < header.writeOffset.toNat + cipher.length) → ¬ (32 ≤ index ∧ index < 40) →
          final.bytes[index]? = file.bytes[index]? := by
  obtain refused | ⟨append, xtsKey, plain, final, decided, returned, grown⟩ :=
    layout.set_cases path attempt.password shrinks small
  · exact .inl refused
  · have fits := decided.fits layout (dvd_padded _)
    rw [fits.header] at grown
    have unchanged : ∀ index, ¬ (header.writeOffset.toNat ≤ index ∧
        index < header.writeOffset.toNat + append.cipher.length) → ¬ (32 ≤ index ∧ index < 40) →
        final.bytes[index]? = file.bytes[index]? :=
      fun index => layout.unchanged grown
    refine .inr ⟨final, _, append.cipher, _, returned, grown, decided.length,
      ⟨?_, rfl, ?_⟩, unchanged⟩
    · rw [grown.writeOffset, layout.writeOffset, List.length_append]
      omega
    · intro index below outside
      exact unchanged index (by omega) outside

end Step

/-! ### Whole runs -/

/-- Offsets at least a block apart have different tweaks. -/
theorem xtsTweak_ne {first second : Nat} (apart : first + 16 ≤ second) (low : second < 2 ^ 64) :
    xtsTweak (UInt64.ofNat first) ≠ xtsTweak (UInt64.ofNat second) := by
  intro same
  have bytes := congrArg (fun tweak => getU64 (Span.read 0 8 tweak.toList)) same
  have block (offset : UInt64) : Span.read 0 8 (xtsTweak offset).toList = putU64 (offset / 16) :=
    Span.read_between (List.nil_append _).symm rfl (length_putU64 _)
  have sixteen : UInt64.toNat 16 = 16 := rfl
  simp only [block, getU64_putU64] at bytes
  have numbers := congrArg UInt64.toNat bytes
  rw [UInt64.toNat_div, UInt64.toNat_div, UInt64.toNat_ofNat', UInt64.toNat_ofNat',
    sixteen] at numbers
  omega

section Runs

variable {ssl : OpenSsl} {path : CString} {size : Nat} {file : File} {header : Header}
  {records tail : List UInt8}

/-- The lengths of committed records. -/
theorem le_of_mem_committed {offset : Nat} {outcomes : List (Attempt × Int)} {range : Nat × Nat}
    (member : range ∈ committed offset outcomes) : 16 ≤ range.2 := by
  induction outcomes generalizing offset with
  | nil => cases member
  | cons outcome rest inductionHypothesis =>
    rw [committed] at member
    split at member
    · obtain rfl | later := List.mem_cons.mp member
      · exact padded_recordLength_pos ..
      · exact inductionHypothesis later
    · exact inductionHypothesis member

/-- A store whose committed records tile its range has the shape of a store. -/
theorem Layout.shape (layout : Layout size file header records tail)
    {outcomes : List (Attempt × Int)}
    (tiles : Span.Tiles padlockHeaderSize header.writeOffset.toNat
      (committed padlockHeaderSize outcomes)) :
    Shape size file header (committed padlockHeaderSize outcomes) := by
  have lengths := layout.lengths
  have sizeLt := layout.size_lt
  have writeOffset := layout.writeOffset
  refine ⟨layout.length, layout.readAt_header, layout.totalSize, ?_, by omega, by omega,
    tiles.covers, tiles.pairwise.imp And.left, ?_⟩
  · rw [writeOffset]
    exact Nat.dvd_add (by decide) layout.blocks
  · refine tiles.pairwise.imp_of_mem ?_
    rintro first second firstMember secondMember ⟨before, -⟩
    have long := le_of_mem_committed firstMember
    have longer := le_of_mem_committed secondMember
    have inside := ((tiles.covers second.1).mpr ⟨second, secondMember, le_rfl, by omega⟩).2
    exact xtsTweak_ne (by omega) (by omega)

/-- A run of sets keeps the layout, extends the store, and commits consecutive ranges. -/
theorem Layout.sets (path : CString) (layout : Layout size file header records tail)
    (shrinks : ssl.CbcShrinks) (attempts : List Attempt)
    (small : ∀ attempt ∈ attempts, attempt.recordLength ≤ 2 ^ 24) :
    ∃ results final finalHeader finalRecords rest,
      runSets ssl path attempts file = some (results, final) ∧
      Layout size final finalHeader finalRecords rest ∧
      Extends file header final finalHeader ∧
      Span.Tiles header.writeOffset.toNat finalHeader.writeOffset.toNat
        (committed header.writeOffset.toNat (attempts.zip results)) := by
  induction attempts generalizing file header records tail with
  | nil => exact ⟨[], file, header, records, tail, rfl, layout, .refl _ _, .nil _⟩
  | cons attempt others inductionHypothesis =>
    have smallOthers : ∀ later ∈ others, later.recordLength ≤ 2 ^ 24 :=
      fun later member => small later (List.mem_cons_of_mem _ member)
    obtain refused | ⟨next, nextHeader, cipher, rest, returned, grown, cipherLength, extended, -⟩ :=
      layout.attempt path shrinks attempt (small attempt List.mem_cons_self)
    · obtain ⟨results, final, finalHeader, finalRecords, rest, run, finished, extended, tiles⟩ :=
        inductionHypothesis layout smallOthers
      refine ⟨-1 :: results, final, finalHeader, finalRecords, rest, ?_, finished, extended, ?_⟩
      · simp only [runSets, refused, Option.bind_eq_bind, Option.bind_some, run, Option.pure_def]
      · rw [List.zip_cons_cons, committed, if_neg (by decide)]
        exact tiles
    · obtain ⟨results, final, finalHeader, finalRecords, rest, run, finished, further, tiles⟩ :=
        inductionHypothesis grown smallOthers
      refine ⟨0 :: results, final, finalHeader, finalRecords, rest, ?_, finished,
        extended.trans further, ?_⟩
      · simp only [runSets, returned, Option.bind_eq_bind, Option.bind_some, run, Option.pure_def]
      · have positive := padded_recordLength_pos attempt.key.bytes attempt.value.bytes
        have moved : nextHeader.writeOffset.toNat =
            header.writeOffset.toNat + padded attempt.recordLength := by
          rw [grown.writeOffset, layout.writeOffset, List.length_append, cipherLength,
            Nat.add_assoc]
        rw [List.zip_cons_cons, committed, if_pos rfl]
        refine .cons (by unfold Attempt.recordLength; omega) ?_
        rw [← moved]
        exact tiles

/-- The store is append-only and of fixed size, byte for byte. After any sets on an allocated
file, whatever their passwords, the file has the shape of a store; the next set either changes
nothing or only bytes of its own new range and of the write offset; and whatever sets follow,
the committed records and the rest of the header stay as they are. -/
theorem sets_append_only (cbc : ssl.CbcInverts) (shrinks : ssl.CbcShrinks) {password : CString}
    {allocatedSize : UInt64} (allocated : Allocated ssl path allocatedSize password file)
    (before after : List Attempt) (attempt : Attempt)
    (small : ∀ each ∈ before ++ attempt :: after, each.recordLength ≤ 2 ^ 24) :
    ∃ results reached header, runSets ssl path before file = some (results, reached) ∧
      Shape allocatedSize.toNat reached header
        (committed padlockHeaderSize (before.zip results)) ∧
      ∃ result next nextHeader, runOn (attempt.program ssl path) reached = some (result, next) ∧
        (next.readAt 0 padlockHeaderSize).bind headerOfBuffer = some nextHeader ∧
        (result = 0 ∧ nextHeader.writeOffset.toNat =
              header.writeOffset.toNat + padded attempt.recordLength ∧
            (∀ index, ¬ (header.writeOffset.toNat ≤ index ∧
              index < nextHeader.writeOffset.toNat) → ¬ (32 ≤ index ∧ index < 40) →
              next.bytes[index]? = reached.bytes[index]?) ∨
          result = -1 ∧ next = reached) ∧
        ∃ laterResults final finalHeader,
          runSets ssl path after next = some (laterResults, final) ∧
          (final.readAt 0 padlockHeaderSize).bind headerOfBuffer = some finalHeader ∧
          Extends next nextHeader final finalHeader := by
  obtain ⟨startHeader, filling, xtsKey, layout, -⟩ := (fresh_of_allocated cbc allocated).store
  obtain ⟨results, reached, header, records, tail, run, reachedLayout, -, tiles⟩ :=
    layout.sets path shrinks before
      (fun each member => small each (List.mem_append_left _ member))
  rw [layout.writeOffset, List.length_nil, Nat.add_zero] at tiles
  have smallAfter : ∀ each ∈ after, each.recordLength ≤ 2 ^ 24 := fun each member =>
    small each (List.mem_append_right _ (List.mem_cons_of_mem _ member))
  refine ⟨results, reached, header, run, reachedLayout.shape tiles, ?_⟩
  obtain refused | ⟨next, nextHeader, cipher, rest, returned, grown, cipherLength, -, unchanged⟩ :=
    reachedLayout.attempt path shrinks attempt
      (small attempt (List.mem_append_right _ List.mem_cons_self))
  · obtain
      ⟨laterResults, final, finalHeader, finalRecords, rest, laterRun, finished, extended, -⟩ :=
      reachedLayout.sets path shrinks after smallAfter
    exact ⟨-1, reached, header, refused, reachedLayout.readAt_header, .inr ⟨rfl, rfl⟩, laterResults,
      final, finalHeader, laterRun, finished.readAt_header, extended⟩
  · obtain
      ⟨laterResults, final, finalHeader, finalRecords, rest, laterRun, finished, extended, -⟩ :=
      grown.sets path shrinks after smallAfter
    have moved : nextHeader.writeOffset.toNat = header.writeOffset.toNat + cipher.length := by
      rw [grown.writeOffset, reachedLayout.writeOffset, List.length_append, Nat.add_assoc]
    rw [← moved] at unchanged
    exact ⟨0, next, nextHeader, returned, grown.readAt_header,
      .inl ⟨rfl, by rw [moved, cipherLength], unchanged⟩, laterResults, final, finalHeader,
      laterRun, finished.readAt_header, extended⟩

theorem sets_append_only_sample :
    ∃ file results reached header, Allocated standIn samplePath 8192 samplePassword file ∧
      runSets standIn samplePath [⟨samplePassword, sampleKey true, sampleValue true⟩,
        ⟨samplePath, sampleKey false, sampleValue false⟩] file = some (results, reached) ∧
      Shape 8192 reached header (committed padlockHeaderSize
        ([⟨samplePassword, sampleKey true, sampleValue true⟩,
          ⟨samplePath, sampleKey false, sampleValue false⟩].zip results)) := by
  obtain ⟨file, allocated⟩ := sample_allocated
  obtain ⟨results, reached, header, ran, shape, -⟩ := sets_append_only standIn_cbcInverts
    standIn_cbcShrinks allocated
    [⟨samplePassword, sampleKey true, sampleValue true⟩,
      ⟨samplePath, sampleKey false, sampleValue false⟩] []
    ⟨samplePassword, sampleKey false, sampleValue false⟩ (by decide)
  exact ⟨file, results, reached, header, allocated, ran, shape⟩

end Runs

end Padlock
