/-
This file proves that the 64-bit offsets of the store do not wrap. Total size
and write offset come from a header that nobody has authenticated, so the sums
that `padlock_set` and the scan of `padlock_get` form may be taken close to
2^64. What keeps them from wrapping is the seek: it refuses an offset that is
negative as an `off_t`, so whatever is built on an offset that was read or
written stays far below.

The calls run here over streams and a heap that may fail at any request.
-/

import Padlock.Store.Codec
import Padlock.Store.Bounds
import Padlock.Store.Copies
import Padlock.Store.Log

namespace Padlock

open Interaction

/-- Streams and heap over a file where every request may fail: a file may not open, a block may
not be had, a read may come short and a write may end early. -/
def fallible : Surroundings Request Response File
  | .seekRead offset count, file, bytes, next =>
    bytes <+: Span.read offset count file.bytes ∧ next = file
  | .seekWrite offset data, file, written, next =>
    (written = 0 ∧ next = file) ∨
      (written ≤ data.length ∧ ∃ room : offset + (data.take written).length < 2 ^ 63,
        next = file.write offset (data.take written) room)
  | _, file, _, next => next = file

/-- A run in which nothing fails is one of its executions. -/
theorem exec_of_runOn {Result : Type} {program : Stdio Result} {file final : File}
    {result : Result} (ran : runOn program file = some (result, final)) :
    Program.Exec fallible program file result final := by
  induction program generalizing file with
  | done returned =>
    rw [runOn_done, Option.some.injEq, Prod.mk.injEq] at ran
    rw [← ran.1, ← ran.2]
    exact .done _ _
  | ask asked rest inductionHypothesis =>
    cases asked with
    | seekRead offset count =>
      have served : runOn (.ask (.seekRead offset count) rest) file =
          runOn (rest (Span.read offset count file.bytes)) file := rfl
      rw [served] at ran
      exact .ask ⟨List.prefix_refl _, rfl⟩ (inductionHypothesis _ ran)
    | seekWrite offset data =>
      have served : runOn (.ask (.seekWrite offset data) rest) file =
          runOn (rest (serveFile (.write offset data) file).1)
            (serveFile (.write offset data) file).2 := rfl
      rw [served] at ran
      refine .ask ?_ (inductionHypothesis _ ran)
      by_cases room : offset + data.length < 2 ^ 63
      · have whole : offset + (data.take data.length).length < 2 ^ 63 := by
          rw [List.take_length]
          exact room
        simp only [serveFile, dif_pos room]
        refine .inr ⟨le_rfl, whole, ?_⟩
        simp only [List.take_length]
      · simp only [serveFile, dif_neg room]
        exact .inl ⟨rfl, rfl⟩
    | fopen path mode => exact .ask rfl (inductionHypothesis true ran)
    | fclose => exact .ask rfl (inductionHypothesis true ran)
    | malloc size => exact .ask rfl (inductionHypothesis true ran)
    | free block => exact .ask rfl (inductionHypothesis () ran)
  | wrong => cases ran

theorem eq_of_isPrefix_read {offset count : Nat} {bytes items : List UInt8}
    (short : bytes <+: Span.read offset count items) (full : bytes.length = count) :
    bytes = Span.read offset count items := by
  apply short.eq_of_length_le
  rw [Span.length_read, full]
  exact Nat.min_le_left ..

/-! ### The header a set commits -/

section Set

variable {ssl : OpenSsl} {path password key : CString} {value : Value}

theorem headerIn_of_runOn {file : File} {header : Header}
    (read : runOn readHeader file = some (some header, file)) :
    headerIn (Span.read 0 padlockHeaderSize file.bytes) = some header := by
  rw [runOn_readHeader, Option.some.injEq, Prod.mk.injEq] at read
  exact headerIn_of_readAt read.1

/-- A header that was read in full is the header of the file. -/
theorem fallible_readHeader {file next : File} {header : Header}
    (execution : Program.Exec fallible readHeader file (some header) next) :
    headerIn (Span.read 0 padlockHeaderSize file.bytes) = some header ∧ next = file := by
  obtain ⟨bytes, ⟨short, unchanged⟩, decoded⟩ := exec_readHeader.mp execution
  refine ⟨?_, unchanged⟩
  rw [← eq_of_isPrefix_read short (length_of_headerIn decoded.symm), ← decoded]

/-- A write that was taken in full has changed the file as a whole. -/
theorem fallible_seekWrite {offset : UInt64} {data : List UInt8} {file next : File}
    (nonempty : data ≠ [])
    (execution : Program.Exec fallible (seekWrite offset data) file true next) :
    offset.toNat < 2 ^ 63 ∧ next.bytes = Span.write 0 offset.toNat data file.bytes := by
  obtain ⟨low, answered⟩ := exec_seekWrite.mp execution
  refine ⟨low, ?_⟩
  obtain ⟨none, -⟩ | ⟨-, room, rfl⟩ := answered
  · exact absurd (List.length_eq_zero_iff.mp none) nonempty
  · simp only [File.write, List.take_length]

theorem fallible_freeBlocks {first second : Option Block} {file final : File} {result : Unit}
    (execution : Program.Exec fallible (do
      freeBlock first
      freeBlock second) file result final) : final = file := by
  obtain ⟨_, middle, freeing, freeingMore⟩ := Program.exec_bind.mp execution
  have free {block : Option Block} {before after : File} {result : Unit}
      (execution : Program.Exec fallible (freeBlock block) before result after) :
      after = before := by
    cases block with
    | none => exact (Program.exec_done.mp execution).2
    | some block => exact Program.exec_request.mp execution
  rw [free freeingMore, free freeing]

theorem headerBytes_ne_nil (header : Header) : (headerBytes header).toList ≠ [] := by
  intro none
  have size := (headerBytes header).lengthEq
  rw [none] at size
  cases size

/-- What stays of a set that returned 0: the file as its two writes left it. -/
theorem fallible_padlockSet {file final : File}
    (execution : Program.Exec fallible
      (padlockSet ssl (some path) (some password) (some key) (some value)) file 0 final) :
    key.bytes.length ≤ 255 ∧ ∃ header append,
      Stores fallible ssl password key value file header append final := by
  by_cases bad : key.bytes.length = 0 ∨ key.bytes.length > 255
  · simp only [padlockSet, if_pos bad] at execution
    cases (Program.exec_done.mp execution).1
  rw [not_or, Nat.not_lt] at bad
  obtain ⟨-, failed⟩ | ⟨finish, opened, stored, opening, storing, ⟨reported, closed, closing,
    freeing⟩, returned⟩ := (exec_padlockSet bad.1 bad.2).mp execution
  · cases failed
  obtain rfl : opened = file := opening
  obtain rfl : closed = stored := closing
  have kept := fallible_freeBlocks freeing
  obtain failed | ⟨-, header, append, stores⟩ := exec_setStore storing
  · rw [failed] at returned
    cases returned
  · rw [kept]
    exact ⟨bad.2, header, append, stores⟩

/-- The header after a set that returned 0, on a file whose header is accepted, whatever total size
and write offset it claims: the write offset has moved by the length of the record in whole blocks,
without wrapping and to no more than the total size, nothing else has changed, and the header is
accepted again. The final file has all that the writes took; when the stream still has to flush some
of it as it is closed, `returned_zero_landed_iff` says when it gets there. -/
theorem set_commits_without_wrap {file final : File} {header : Header}
    (accepted : runOn readHeader file = some (some header, file))
    (small : 5 + key.bytes.length + value.bytes.length ≤ 2 ^ 24)
    (execution : Program.Exec fallible
      (padlockSet ssl (some path) (some password) (some key) (some value)) file 0 final) :
    ∃ next : Header,
      runOn readHeader final = some (some next, final) ∧
        next.writeOffset.toNat =
          header.writeOffset.toNat + padded (5 + key.bytes.length + value.bytes.length) ∧
        next.writeOffset.toNat ≤ header.totalSize.toNat ∧
        next.totalSize = header.totalSize ∧ next.salt = header.salt ∧ next.iv = header.iv ∧
        next.encryptedSecret = header.encryptedSecret ∧
        next.encryptedSecretSize = header.encryptedSecretSize := by
  obtain ⟨short, read, append, decision, read, first, second, written, reading, allocating,
    allocatingMore, writing, committing⟩ := fallible_padlockSet execution
  obtain ⟨found, rfl⟩ := fallible_readHeader reading
  obtain rfl := Option.some.inj ((headerIn_of_runOn accepted).symm.trans found)
  obtain rfl : first = read := allocating
  obtain rfl : second = first := allocatingMore
  -- the seek to the write offset has succeeded, so the offset lies below 2^63
  have low := (exec_seekWrite.mp writing).1
  rw [(hasRoom_of_appendFor decision).2] at low
  obtain ⟨xtsKey, plain, decided⟩ := appendFor_some (align16_plainLength short small)
    (le_padded _) low decision
  have room := decided.room
  have length : padded (recordLength key.bytes value.bytes) < 2 ^ 25 := by
    have := padded_lt (recordLength key.bytes value.bytes)
    unfold recordLength at this ⊢
    omega
  have moved : append.header.writeOffset.toNat =
      header.writeOffset.toNat + padded (recordLength key.bytes value.bytes) := by
    have small : (UInt64.ofNat (padded (recordLength key.bytes value.bytes))).toNat =
        padded (recordLength key.bytes value.bytes) := by
      rw [UInt64.toNat_ofNat']
      omega
    rw [decided.header, UInt64.toNat_add, small]
    omega
  have limits := (header.accepted_iff).mp (accepted_of_headerIn found)
  have again : append.header.accepted = true := by
    rw [append.header.accepted_iff, moved, decided.header]
    dsimp only
    omega
  have rewritten := (fallible_seekWrite (headerBytes_ne_nil append.header) committing).2
  refine ⟨append.header, ?_, moved, by omega, ?_⟩
  · rw [runOn_readHeader_append (headerBytes append.header) (rewritten.trans (write_start _ _)),
      headerOfBuffer_headerBytes, if_pos again]
  · rw [decided.header]
    exact ⟨rfl, rfl, rfl, rfl, rfl⟩

theorem set_commits_without_wrap_sample :
    ∃ file final header next,
      runOn readHeader file = some (some header, file) ∧
        Program.Exec fallible (padlockSet standIn (some samplePath) (some samplePassword)
          (some (sampleKey true)) (some (sampleValue true))) file 0 final ∧
        runOn readHeader final = some (some next, final) ∧
        next.writeOffset.toNat = header.writeOffset.toNat + 16 ∧
        next.writeOffset.toNat ≤ header.totalSize.toNat := by
  obtain ⟨file, allocated⟩ := sample_allocated
  have stored := stored_of_allocated standIn_lawful.cbc allocated
  obtain ⟨final, ran, -⟩ := stored.runOn_set_of_room samplePath standIn_lawful.inverts
    (by decide : recordLength (sampleKey true).bytes (sampleValue true).bytes ≤ 2 ^ 24) (by decide)
  obtain ⟨header, records, tail, xtsKey, layout, -⟩ := stored.parts
  have read : runOn readHeader file = some (some header, file) := by
    rw [runOn_readHeader, layout.readAt_header]
  obtain ⟨next, readNext, moved, inside, -⟩ :=
    set_commits_without_wrap read (by decide) (exec_of_runOn ran)
  exact ⟨file, final, header, next, read, exec_of_runOn ran, readNext, moved, inside⟩

end Set

/-! ### The offsets of a scan -/

/-- What a round that goes on has checked: the seek to its offset was allowed, and the next offset
lies at least a block and less than 2^32 above, and not past the write offset. -/
def Round.Moves (header : Header) {offset : UInt64} : Round offset → Prop
  | .done _ => True
  | .next following _ _ =>
    offset.toNat < 2 ^ 63 ∧ following.toNat ≤ header.writeOffset.toNat ∧
      ∃ step, 16 ≤ step ∧ step < 2 ^ 32 ∧ following.toNat = offset.toNat + step

section Scan

variable (ssl : OpenSsl) (xtsKey : Bytes padlockXtsKeySize) (header : Header) (key : CString)

variable {header key}

theorem RoundEnds.moves {offset : UInt64} {found : Option Found} {round : Round offset}
    (ends : RoundEnds header key offset found round) : round.Moves header := by
  cases ends with
  | done => trivial
  | @next keySize valueLength seekable inside above after held =>
    have bound := align16_lt (entryLength keySize valueLength)
    obtain ⟨enough, within⟩ := not_or.mp inside
    rw [lt_sixteen_iff] at enough
    have sum := UInt64.le_iff_toNat_le.mp (UInt64.not_lt.mp within)
    refine ⟨seekable, sum, (align16 (entryLength keySize valueLength)).toNat, by omega, bound, ?_⟩
    rw [UInt64.toNat_add]
    omega

variable (header key)

/-- The loop of `scan` with a bound on the number of its rounds; `none` when they do not suffice.
It is the loop of the source as it stands: nothing here says that the offset goes up. -/
def scanWithin : Nat → UInt64 → Option Found → Stdio (Option ScanEnd)
  | 0, offset, found =>
    return if offset + 16 ≤ header.writeOffset then none else some { found, complete := true }
  | rounds + 1, offset, found => do
    if offset + 16 ≤ header.writeOffset then
      match ← scanRound ssl xtsKey header key offset found with
      | .done found => return some { found, complete := false }
      | .next following _ found => scanWithin rounds following found
    else
      return some { found, complete := true }

theorem room_toNat {offset : UInt64} (below : offset.toNat < 2 ^ 63 + 2 ^ 32) :
    offset + 16 ≤ header.writeOffset ↔ offset.toNat + 16 ≤ header.writeOffset.toNat := by
  have sixteen : UInt64.toNat 16 = 16 := rfl
  rw [UInt64.le_iff_toNat_le, UInt64.toNat_add, sixteen]
  omega

/-- Rounds enough for steps of a block each are enough for the scan. -/
theorem scanWithin_eq_scan {rounds : Nat} {offset : UInt64} (found : Option Found)
    (below : offset.toNat < 2 ^ 63 + 2 ^ 32)
    (enough : header.writeOffset.toNat < offset.toNat + 16 * (rounds + 1)) :
    scanWithin ssl xtsKey header key rounds offset found =
      (scan ssl xtsKey header key offset found >>= fun finish => .done (some finish)) := by
  induction rounds generalizing offset found with
  | zero =>
    have room : ¬ offset + 16 ≤ header.writeOffset := by
      rw [room_toNat header below]
      omega
    rw [scanWithin, scan, if_neg room, if_neg room]
    rfl
  | succ rounds inductionHypothesis =>
    rw [scanWithin, scan]
    split
    · rw [Program.bind_assoc]
      refine (returns_scanRound ssl xtsKey header key offset found).bind_congr ?_
      intro round ends
      have moves := ends.moves
      cases round with
      | done found => rfl
      | next following above found =>
        obtain ⟨seekable, -, step, block, short, followingEq⟩ := moves
        exact inductionHypothesis found (by omega) (by omega)
    · rfl

/-- The scan comes to an offset with a copy in its hands, over a file whose reads and blocks may
fail. -/
inductive Visits (file : File) : UInt64 → Option Found → Prop
  | initial : Visits file (UInt64.ofNat padlockHeaderSize) none
  | next {offset following : UInt64} {above : offset < following} {found kept : Option Found}
      (earlier : Visits file offset found) (room : offset + 16 ≤ header.writeOffset)
      (round : Program.Exec fallible (scanRound ssl xtsKey header key offset found) file
        (.next following above kept) file) : Visits file following kept

variable {ssl xtsKey header key}

theorem Visits.bounds {file : File} {offset : UInt64} {found : Option Found}
    (accepted : header.accepted = true) (visits : Visits ssl xtsKey header key file offset found) :
    4096 ≤ offset.toNat ∧ offset.toNat ≤ header.writeOffset.toNat ∧
      offset.toNat < 2 ^ 63 + 2 ^ 32 := by
  have limits := header.accepted_iff.mp accepted
  have start : (UInt64.ofNat padlockHeaderSize).toNat = 4096 := rfl
  induction visits with
  | initial => omega
  | next earlier room round inductionHypothesis =>
    obtain ⟨seekable, inside, step, block, short, followingEq⟩ :=
      ((returns_scanRound ssl xtsKey header key _ _).exec round).moves
    omega

/-- The scan of `padlock_get` on a file with an accepted header, whatever write offset it claims,
whatever the records decrypt to and whatever fails. The loop ends, after at most one round for each
block between the header and the write offset. It visits 4096 and then offsets that go up by at
least 16 and less than 2^32; none of the sums it forms on a visited offset wraps; and every range it
reads ends at or before the write offset. -/
theorem scan_ends_without_wrap {file : File}
    (accepted : runOn readHeader file = some (some header, file)) :
    (∀ rounds, header.writeOffset.toNat < 4096 + 16 * (rounds + 1) →
      scanWithin ssl xtsKey header key rounds 4096 none =
        (scan ssl xtsKey header key 4096 none >>= fun finish => .done (some finish))) ∧
    (∀ offset found, Visits ssl xtsKey header key file offset found →
      (offset = 4096 ∨ 4096 < offset.toNat) ∧
        offset.toNat + 16 < 2 ^ 64 ∧
        (∀ keySize, offset.toNat + (prefixLength keySize).toNat < 2 ^ 64) ∧
        (∀ keySize valueLength,
          offset.toNat + (align16 (entryLength keySize valueLength)).toNat < 2 ^ 64) ∧
        ∀ following above kept, Program.Exec fallible
          (scanRound ssl xtsKey header key offset found) file (.next following above kept) file →
          ∃ step, 16 ≤ step ∧ step < 2 ^ 32 ∧ following.toNat = offset.toNat + step) ∧
    (scan ssl xtsKey header key 4096 none).Asks fun asked =>
      ∀ offset count, asked = .seekRead offset count →
        4096 ≤ offset ∧ offset + count ≤ header.writeOffset.toNat := by
  have start : UInt64.toNat 4096 = 4096 := rfl
  have within := accepted_of_headerIn (headerIn_of_runOn accepted)
  refine ⟨?_, ?_, ?_⟩
  · intro rounds enough
    exact scanWithin_eq_scan ssl xtsKey header key none (by omega) enough
  · intro offset found visits
    obtain ⟨low, inside, below⟩ := visits.bounds within
    refine ⟨?_, by omega, ?_, ?_, ?_⟩
    · rw [← UInt64.toNat_inj, start]
      omega
    · intro keySize
      have := align16_lt (1 + keySize.toUInt32 + 4).toUInt64
      unfold prefixLength
      omega
    · intro keySize valueLength
      have := align16_lt (entryLength keySize valueLength)
      omega
    · intro following above kept round
      have ends := (returns_scanRound ssl xtsKey header key offset found).exec round
      exact ends.moves.2.2
  · refine (asks_scan ssl xtsKey header key (by decide) none).imp ?_
    rintro asked allowed offset count rfl
    exact allowed

theorem scan_ends_without_wrap_sample :
    ∃ file header, runOn readHeader file = some (some header, file) ∧
      header.writeOffset.toNat = 4112 ∧
      scanWithin standIn (Bytes.cleared padlockXtsKeySize) header (sampleKey true) 1 4096 none =
        (scan standIn (Bytes.cleared padlockXtsKeySize) header (sampleKey true) 4096 none >>=
          fun finish => .done (some finish)) := by
  obtain ⟨file, allocated⟩ := sample_allocated
  obtain ⟨final, -, stored⟩ :=
    (stored_of_allocated standIn_lawful.cbc allocated).runOn_set_of_room samplePath
      standIn_lawful.inverts
      (by decide : recordLength (sampleKey true).bytes (sampleValue true).bytes ≤ 2 ^ 24)
      (by decide)
  obtain ⟨header, records, tail, xtsKey, layout, -, all⟩ := stored.parts
  have read : runOn readHeader final = some (some header, final) := by
    rw [runOn_readHeader, layout.readAt_header]
  have size : records.length = 16 := all.length
  have offset : header.writeOffset.toNat = 4112 := by
    rw [layout.writeOffset, size]
    rfl
  refine ⟨final, header, read, offset, ?_⟩
  exact (scan_ends_without_wrap read).1 1 (by omega)

end Scan

end Padlock
