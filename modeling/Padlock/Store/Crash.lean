/-
This file is about sets that are stopped in the middle. The header rewrite is
the commit point: whatever part of the record has reached the file, it lies
behind the write offset, where no later call looks before it writes; and the old
and the new header differ inside one sector, so a part of whole sectors of the
rewrite leaves one or the other. What is left behind is a store of the log
before the set or of the log after it.
-/

import Padlock.Store.Log

namespace Padlock

open Interaction

/-- A request that was stopped partway. Of a write any number of bytes may have reached the file,
but of a write at the beginning of the file, where the header stands, only whole sectors. -/
def Torn : FileRequest → File → File → Prop
  | .read _ _, file, left => left = file
  | .write offset data, file, left =>
    ∃ count, count ≤ data.length ∧ (offset = 0 → 512 ∣ count) ∧
      left.bytes = Span.write 0 offset (data.take count) file.bytes

/-- The files a program can leave behind when it is stopped. -/
abbrev Interrupted {Result : Type} (program : Stdio Result) (file left : File) : Prop :=
  Program.Cut serveFile Torn (onFile program) file left

/-! ### The header rewrite -/

theorem drop_headerBytes (header : Header) (writeOffset : UInt64) {count : Nat}
    (behind : 40 ≤ count) :
    (headerBytes { header with writeOffset }).toList.drop count =
      (headerBytes header).toList.drop count := by
  obtain ⟨rest, rfl⟩ := Nat.exists_eq_add_of_le behind
  have size (offset : UInt64) : (headerFront header ++ putU64 offset).length = 40 := rfl
  have front : headerFront { header with writeOffset } = headerFront header := rfl
  have back : headerBack { header with writeOffset } = headerBack header := rfl
  rw [headerBytes_toList, headerBytes_toList, front, back, ← List.drop_drop, ← List.drop_drop,
    List.drop_left' (size writeOffset), List.drop_left' (size header.writeOffset)]

/-- A header rewrite that got past the write offset has written the whole header. -/
theorem write_part_of_header (header : Header) (writeOffset : UInt64) (rest : List UInt8)
    {count : Nat} (behind : 40 ≤ count) (within : count ≤ padlockHeaderSize) :
    Span.write 0 0 ((headerBytes { header with writeOffset }).toList.take count)
        ((headerBytes header).toList ++ rest) =
      (headerBytes { header with writeOffset }).toList ++ rest := by
  have oldSize := length_headerBytes header
  have newSize := length_headerBytes { header with writeOffset }
  have written := Span.write_append 0 []
    ((headerBytes { header with writeOffset }).toList.take count)
    ((headerBytes header).toList ++ rest)
  rw [List.nil_append, List.nil_append, List.length_nil, List.length_take, newSize,
    Nat.min_eq_left within, List.drop_append_of_le_length (by omega),
    ← drop_headerBytes header writeOffset behind, ← List.append_assoc, List.take_append_drop]
    at written
  exact written

section Cuts

variable {ssl : OpenSsl} {path password key : CString} {value : Value} {size : Nat}
  {file left : File} {header : Header} {records tail : List UInt8}

/-- What a stopped append leaves: the old store with other bytes behind it, or the new one. -/
theorem Layout.cut_perform (layout : Layout size file header records tail) {append : Append}
    (fits : append.Fits header tail)
    (cut : Program.Cut serveFile Torn append.perform file left) :
    (∃ other, Layout size left header records other) ∨
      ∃ other, Layout size left append.header (records ++ append.cipher) other := by
  have lengths := layout.lengths
  have sizeLt := layout.size_lt
  have room := fits.room
  have seekable : append.offset.toNat < 2 ^ 63 := by
    rw [fits.offset, layout.writeOffset]
    omega
  obtain ⟨middle, first, written⟩ := layout.record_written fits
  obtain ⟨final, second, committed⟩ := written.header_written fits.blocks fits.header
  rw [Append.perform, if_pos seekable] at cut
  obtain rfl | ⟨count, within, -, bytes⟩ | rest := Program.cut_ask serveFile cut
  · exact .inl ⟨tail, layout⟩
  · -- stopped in the record: it lies behind the write offset
    rw [fits.offset] at bytes
    refine .inl ⟨_, layout.tail_written ?_ bytes⟩
    rw [List.length_take]
    omega
  rw [first] at rest
  dsimp only at rest
  rw [if_pos rfl, Append.commit] at rest
  obtain rfl | ⟨count, within, sectors, bytes⟩ | rest := Program.cut_ask serveFile rest
  · exact .inl ⟨_, written⟩
  · obtain rfl | positive := Nat.eq_zero_or_pos count
    · -- stopped before the first sector: the header is the old one
      obtain rfl : left = middle := by
        refine File.ext ?_
        rw [bytes, List.take_zero, Span.write_nil 0 (Nat.zero_le _)]
      exact .inl ⟨_, written⟩
    · -- stopped behind the first sector: the header is the new one
      have sector : 512 ≤ count := Nat.le_of_dvd positive (sectors rfl)
      rw [length_headerBytes] at within
      obtain rfl : left = final := by
        refine File.ext ?_
        rw [bytes, written.parts, committed.parts, fits.header,
          write_part_of_header header _ _ (by omega) within, List.append_assoc]
      exact .inr ⟨_, committed⟩
  · rw [second] at rest
    obtain rfl := Program.cut_done serveFile rest
    exact .inr ⟨_, committed⟩

end Cuts

/-! ### Stores and their logs -/

section Stores

variable {ssl : OpenSsl} {path password key : CString} {value : Value} {size : Nat}
  {file left : File} {log : List Entry}

/-- A stopped set leaves the store of the log before it, or, when it has room, of the log after
it. -/
theorem Stored.cut (inverts : ssl.XtsInverts) (stored : Stored ssl password size file log)
    (small : recordLength key.bytes value.bytes ≤ 2 ^ 24)
    (cut : Interrupted (callSet ssl path password key value) file left) :
    Stored ssl password size left log ∨
      Room size log key.bytes value.bytes ∧
        Stored ssl password size left (log ++ [(key.bytes, value.bytes)]) := by
  unfold Interrupted at cut
  rw [onFile_padlockSet] at cut
  split at cut
  · rw [Program.cut_done serveFile cut]
    exact .inl stored
  rename_i good
  obtain rfl | rfl | rest := Program.cut_ask serveFile cut
  · exact .inl stored
  · exact .inl stored
  rw [serveFile] at rest
  dsimp only at rest
  by_cases room : Room size log key.bytes value.bytes
  · obtain ⟨header, records, tail, xtsKey, append, appending⟩ :=
      stored.appending inverts small room
    rw [appending.layout.headerIn_read, performFor, appending.decision, Program.bounded_some,
      Program.done_bind] at rest
    obtain ⟨other, old⟩ | ⟨other, new⟩ := appending.layout.cut_perform appending.fits rest
    · exact .inl (appending.before old)
    · exact .inr ⟨room, appending.after new⟩
  · rw [stored.performFor_of_full small good room] at rest
    rw [Program.cut_done serveFile rest]
    exact .inl stored

/-- The files reached from an allocation by sets under its password, each complete or stopped. -/
inductive Reached (ssl : OpenSsl) (path password : CString) (size : UInt64) : File → Prop
  | allocated {file : File} (created : Allocated ssl path size password file) :
      Reached ssl path password size file
  | set {file next : File} {key : CString} {value : Value} {result : Int}
      (before : Reached ssl path password size file)
      (small : recordLength key.bytes value.bytes ≤ 2 ^ 24)
      (ran : runOn (callSet ssl path password key value) file = some (result, next)) :
      Reached ssl path password size next
  | stopped {file left : File} {key : CString} {value : Value}
      (before : Reached ssl path password size file)
      (small : recordLength key.bytes value.bytes ≤ 2 ^ 24)
      (cut : Interrupted (callSet ssl path password key value) file left) :
      Reached ssl path password size left

theorem Stored.set_result (inverts : ssl.XtsInverts) (stored : Stored ssl password size file log)
    (small : recordLength key.bytes value.bytes ≤ 2 ^ 24) {result : Int} {next : File}
    (ran : runOn (callSet ssl path password key value) file = some (result, next)) :
    result = -1 ∧ next = file ∨
      result = 0 ∧ Stored ssl password size next (log ++ [(key.bytes, value.bytes)]) := by
  by_cases room : Room size log key.bytes value.bytes
  · obtain ⟨final, returned, grown⟩ := stored.runOn_set_of_room path inverts small room
    rw [returned, Option.some.injEq, Prod.mk.injEq] at ran
    obtain ⟨rfl, rfl⟩ := ran
    exact .inr ⟨rfl, grown⟩
  · rw [stored.runOn_set_of_full small room, Option.some.injEq, Prod.mk.injEq] at ran
    exact .inl ⟨ran.1.symm, ran.2.symm⟩

/-- Every file reached is a store of some log. -/
theorem Reached.stored (lawful : ssl.Lawful) {size : UInt64}
    (reached : Reached ssl path password size file) :
    ∃ log, Stored ssl password size.toNat file log := by
  induction reached with
  | allocated created => exact ⟨[], stored_of_allocated lawful.cbc created⟩
  | set before small ran inductionHypothesis =>
    obtain ⟨log, stored⟩ := inductionHypothesis
    obtain ⟨-, rfl⟩ | ⟨-, grown⟩ := stored.set_result lawful.inverts small ran
    · exact ⟨log, stored⟩
    · exact ⟨_, grown⟩
  | stopped before small cut inductionHypothesis =>
    obtain ⟨log, stored⟩ := inductionHypothesis
    obtain same | ⟨-, grown⟩ := stored.cut lawful.inverts small cut
    · exact ⟨log, same⟩
    · exact ⟨_, grown⟩

theorem Stored.accepted (stored : Stored ssl password size file log) :
    ∃ header, (file.readAt 0 padlockHeaderSize).bind headerOfBuffer = some header := by
  obtain ⟨header, records, tail, xtsKey, layout, -⟩ := stored.parts
  exact ⟨header, layout.readAt_header⟩

/-- Stores of one log answer every lookup and every run of calls alike. -/
theorem Stored.alike (lawful : ssl.Lawful) {other : File}
    (stored : Stored ssl password size file log)
    (otherStored : Stored ssl password size other log) :
    (∀ key, ∃ answer, runOn (callGet ssl path password key) file = some (answer, file) ∧
      runOn (callGet ssl path password key) other = some (answer, other)) ∧
    ∀ calls, (∀ call ∈ calls, call.Small) → ∃ outputs final otherFinal,
      runCalls ssl path password calls file = some (outputs, final) ∧
        runCalls ssl path password calls other = some (outputs, otherFinal) := by
  constructor
  · intro key
    exact ⟨_, stored.runOn_get lawful.blockwise, otherStored.runOn_get lawful.blockwise⟩
  · intro calls small
    obtain ⟨final, run, -⟩ := stored.run lawful calls small
    obtain ⟨otherFinal, otherRun, -⟩ := otherStored.run lawful calls small
    exact ⟨_, final, otherFinal, run, otherRun⟩

/-- The header rewrite is the commit point of `padlock_set`: on every file reached by complete
and stopped sets, a set that would return 0 and is stopped anywhere leaves a file that is
accepted and that answers every lookup, and every later run of calls, as the file before the set
does, or as the file after it does. -/
theorem set_commits_with_header (lawful : ssl.Lawful) {size : UInt64}
    (reached : Reached ssl path password size file)
    (small : recordLength key.bytes value.bytes ≤ 2 ^ 24) {after : File}
    (completed : runOn (callSet ssl path password key value) file = some (0, after))
    (cut : Interrupted (callSet ssl path password key value) file left) :
    (∃ header, (left.readAt 0 padlockHeaderSize).bind headerOfBuffer = some header) ∧
      ∃ state, (state = file ∨ state = after) ∧
        (∀ other, ∃ answer, runOn (callGet ssl path password other) left = some (answer, left) ∧
          runOn (callGet ssl path password other) state = some (answer, state)) ∧
        ∀ calls, (∀ call ∈ calls, call.Small) → ∃ outputs leftFinal stateFinal,
          runCalls ssl path password calls left = some (outputs, leftFinal) ∧
            runCalls ssl path password calls state = some (outputs, stateFinal) := by
  obtain ⟨log, stored⟩ := reached.stored lawful
  obtain ⟨impossible, -⟩ | ⟨-, grown⟩ := stored.set_result lawful.inverts small completed
  · cases impossible
  obtain same | ⟨-, committed⟩ := stored.cut lawful.inverts small cut
  · exact ⟨same.accepted, file, .inl rfl, same.alike lawful stored⟩
  · exact ⟨committed.accepted, after, .inr rfl, committed.alike lawful grown⟩

theorem set_commits_with_header_sample :
    ∃ file after, Allocated standIn samplePath 8192 samplePassword file ∧
      runOn (callSet standIn samplePath samplePassword (sampleKey true) (sampleValue true)) file =
        some (0, after) ∧
      ∀ left, Interrupted (callSet standIn samplePath samplePassword (sampleKey true)
          (sampleValue true)) file left →
        ∃ header, (left.readAt 0 padlockHeaderSize).bind headerOfBuffer = some header := by
  obtain ⟨file, allocated⟩ := sample_allocated
  obtain ⟨after, completed, -⟩ := (stored_of_allocated standIn_lawful.cbc
    allocated).runOn_set_of_room samplePath standIn_lawful.inverts
      (by decide : recordLength (sampleKey true).bytes (sampleValue true).bytes ≤ 2 ^ 24)
      (by decide)
  refine ⟨file, after, allocated, completed, fun left cut => ?_⟩
  exact (set_commits_with_header standIn_lawful (.allocated allocated) (by decide) completed
    cut).1

end Stores

end Padlock
