/-
This file lets a lookup run beside a writer. The lookup reads the header and
then only ranges between the header and the write offset it has read; the
writer, one set after another, writes only behind the write offset of the
moment, and the header. So from the moment the header is read, nothing the
lookup still reads can change, and it answers as if it had run at that moment.
-/

import Mathlib.Data.List.TakeWhile
import Padlock.Store.Crash

namespace Padlock

open Interaction

/-! ### The writer -/

/-- Sets made one after another by one writer. Each is stopped after a number of its requests to
the file; three are all of them. -/
def writer (ssl : OpenSsl) (path password : CString) :
    List (Nat × CString × Value) → FileProgram Unit
  | [] => .done ()
  | (requests, key, value) :: rest => do
    let _ ← (onFile (callSet ssl path password key value)).truncate requests
    writer ssl path password rest

section Writer

variable {ssl : OpenSsl} {path password key : CString} {value : Value} {size : Nat}
  {file next : File} {header : Header} {records tail : List UInt8} {log : List Entry}

/-- The header and the records of a file are its own. -/
theorem Layout.unique {otherHeader : Header} {otherRecords otherTail : List UInt8}
    (layout : Layout size file header records tail)
    (other : Layout size file otherHeader otherRecords otherTail) :
    otherHeader = header ∧ otherRecords = records := by
  obtain rfl := Option.some.inj (other.headerIn_read.symm.trans layout.headerIn_read)
  have same := other.parts.symm.trans layout.parts
  rw [List.append_cancel_left_eq] at same
  have lengths : otherRecords.length = records.length := by
    have first := layout.writeOffset
    have second := other.writeOffset
    omega
  exact ⟨rfl, (List.append_inj same lengths).1⟩

/-- A move of the writer: the file is a store again, and it has the old records and maybe more. -/
structure Grows (ssl : OpenSsl) (password : CString) (size : Nat) (file next : File) : Prop where
  stored : ∃ log, Stored ssl password size next log
  records : ∀ header records tail, Layout size file header records tail →
    ∃ nextHeader more rest, Layout size next nextHeader (records ++ more) rest

theorem Grows.refl (stored : Stored ssl password size file log) :
    Grows ssl password size file file := by
  refine ⟨⟨log, stored⟩, fun header records tail layout => ⟨header, [], tail, ?_⟩⟩
  rw [List.append_nil]
  exact layout

theorem Grows.of_layout {nextHeader : Header} {more rest : List UInt8}
    (layout : Layout size file header records tail)
    (nextLayout : Layout size next nextHeader (records ++ more) rest)
    (stored : Stored ssl password size next log) : Grows ssl password size file next := by
  refine ⟨⟨log, stored⟩, fun otherHeader otherRecords otherTail other => ?_⟩
  obtain ⟨-, rfl⟩ := layout.unique other
  exact ⟨nextHeader, more, rest, nextLayout⟩

/-- The requests of a set move the file as a writer does. -/
theorem Stored.along_set (inverts : ssl.XtsInverts) (stored : Stored ssl password size file log)
    (small : recordLength key.bytes value.bytes ≤ 2 ^ 24) :
    (onFile (callSet ssl path password key value)).Along serveFile (Grows ssl password size)
      file := by
  rw [onFile_padlockSet]
  split
  · trivial
  rename_i good
  refine ⟨.refl stored, ?_⟩
  rw [serveFile]
  dsimp only
  by_cases room : Room size log key.bytes value.bytes
  · obtain ⟨header, records, tail, xtsKey, append, appending⟩ :=
      stored.appending inverts small room
    obtain ⟨middle, first, written⟩ := appending.layout.record_written appending.fits
    obtain ⟨final, second, committed⟩ :=
      written.header_written appending.fits.blocks appending.fits.header
    rw [appending.layout.headerIn_read, performFor, appending.decision, Program.bounded_some,
      Program.done_bind]
    dsimp only
    rw [Append.perform]
    split
    · constructor
      · have same : Layout size middle header (records ++ [])
            (append.cipher ++ tail.drop append.cipher.length) := by
          rw [List.append_nil]
          exact written
        rw [first]
        exact Grows.of_layout appending.layout same (appending.before written)
      · rw [first]
        dsimp only
        rw [if_pos rfl, Append.commit]
        refine ⟨?_, trivial⟩
        rw [second]
        exact Grows.of_layout written committed (appending.after committed)
    · trivial
  · rw [stored.performFor_of_full small good room]
    trivial

/-- Every request of the writer moves the file as a writer does. -/
theorem Stored.along_writer (path : CString) (inverts : ssl.XtsInverts)
    (stored : Stored ssl password size file log) (sets : List (Nat × CString × Value))
    (small : ∀ each ∈ sets, recordLength each.2.1.bytes each.2.2.bytes ≤ 2 ^ 24) :
    (writer ssl path password sets).Along serveFile (Grows ssl password size) file := by
  induction sets generalizing file log with
  | nil => trivial
  | cons each rest inductionHypothesis =>
    obtain ⟨requests, key, value⟩ := each
    refine Program.Along.bind serveFile (fun before after moved => moved.stored) ⟨log, stored⟩
      ((stored.along_set inverts (small _ List.mem_cons_self)).truncate serveFile requests) ?_
    rintro _ final ⟨finalLog, finalStored⟩
    exact inductionHypothesis finalStored
      (fun later member => small later (List.mem_cons_of_mem _ member))

end Writer

/-! ### The lookup beside it -/

section Lookup

variable {ssl : OpenSsl} {path password key : CString} {size : Nat} {file : File}
  {header : Header} {records : List UInt8}

theorem sameRecords_of_layout {twin : File} {twinHeader : Header}
    {more rest twinMore twinRest : List UInt8}
    (layout : Layout size file header (records ++ more) rest)
    (twinLayout : Layout size twin twinHeader (records ++ twinMore) twinRest) :
    SameRecords (padlockHeaderSize + records.length) file twin := by
  have inRecords {state : File} {stateHeader : Header} {stateMore stateRest : List UInt8}
      (held : Layout size state stateHeader (records ++ stateMore) stateRest) (offset count : Nat)
      (inside : offset + count ≤ records.length) :
      Span.read (padlockHeaderSize + offset) count state.bytes =
        Span.read offset count records := by
    rw [held.parts, List.append_assoc]
    have behind := Span.read_append_right (headerBytes stateHeader).toList
      (records ++ (stateMore ++ stateRest)) offset count
    rw [length_headerBytes] at behind
    rw [behind, Span.read_append_left _ inside]
  intro offset count low high
  obtain ⟨start, rfl⟩ := Nat.exists_eq_add_of_le low
  rw [inRecords layout start count (by omega), inRecords twinLayout start count (by omega)]

/-- A lookup after its first request, beside the writer: it would still give the answer if it
went on alone, and the records it may read are those it started with. -/
structure LookingUp (ssl : OpenSsl) (password : CString) (size : Nat) (records : List UInt8)
    (answer : Option Found) (reader : FileProgram (Option Found)) (writing : FileProgram Unit)
    (file : File) : Prop where
  answers : reader.run serveFile file = some (answer, file)
  asks : reader.Asks (FileRequest.InRecords (padlockHeaderSize + records.length))
  writing : writing.Along serveFile (Grows ssl password size) file
  stored : ∃ log, Stored ssl password size file log
  records : ∃ header more rest, Layout size file header (records ++ more) rest

variable {answer : Option Found} {reader : FileProgram (Option Found)}
  {writing : FileProgram Unit}

theorem LookingUp.readerTurn
    (looking : LookingUp ssl password size records answer reader writing file) :
    LookingUp ssl password size records answer (reader.step serveFile file).1 writing
      (reader.step serveFile file).2 := by
  cases reader with
  | done result => exact looking
  | ask asked next =>
    obtain ⟨answers, asks, along, stored, held⟩ := looking
    cases asked with
    | read offset count => exact ⟨answers, asks.2 _, along, stored, held⟩
    | write offset data => cases asks.1
  | wrong => exact looking

theorem LookingUp.writerTurn
    (looking : LookingUp ssl password size records answer reader writing file) :
    LookingUp ssl password size records answer reader (writing.step serveFile file).1
      (writing.step serveFile file).2 := by
  obtain ⟨answers, asks, along, ⟨log, stored⟩, header, more, rest, held⟩ := looking
  obtain ⟨moved, further⟩ := along.step serveFile (.refl stored)
  obtain ⟨nextHeader, evenMore, nextRest, nextHeld⟩ := moved.records header _ rest held
  rw [List.append_assoc] at nextHeld
  exact ⟨run_of_sameRecords asks (sameRecords_of_layout held nextHeld) answers, asks, further,
    moved.stored, nextHeader, _, nextRest, nextHeld⟩

/-- The first request of a lookup on a store. -/
theorem Stored.lookingUp (path key : CString) (blockwise : ssl.XtsBlockwise) {log : List Entry}
    (stored : Stored ssl password size file log)
    (along : writing.Along serveFile (Grows ssl password size) file) :
    ∃ records answer, runOn (callGet ssl path password key) file = some (answer, file) ∧
      LookingUp ssl password size records answer
        ((onFile (callGet ssl path password key)).step serveFile file).1 writing
        ((onFile (callGet ssl path password key)).step serveFile file).2 := by
  obtain ⟨header, records, tail, xtsKey, layout, secret, all⟩ := stored.parts
  have alone : runOn (callGet ssl path password key) file = _ := stored.runOn_get blockwise
  refine ⟨records, _, alone, ?_⟩
  have held : Layout size file header (records ++ []) tail := by
    rw [List.append_nil]
    exact layout
  rw [runOn, onFile_padlockGet, Program.run_ask] at alone
  rw [onFile_padlockGet]
  refine ⟨alone, ?_, along, ⟨log, stored⟩, header, [], tail, held⟩
  show (lookupFor ssl password key (headerIn (Span.read 0 padlockHeaderSize file.bytes)) >>=
    fun finish => .done finish.answer).Asks _
  rw [layout.headerIn_read, ← layout.writeOffset]
  exact (asks_lookupFor header).bind fun _ => trivial

/-- A lookup and a writer that take turns at a file: what is left of each, and the file. -/
def lookupBeside (ssl : OpenSsl) (path password key : CString) (sets : List (Nat × CString × Value))
    (schedule : List Bool) (file : File) : FileProgram (Option Found) × FileProgram Unit × File :=
  Program.interleave serveFile schedule (onFile (callGet ssl path password key))
    (writer ssl path password sets) file

theorem split_at_first_turn {schedule : List Bool} (started : true ∈ schedule) :
    ∃ rest, schedule = schedule.takeWhile (!·) ++ true :: rest := by
  induction schedule with
  | nil => cases started
  | cons turn rest inductionHypothesis =>
    cases turn with
    | true => exact ⟨rest, rfl⟩
    | false =>
      obtain ⟨later, split⟩ := inductionHypothesis
        ((List.mem_cons.mp started).resolve_left (by decide))
      exact ⟨later, congrArg (false :: ·) split⟩

/-- A lookup is linearizable against a writer: however its requests interleave with those of
sets made one after another, complete or stopped, the lookup returns what it would have returned
alone at the moment it read the header, and at every later moment what is left of it would, alone,
end with that answer. -/
theorem lookup_linearizable (lawful : ssl.Lawful) {size : UInt64}
    (reached : Reached ssl path password size file) (sets : List (Nat × CString × Value))
    (small : ∀ each ∈ sets, recordLength each.2.1.bytes each.2.2.bytes ≤ 2 ^ 24)
    (schedule : List Bool) (started : true ∈ schedule) :
    ∃ answer,
      (runOn (callGet ssl path password key) (lookupBeside ssl path password key sets
        (schedule.takeWhile (!·)) file).2.2).map Prod.fst = some answer ∧
      ((lookupBeside ssl path password key sets schedule file).1.run serveFile
        (lookupBeside ssl path password key sets schedule file).2.2).map Prod.fst = some answer ∧
      ∀ returned, (lookupBeside ssl path password key sets schedule file).1 = .done returned →
        returned = answer := by
  obtain ⟨log, stored⟩ := reached.stored lawful
  -- the writer alone, up to the moment the lookup reads the header
  have waiting := Program.interleave_invariant serveFile
    (fun reader writing state => reader = onFile (callGet ssl path password key) ∧
      writing.Along serveFile (Grows ssl password size.toNat) state ∧
      ∃ log, Stored ssl password size.toNat state log)
    (schedule.takeWhile (!·))
    (fun member => absurd (List.mem_takeWhile_imp member) (by decide))
    (fun reader writing state ⟨same, along, log, held⟩ =>
      have moved := along.step serveFile (.refl held)
      ⟨same, moved.2, moved.1.stored⟩)
    ⟨rfl, stored.along_writer path lawful.inverts sets small, log, stored⟩
  rw [← lookupBeside] at waiting
  generalize momentEq : lookupBeside ssl path password key sets (schedule.takeWhile (!·)) file =
    moment at waiting ⊢
  obtain ⟨reader, writing, state⟩ := moment
  obtain ⟨rfl, along, before, held⟩ := waiting
  obtain ⟨records, answer, alone, looking⟩ := held.lookingUp path key lawful.blockwise along
  -- from there on every turn keeps the answer
  obtain ⟨rest, split⟩ := split_at_first_turn started
  have ended := Program.interleave_invariant serveFile
    (LookingUp ssl password size.toNat records answer) rest
    (fun _ reader writing state => LookingUp.readerTurn)
    (fun reader writing state => LookingUp.writerTurn) looking
  have whole : lookupBeside ssl path password key sets schedule file =
      Program.interleave serveFile (true :: rest) (onFile (callGet ssl path password key)) writing
        state := by
    unfold lookupBeside at momentEq ⊢
    rw [split, Program.interleave_append, momentEq]
  rw [whole]
  refine ⟨answer, ?_, ?_, ?_⟩
  · rw [alone]
    rfl
  · rw [Program.interleave, ended.answers]
    rfl
  · intro returned done
    have result := ended.answers
    rw [Program.interleave] at done
    rw [done, Program.run_done, Option.some.injEq, Prod.mk.injEq] at result
    exact result.1

theorem lookup_linearizable_sample :
    ∃ file answer, Allocated standIn samplePath 8192 samplePassword file ∧
      (runOn (callGet standIn samplePath samplePassword (sampleKey true))
        (lookupBeside standIn samplePath samplePassword (sampleKey true)
          [(3, sampleKey true, sampleValue true)] [false, false, false] file).2.2).map Prod.fst =
        some answer ∧
      ((lookupBeside standIn samplePath samplePassword (sampleKey true)
        [(3, sampleKey true, sampleValue true)] [false, false, false, true, true] file).1.run
          serveFile (lookupBeside standIn samplePath samplePassword (sampleKey true)
            [(3, sampleKey true, sampleValue true)] [false, false, false, true, true]
              file).2.2).map Prod.fst = some answer := by
  obtain ⟨file, allocated⟩ := sample_allocated
  obtain ⟨answer, alone, beside, -⟩ := lookup_linearizable standIn_lawful
    (.allocated allocated) [(3, sampleKey true, sampleValue true)] (by decide)
    [false, false, false, true, true] (by decide)
  exact ⟨file, answer, allocated, alone, beside⟩

end Lookup

end Padlock
