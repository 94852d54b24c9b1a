/-
This file models the loops of `write_urandom_bytes` step by step, with the reads
of `/dev/urandom` as they come: interrupted, failed, at their end, or short; and
with short writes. Where `Padlock.Store.Allocate` has the answer of a read after
the interruptions, here each interruption is a step of its own.

The device is the sequence of bytes it gives, of which each read takes the next
ones. At every step the bytes taken so far are those the file has got, and
behind them the part of the buffer that is filled and not yet written. So when
the call returns 0 the file has got the first bytes of the device, each once and
in order, and when it returns -1 something has failed. Only an interruption
leaves the loops where they were, and so they end unless there is no end of
interruptions.
-/

import Mathlib.Data.Set.Finite.Lattice
import Mathlib.Order.Bounds.Basic
import Padlock.Library.Machine
import Padlock.Store.Allocate

namespace Padlock

open Interaction

/-! ### The loops -/

/-- How a read of `/dev/urandom` goes. -/
inductive ReadOutcome where
  /-- -1 with `EINTR` -/
  | interrupted
  /-- -1 with another error -/
  | failed
  /-- the next bytes of the device, this many as far as they were asked for; 0 is its end -/
  | delivers (count : Nat)

/-- How the system serves one call: whether there is memory and a device, the bytes of the device,
how each read goes, and how many bytes each write takes at most. -/
structure Pattern where
  malloc : Option (Bytes bufferSize)
  opens : Bool
  device : Nat → UInt8
  reads : Nat → ReadOutcome
  writes : Nat → Nat

/-- The bytes of the device from a position on. -/
def Pattern.bytes (pattern : Pattern) (start count : Nat) : List UInt8 :=
  (List.range' start count).map pattern.device

/-- The reads and writes so far, with the bytes they have delivered and appended. -/
structure Progress where
  readCalls : Nat
  writeCalls : Nat
  delivered : List UInt8
  appended : List UInt8

def Progress.start : Progress := ⟨0, 0, [], []⟩

def Progress.read (progress : Progress) (bytes : List UInt8) : Progress :=
  { progress with
    readCalls := progress.readCalls + 1
    delivered := progress.delivered ++ bytes }

def Progress.write (progress : Progress) (bytes : List UInt8) : Progress :=
  { progress with
    writeCalls := progress.writeCalls + 1
    appended := progress.appended ++ bytes }

/-- What the next read delivers, when it comes to `count` bytes and `asked` were asked for. -/
def Pattern.received (pattern : Pattern) (progress : Progress) (asked count : Nat) : List UInt8 :=
  pattern.bytes progress.delivered.length (min count asked)

/-- Where the call stands: at the head of one of its three loops with that loop's counters, or
past them. -/
inductive Place where
  | outer
  | reading (amount readTotal : Nat)
  | writing (amount writeTotal : Nat)
  | finished (ok : Int)
  /-- an access outside of the buffer -/
  | wrong

structure Filling where
  place : Place
  remaining : Nat
  buffer : Bytes bufferSize
  progress : Progress

/-- One turn of the loop that fills the buffer. -/
def readStep (pattern : Pattern) (amount readTotal : Nat) (filling : Filling) : Filling :=
  if readTotal < amount then
    match pattern.reads filling.progress.readCalls with
    | .interrupted => { filling with progress := filling.progress.read [] }
    | .failed => { filling with place := .finished (-1), progress := filling.progress.read [] }
    | .delivers count =>
      let received := pattern.received filling.progress (amount - readTotal) count
      if received = [] then
        { filling with place := .finished (-1), progress := filling.progress.read [] }
      else match filling.buffer.store readTotal received with
        | none => { filling with place := .wrong }
        | some buffer =>
          { filling with
            place := .reading amount (readTotal + received.length)
            buffer
            progress := filling.progress.read received }
  else { filling with place := .writing amount 0 }

/-- One turn of the loop that writes the buffer. -/
def writeStep (pattern : Pattern) (amount writeTotal : Nat) (filling : Filling) : Filling :=
  if writeTotal < amount then
    match filling.buffer.load writeTotal (amount - writeTotal) with
    | none => { filling with place := .wrong }
    | some data =>
      let written := min (pattern.writes filling.progress.writeCalls) data.length
      if written = 0 then
        { filling with place := .finished (-1), progress := filling.progress.write [] }
      else
        { filling with
          place := .writing amount (writeTotal + written)
          progress := filling.progress.write (data.take written) }
  else { filling with place := .outer, remaining := filling.remaining - amount }

def fillStep (pattern : Pattern) (filling : Filling) : Filling :=
  match filling.place with
  | .outer =>
    if 0 < filling.remaining then
      { filling with place := .reading (roundAmount filling.remaining) 0 }
    else { filling with place := .finished 0 }
  | .reading amount readTotal => readStep pattern amount readTotal filling
  | .writing amount writeTotal => writeStep pattern amount writeTotal filling
  | .finished _ => filling
  | .wrong => filling

/-- The loops on their first turn. -/
def Filling.start (length : UInt64) (buffer : Bytes bufferSize) : Filling where
  place := .outer
  remaining := length.toNat
  buffer
  progress := .start

/-- The result and what has been read and written, or nothing when the loops have not ended. -/
def Filling.returned (filling : Filling) : Option (Int × Progress) :=
  match filling.place with
  | .finished ok => some (ok, filling.progress)
  | _ => none

/-- `write_urandom_bytes`, as far as it has come when its loops have taken some number of steps. -/
def writeUrandomBytesIn (pattern : Pattern) (length : UInt64) (steps : Nat) :
    Option (Int × Progress) :=
  match pattern.malloc with
  | none => some (-1, .start)
  | some buffer =>
    if pattern.opens then ((fillStep pattern)^[steps] (.start length buffer)).returned
    else some (-1, .start)

/-! ### What the buffer holds -/

theorem load_of_le {size offset whole : Nat} (buffer : Bytes size) (inside : whole ≤ size)
    (start : offset ≤ whole) :
    buffer.load offset (whole - offset) = some ((buffer.toList.take whole).drop offset) := by
  refine Bytes.load_eq_some.mpr ⟨by omega, ?_⟩
  rw [Span.read, List.drop_take]

theorem exists_store {size offset : Nat} (buffer : Bytes size) {data : List UInt8}
    (inside : offset + data.length ≤ size) :
    ∃ stored, buffer.store offset data = some stored ∧
      stored.toList.take (offset + data.length) = buffer.toList.take offset ++ data := by
  have front : (buffer.toList.take offset).length = offset := by
    rw [List.length_take, buffer.lengthEq]
    omega
  have whole := Span.write_append 0 (buffer.toList.take offset) data (buffer.toList.drop offset)
  rw [List.take_append_drop, front, ← List.append_assoc] at whole
  refine ⟨_, dif_pos inside, ?_⟩
  dsimp only
  rw [whole]
  apply List.take_left'
  rw [List.length_append, front]

@[simp] theorem length_received (pattern : Pattern) (progress : Progress) (asked count : Nat) :
    (pattern.received progress asked count).length = min count asked := by
  simp [Pattern.received, Pattern.bytes]

theorem length_received_le (pattern : Pattern) (progress : Progress) (asked count : Nat) :
    (pattern.received progress asked count).length ≤ asked := by
  rw [length_received]
  exact Nat.min_le_right ..

theorem bytes_append (pattern : Pattern) (start front back : Nat) :
    pattern.bytes start front ++ pattern.bytes (start + front) back =
      pattern.bytes start (front + back) := by
  rw [Pattern.bytes, Pattern.bytes, Pattern.bytes, ← List.map_append, List.range'_append_1]

/-! ### What the loops keep -/

/-- One of the reads so far has failed or come to the end of the device, or one of the writes has
taken nothing. -/
def Progress.Failed (pattern : Pattern) (progress : Progress) : Prop :=
  (∃ index < progress.readCalls,
      pattern.reads index = .failed ∨ pattern.reads index = .delivers 0) ∨
    ∃ index < progress.writeCalls, pattern.writes index = 0

/-- How many bytes a read comes to, as far as they were asked for. -/
def Pattern.comes (pattern : Pattern) (index : Nat) : Nat :=
  match pattern.reads index with
  | .delivers count => count
  | _ => 0

/-- The reads so far come to this many bytes, and the writes so far take them. -/
def Progress.Serves (pattern : Pattern) (length : Nat) (progress : Progress) : Prop :=
  length ≤ ((List.range progress.readCalls).map pattern.comes).sum ∧
    length ≤ ((List.range progress.writeCalls).map pattern.writes).sum

/-- What the counters say at each place, and how the delivered bytes are made up of the appended
ones and those in the buffer that are still to be written. -/
def Filling.Accounts (pattern : Pattern) (length : Nat) (filling : Filling) : Prop :=
  match filling.place with
  | .outer =>
    filling.progress.delivered = filling.progress.appended ∧
      filling.progress.appended.length + filling.remaining = length
  | .reading amount readTotal =>
    readTotal ≤ amount ∧ 0 < amount ∧ amount ≤ bufferSize ∧ amount ≤ filling.remaining ∧
      filling.progress.delivered =
        filling.progress.appended ++ filling.buffer.toList.take readTotal ∧
      filling.progress.appended.length + filling.remaining = length
  | .writing amount writeTotal =>
    writeTotal ≤ amount ∧ 0 < amount ∧ amount ≤ bufferSize ∧ amount ≤ filling.remaining ∧
      filling.progress.delivered =
        filling.progress.appended ++ (filling.buffer.toList.take amount).drop writeTotal ∧
      filling.progress.appended.length + filling.remaining = length + writeTotal
  | .finished ok =>
    (ok = 0 ∧ filling.progress.delivered = filling.progress.appended ∧
      filling.progress.appended.length = length) ∨ (ok = -1 ∧ filling.progress.Failed pattern)
  | .wrong => False

/-- What is left to do, when no read from some number on is interrupted. -/
def Filling.effort (bound : Nat) (filling : Filling) : Nat :=
  -- a byte is read once and written once, and a round of at least one byte changes place thrice
  (bound - filling.progress.readCalls) +
    match filling.place with
    | .outer => 5 * filling.remaining + 1
    | .reading amount readTotal =>
      5 * (filling.remaining - amount) + (amount - readTotal) + amount + 3
    | .writing amount writeTotal => 5 * (filling.remaining - amount) + (amount - writeTotal) + 2
    | .finished _ => 0
    | .wrong => 0

def Filling.Ended (filling : Filling) : Prop := ∃ ok, filling.place = .finished ok

/-- A step keeps the account, and leaves less to do unless a late read is interrupted. -/
def Filling.Advances (pattern : Pattern) (length : Nat) (filling next : Filling) : Prop :=
  next.Accounts pattern length ∧
    ∀ bound, (∀ index, bound ≤ index → pattern.reads index ≠ .interrupted) →
      next.effort bound < filling.effort bound

section Steps

variable {pattern : Pattern} {length remaining amount : Nat} {buffer : Bytes bufferSize}
  {progress : Progress}

theorem roundAmount_le_bufferSize (remaining : Nat) : roundAmount remaining ≤ bufferSize := by
  unfold roundAmount
  split <;> omega

/-- To give up after a failure is the shortest way to the end. -/
theorem advances_of_failed {place : Place} {later : Progress} (failed : later.Failed pattern)
    (running : (∃ amount readTotal, place = .reading amount readTotal) ∨
      ∃ amount writeTotal, place = .writing amount writeTotal)
    (calls : progress.readCalls ≤ later.readCalls) :
    Filling.Advances pattern length ⟨place, remaining, buffer, progress⟩
      ⟨.finished (-1), remaining, buffer, later⟩ := by
  refine ⟨.inr ⟨rfl, failed⟩, fun bound late => ?_⟩
  rcases running with ⟨amount, readTotal, rfl⟩ | ⟨amount, writeTotal, rfl⟩
  · simp only [Filling.effort]
    omega
  · simp only [Filling.effort]
    omega

theorem readStep_advances {readTotal : Nat}
    (accounts : Filling.Accounts pattern length
      ⟨.reading amount readTotal, remaining, buffer, progress⟩) :
    Filling.Advances pattern length ⟨.reading amount readTotal, remaining, buffer, progress⟩
      (readStep pattern amount readTotal
        ⟨.reading amount readTotal, remaining, buffer, progress⟩) := by
  obtain ⟨within, positive, inside, rest, delivered, counted⟩ := accounts
  unfold readStep
  dsimp only at *
  by_cases more : readTotal < amount
  · rw [if_pos more]
    cases outcome : pattern.reads progress.readCalls with
    | interrupted =>
      -- the one step that moves no byte: it uses up one of the reads that may be interrupted
      refine ⟨⟨within, positive, inside, rest, ?_, counted⟩, fun bound late => ?_⟩
      · simp only [Progress.read, List.append_nil]
        exact delivered
      · have early : progress.readCalls < bound := by
          by_contra beyond
          exact late progress.readCalls (Nat.not_lt.mp beyond) outcome
        simp only [Filling.effort, Progress.read]
        omega
    | failed =>
      have failed : (progress.read []).Failed pattern :=
        .inl ⟨progress.readCalls, Nat.lt_succ_self _, .inl outcome⟩
      exact advances_of_failed failed (.inl ⟨amount, readTotal, rfl⟩) (Nat.le_succ _)
    | delivers count =>
      dsimp only
      have size := length_received pattern progress (amount - readTotal) count
      by_cases nothing : pattern.received progress (amount - readTotal) count = []
      · rw [if_pos nothing]
        obtain rfl : count = 0 := by
          rw [nothing, List.length_nil] at size
          omega
        have failed : (progress.read []).Failed pattern :=
          .inl ⟨progress.readCalls, Nat.lt_succ_self _, .inr outcome⟩
        exact advances_of_failed failed (.inl ⟨amount, readTotal, rfl⟩) (Nat.le_succ _)
      · rw [if_neg nothing]
        have received := List.length_pos_iff.mpr nothing
        have room : readTotal +
            (pattern.received progress (amount - readTotal) count).length ≤ bufferSize := by omega
        obtain ⟨stored, storedEq, front⟩ := exists_store buffer room
        rw [storedEq]
        refine ⟨⟨by omega, positive, inside, rest, ?_, counted⟩, fun bound late => ?_⟩
        · simp only [Progress.read]
          rw [delivered, front, List.append_assoc]
        · simp only [Filling.effort, Progress.read]
          omega
  · rw [if_neg more]
    obtain rfl : readTotal = amount := by omega
    refine ⟨⟨Nat.zero_le _, positive, inside, rest, ?_, counted⟩, fun bound late => ?_⟩
    · rw [List.drop_zero]
      exact delivered
    · simp only [Filling.effort]
      omega

theorem writeStep_advances {writeTotal : Nat}
    (accounts : Filling.Accounts pattern length
      ⟨.writing amount writeTotal, remaining, buffer, progress⟩) :
    Filling.Advances pattern length ⟨.writing amount writeTotal, remaining, buffer, progress⟩
      (writeStep pattern amount writeTotal
        ⟨.writing amount writeTotal, remaining, buffer, progress⟩) := by
  obtain ⟨within, positive, inside, rest, delivered, counted⟩ := accounts
  unfold writeStep
  dsimp only at *
  by_cases more : writeTotal < amount
  · rw [if_pos more, load_of_le buffer inside within]
    dsimp only
    have size : ((buffer.toList.take amount).drop writeTotal).length = amount - writeTotal := by
      rw [List.length_drop, List.length_take, buffer.lengthEq]
      omega
    by_cases nothing : min (pattern.writes progress.writeCalls)
        ((buffer.toList.take amount).drop writeTotal).length = 0
    · rw [if_pos nothing]
      have failed : (progress.write []).Failed pattern :=
        .inr ⟨progress.writeCalls, Nat.lt_succ_self _, by omega⟩
      exact advances_of_failed failed (.inr ⟨amount, writeTotal, rfl⟩) le_rfl
    · rw [if_neg nothing]
      refine ⟨⟨by omega, positive, inside, rest, ?_, ?_⟩, fun bound late => ?_⟩
      · simp only [Progress.write]
        rw [delivered, List.append_assoc, ← List.drop_drop, List.take_append_drop]
      · simp only [Progress.write, List.length_append, List.length_take]
        omega
      · simp only [Filling.effort, Progress.write]
        omega
  · rw [if_neg more]
    obtain rfl : writeTotal = amount := by omega
    refine ⟨⟨?_, ?_⟩, fun bound late => ?_⟩
    · rw [delivered, List.drop_of_length_le (List.length_take_le _ _), List.append_nil]
    · dsimp only
      omega
    · simp only [Filling.effort]
      omega

/-- Every step before the end keeps the account and brings the end nearer. -/
theorem fillStep_advances {filling : Filling} (accounts : filling.Accounts pattern length)
    (running : ¬ filling.Ended) :
    Filling.Advances pattern length filling (fillStep pattern filling) := by
  obtain ⟨place, remaining, buffer, progress⟩ := filling
  cases place with
  | outer =>
    obtain ⟨delivered, counted⟩ := accounts
    unfold fillStep
    dsimp only at *
    by_cases more : 0 < remaining
    · rw [if_pos more]
      have positive := roundAmount_pos more
      have within := roundAmount_le remaining
      refine ⟨⟨Nat.zero_le _, positive, roundAmount_le_bufferSize remaining, within, ?_, counted⟩,
        fun bound late => ?_⟩
      · rw [List.take_zero, List.append_nil]
        exact delivered
      · simp only [Filling.effort]
        omega
    · rw [if_neg more]
      refine ⟨.inl ⟨rfl, delivered, ?_⟩, fun bound late => ?_⟩
      · dsimp only
        omega
      · simp only [Filling.effort]
        omega
  | reading amount readTotal => exact readStep_advances accounts
  | writing amount writeTotal => exact writeStep_advances accounts
  | finished ok => exact absurd ⟨ok, rfl⟩ running
  | wrong => exact accounts.elim

theorem accounts_fillStep {filling : Filling} (accounts : filling.Accounts pattern length) :
    (fillStep pattern filling).Accounts pattern length := by
  by_cases ended : filling.Ended
  · obtain ⟨ok, place⟩ := ended
    rw [fillStep, place]
    exact accounts
  · exact (fillStep_advances accounts ended).1

/-- What a step does: it neither reads nor writes, or it reads the next bytes of the device or
writes some bytes, no more than the pattern allows; and after a failure it gives up. -/
inductive Filling.Moves (pattern : Pattern) (filling next : Filling) : Prop
  | neither (progress : next.progress = filling.progress)
  | reads (size : Nat) (within : size ≤ pattern.comes filling.progress.readCalls)
      (progress : next.progress = filling.progress.read
        (pattern.bytes filling.progress.delivered.length size))
      (passed : next.place = .finished (-1) ∨
        ¬ (pattern.reads filling.progress.readCalls = .failed ∨
          pattern.reads filling.progress.readCalls = .delivers 0))
  | writes (data : List UInt8) (within : data.length ≤ pattern.writes filling.progress.writeCalls)
      (progress : next.progress = filling.progress.write data)
      (passed : next.place = .finished (-1) ∨ pattern.writes filling.progress.writeCalls ≠ 0)

theorem readStep_moves (pattern : Pattern) (amount readTotal : Nat) (filling : Filling) :
    Filling.Moves pattern filling (readStep pattern amount readTotal filling) := by
  unfold readStep
  split
  · cases outcome : pattern.reads filling.progress.readCalls with
    | interrupted =>
      refine .reads 0 (Nat.zero_le _) rfl (.inr ?_)
      rw [outcome]
      rintro (failed | ended)
      · cases failed
      · cases ended
    | failed => exact .reads 0 (Nat.zero_le _) rfl (.inl rfl)
    | delivers count =>
      have size := length_received pattern filling.progress (amount - readTotal) count
      dsimp only
      split
      · exact .reads 0 (Nat.zero_le _) rfl (.inl rfl)
      · rename_i nonempty
        split
        · exact .neither rfl
        · refine .reads (min count (amount - readTotal)) ?_ rfl (.inr ?_)
          · rw [Pattern.comes, outcome]
            exact Nat.min_le_left ..
          · rw [outcome]
            rintro (failed | ended)
            · cases failed
            · cases ended
              rw [Nat.zero_min] at size
              exact nonempty (List.length_eq_zero_iff.mp size)
  · exact .neither rfl

theorem writeStep_moves (pattern : Pattern) (amount writeTotal : Nat) (filling : Filling) :
    Filling.Moves pattern filling (writeStep pattern amount writeTotal filling) := by
  unfold writeStep
  split
  · split
    · exact .neither rfl
    · dsimp only
      split
      · exact .writes [] (Nat.zero_le _) rfl (.inl rfl)
      · rename_i data _ taken
        refine .writes _ ?_ rfl (.inr fun nothing => taken ?_)
        · rw [List.length_take]
          omega
        · rw [nothing, Nat.zero_min]
  · exact .neither rfl

theorem fillStep_moves (pattern : Pattern) (filling : Filling) :
    Filling.Moves pattern filling (fillStep pattern filling) := by
  unfold fillStep
  split
  · split
    · exact .neither rfl
    · exact .neither rfl
  · exact readStep_moves ..
  · exact writeStep_moves ..
  · exact .neither rfl
  · exact .neither rfl

/-- The reads have delivered the first bytes of the device, no more of them than they came to, and
the writes have taken no more than they do; and until the call gives up nothing has failed. -/
structure Filling.Follows (pattern : Pattern) (filling : Filling) : Prop where
  delivered : filling.progress.delivered = pattern.bytes 0 filling.progress.delivered.length
  reads : filling.progress.delivered.length ≤
    ((List.range filling.progress.readCalls).map pattern.comes).sum
  writes : filling.progress.appended.length ≤
    ((List.range filling.progress.writeCalls).map pattern.writes).sum
  passed : filling.place = .finished (-1) ∨ ¬ filling.progress.Failed pattern

theorem not_failed_read {bytes : List UInt8} (unfailing : ¬ progress.Failed pattern)
    (passed : ¬ (pattern.reads progress.readCalls = .failed ∨
      pattern.reads progress.readCalls = .delivers 0)) :
    ¬ (progress.read bytes).Failed pattern := by
  rintro (⟨index, made, failed⟩ | written)
  · rcases Nat.lt_succ_iff_lt_or_eq.mp made with earlier | rfl
    · exact unfailing (.inl ⟨index, earlier, failed⟩)
    · exact passed failed
  · exact unfailing (.inr written)

theorem not_failed_write {bytes : List UInt8} (unfailing : ¬ progress.Failed pattern)
    (passed : pattern.writes progress.writeCalls ≠ 0) :
    ¬ (progress.write bytes).Failed pattern := by
  rintro (read | ⟨index, made, nothing⟩)
  · exact unfailing (.inl read)
  · rcases Nat.lt_succ_iff_lt_or_eq.mp made with earlier | rfl
    · exact unfailing (.inr ⟨index, earlier, nothing⟩)
    · exact passed nothing

theorem follows_fillStep {filling : Filling} (follows : filling.Follows pattern) :
    (fillStep pattern filling).Follows pattern := by
  -- where the call has given up it stays
  rcases follows.passed with gaveUp | unfailing
  · have same : fillStep pattern filling = filling := by rw [fillStep, gaveUp]
    rw [same]
    exact follows
  generalize nextEq : fillStep pattern filling = next
  have moves := fillStep_moves pattern filling
  rw [nextEq] at moves
  cases moves with
  | neither progress =>
    refine ⟨?_, ?_, ?_, .inr ?_⟩
    · rw [progress]
      exact follows.delivered
    · rw [progress]
      exact follows.reads
    · rw [progress]
      exact follows.writes
    · rw [progress]
      exact unfailing
  | reads size within progress passed =>
    have length : (pattern.bytes filling.progress.delivered.length size).length = size := by
      rw [Pattern.bytes, List.length_map, List.length_range']
    have whole := bytes_append pattern 0 filling.progress.delivered.length size
    rw [Nat.zero_add, ← follows.delivered] at whole
    refine ⟨?_, ?_, ?_, ?_⟩
    · rw [progress]
      simp only [Progress.read, List.length_append, length]
      exact whole
    · rw [progress]
      simp only [Progress.read, List.length_append, length, List.range_succ, List.map_append,
        List.sum_append, List.map_singleton, List.sum_singleton]
      exact Nat.add_le_add follows.reads within
    · rw [progress]
      exact follows.writes
    · rw [progress]
      exact passed.imp_right (not_failed_read unfailing)
  | writes data within progress passed =>
    refine ⟨?_, ?_, ?_, ?_⟩
    · rw [progress]
      exact follows.delivered
    · rw [progress]
      exact follows.reads
    · rw [progress]
      simp only [Progress.write, List.length_append, List.range_succ, List.map_append,
        List.sum_append, List.map_singleton, List.sum_singleton]
      exact Nat.add_le_add follows.writes within
    · rw [progress]
      exact passed.imp_right (not_failed_write unfailing)

end Steps

/-! ### The whole call -/

section Call

variable {pattern : Pattern} {length : UInt64} {buffer : Bytes bufferSize}

theorem accounts_start (pattern : Pattern) (length : UInt64) (buffer : Bytes bufferSize) :
    (Filling.start length buffer).Accounts pattern length.toNat := by
  refine ⟨rfl, ?_⟩
  rw [Filling.start, Progress.start, List.length_nil, Nat.zero_add]

theorem accounts_iterate (pattern : Pattern) (length : UInt64) (buffer : Bytes bufferSize)
    (steps : Nat) :
    ((fillStep pattern)^[steps] (.start length buffer)).Accounts pattern length.toNat :=
  Function.Iterate.rec (Filling.Accounts pattern length.toNat)
    (accounts_start pattern length buffer) (fun _ => accounts_fillStep) steps

theorem follows_iterate (pattern : Pattern) (length : UInt64) (buffer : Bytes bufferSize)
    (steps : Nat) : ((fillStep pattern)^[steps] (.start length buffer)).Follows pattern := by
  have start : (Filling.start length buffer).Follows pattern := by
    refine ⟨rfl, Nat.zero_le _, Nat.zero_le _, .inr ?_⟩
    rintro (⟨index, made, -⟩ | ⟨index, made, -⟩)
    · exact Nat.not_lt_zero index made
    · exact Nat.not_lt_zero index made
  exact Function.Iterate.rec (Filling.Follows pattern) start (fun _ => follows_fillStep) steps

/-- The loops end when there are only finitely many interruptions. -/
theorem exists_ended_iterate (finite : {index | pattern.reads index = .interrupted}.Finite)
    (length : UInt64) (buffer : Bytes bufferSize) :
    ∃ steps, ((fillStep pattern)^[steps] (.start length buffer)).Ended := by
  obtain ⟨last, bounded⟩ := finite.bddAbove
  have late : ∀ index, last + 1 ≤ index → pattern.reads index ≠ .interrupted := by
    intro index beyond interrupted
    have before := bounded interrupted
    omega
  refine Machine.exists_ended (Filling.effort (last + 1)) ?_ (accounts_start pattern length buffer)
  intro filling accounts running
  obtain ⟨kept, nearer⟩ := fillStep_advances accounts running
  exact ⟨kept, nearer _ late⟩

theorem returned_eq_some {filling : Filling} {ok : Int} {progress : Progress}
    (returned : filling.returned = some (ok, progress)) :
    filling.place = .finished ok ∧ filling.progress = progress := by
  unfold Filling.returned at returned
  split at returned
  · rename_i place
    obtain ⟨rfl, same⟩ := Prod.mk.inj (Option.some.inj returned)
    exact ⟨place, same⟩
  · cases returned

/-- Where the call returns: before its loops, for want of memory or of the device, or at their
end. -/
theorem returned_cases {steps : Nat} {ok : Int} {progress : Progress}
    (returned : writeUrandomBytesIn pattern length steps = some (ok, progress)) :
    (ok = -1 ∧ progress = .start ∧ pattern.malloc = none) ∨
      (ok = -1 ∧ progress = .start ∧ pattern.opens = false ∧ pattern.malloc ≠ none) ∨
      ∃ buffer, pattern.malloc = some buffer ∧ pattern.opens = true ∧
        ((fillStep pattern)^[steps] (.start length buffer)).place = .finished ok ∧
        ((fillStep pattern)^[steps] (.start length buffer)).progress = progress := by
  unfold writeUrandomBytesIn at returned
  split at returned
  · rename_i absent
    obtain ⟨rfl, rfl⟩ := Prod.mk.inj (Option.some.inj returned)
    exact .inl ⟨rfl, rfl, absent⟩
  · rename_i buffer allocated
    split at returned
    · rename_i opened
      exact .inr (.inr ⟨buffer, allocated, opened, returned_eq_some returned⟩)
    · rename_i closed
      obtain ⟨rfl, rfl⟩ := Prod.mk.inj (Option.some.inj returned)
      rw [allocated]
      exact .inr (.inl ⟨rfl, rfl, Bool.eq_false_of_not_eq_true closed, Option.some_ne_none _⟩)

/-- How the call returns: with the first bytes of the device in the file and without any failure, or
after one. -/
theorem accounts_returned {steps : Nat} {ok : Int} {progress : Progress}
    (returned : writeUrandomBytesIn pattern length steps = some (ok, progress)) :
    (ok = 0 ∧ pattern.malloc ≠ none ∧ pattern.opens = true ∧ ¬ progress.Failed pattern ∧
      progress.Serves pattern length.toNat ∧
      progress.appended = pattern.bytes 0 length.toNat ∧
      progress.delivered = pattern.bytes 0 length.toNat) ∨
      (ok = -1 ∧ (pattern.malloc = none ∨ pattern.opens = false ∨ progress.Failed pattern)) := by
  rcases returned_cases returned with
    ⟨result, -, absent⟩ | ⟨result, -, closed, -⟩ | ⟨buffer, allocated, opened, place, rfl⟩
  · exact .inr ⟨result, .inl absent⟩
  · exact .inr ⟨result, .inr (.inl closed)⟩
  · have accounts := accounts_iterate pattern length buffer steps
    unfold Filling.Accounts at accounts
    rw [place] at accounts
    rcases accounts with ⟨rfl, delivered, size⟩ | ⟨result, failed⟩
    · obtain ⟨first, reads, writes, passed⟩ := follows_iterate pattern length buffer steps
      have unfailing := passed.resolve_left fun gaveUp =>
        absurd (Place.finished.inj (place.symm.trans gaveUp)) (by decide)
      rw [delivered, size] at first reads
      rw [size] at writes
      rw [allocated]
      exact .inl ⟨rfl, Option.some_ne_none _, opened, unfailing, ⟨reads, writes⟩, first,
        delivered.trans first⟩
    · exact .inr ⟨result, .inr (.inr failed)⟩

/-- The call returns unless there is no end of interruptions. -/
theorem exists_returned (finite : {index | pattern.reads index = .interrupted}.Finite)
    (length : UInt64) :
    ∃ steps ok progress, writeUrandomBytesIn pattern length steps = some (ok, progress) := by
  unfold writeUrandomBytesIn
  cases allocated : pattern.malloc with
  | none => exact ⟨0, -1, .start, rfl⟩
  | some buffer =>
    cases opened : pattern.opens with
    | false => exact ⟨0, -1, .start, rfl⟩
    | true =>
      obtain ⟨steps, ok, place⟩ := exists_ended_iterate finite length buffer
      refine ⟨steps, ok, ((fillStep pattern)^[steps] (.start length buffer)).progress, ?_⟩
      dsimp only
      rw [if_pos rfl, Filling.returned, place]

end Call

/-- When `write_urandom_bytes` returns 0, the file has got the first bytes of the device, as many as
were asked for, which its reads have come to and its writes have taken, without any failure; and the
reads have taken no others. It returns -1 only for want of memory or of the device or when a read or
a write has failed, and it returns for every pattern with finitely many interruptions. -/
theorem random_fill_complete (pattern : Pattern) (length : UInt64) :
    (∀ steps ok progress, writeUrandomBytesIn pattern length steps = some (ok, progress) →
      (ok = 0 ∧ pattern.malloc ≠ none ∧ pattern.opens = true ∧ ¬ progress.Failed pattern ∧
        progress.Serves pattern length.toNat ∧
        progress.appended = pattern.bytes 0 length.toNat ∧
        progress.delivered = pattern.bytes 0 length.toNat) ∨
      (ok = -1 ∧ (pattern.malloc = none ∨ pattern.opens = false ∨ progress.Failed pattern))) ∧
    ({index | pattern.reads index = .interrupted}.Finite →
      ∃ steps ok progress, writeUrandomBytesIn pattern length steps = some (ok, progress)) :=
  ⟨fun _ _ _ returned => accounts_returned returned, fun finite => exists_returned finite length⟩

/-- The first read is interrupted, each later one delivers one byte, and each write takes one. -/
def samplePattern : Pattern where
  malloc := some (Bytes.cleared bufferSize)
  opens := true
  device := UInt8.ofNat
  reads
    | 0 => .interrupted
    | _ + 1 => .delivers 1
  writes _ := 1

theorem random_fill_sample :
    ∃ steps progress, writeUrandomBytesIn samplePattern 3 steps = some (0, progress) ∧
      progress.appended = [0, 1, 2] := by
  have finite : {index | samplePattern.reads index = .interrupted}.Finite := by
    refine (Set.finite_singleton 0).subset fun index interrupted => ?_
    cases index with
    | zero => rfl
    | succ index => cases interrupted
  have unfailing (progress : Progress) : ¬ progress.Failed samplePattern := by
    rintro (⟨index, -, failed | ended⟩ | ⟨index, -, nothing⟩)
    · cases index <;> cases failed
    · cases index <;> cases ended
    · cases nothing
  obtain ⟨complete, returns⟩ := random_fill_complete samplePattern 3
  obtain ⟨steps, ok, progress, returned⟩ := returns finite
  rcases complete steps ok progress returned with
    ⟨rfl, -, -, -, -, appended, -⟩ | ⟨-, absent | closed | failed⟩
  · exact ⟨steps, progress, returned, appended⟩
  · cases absent
  · cases closed
  · exact absurd failed (unfailing progress)

/-! ### After the interruptions -/

/-- A read that is repeated while it is interrupted. -/
inductive Reads (pattern : Pattern) (count : Nat) :
    Progress → SystemResponse (.readUrandom count) → Progress → Prop
  | again {progress next : Progress} {response : SystemResponse (.readUrandom count)}
      (interrupted : pattern.reads progress.readCalls = .interrupted)
      (later : Reads pattern count (progress.read []) response next) :
      Reads pattern count progress response next
  | failed {progress : Progress} (outcome : pattern.reads progress.readCalls = .failed) :
      Reads pattern count progress none (progress.read [])
  | delivered {progress : Progress} {come : Nat}
      (outcome : pattern.reads progress.readCalls = .delivers come) :
      Reads pattern count progress
        (some ⟨pattern.received progress count come, length_received_le ..⟩)
        (progress.read (pattern.received progress count come))

/-- The system of a pattern, as `writeUrandomBytes` sees it. -/
def afterInterruptions (pattern : Pattern) : Surroundings SystemRequest SystemResponse Progress
  | .mallocBuffer, progress, allocated, next => allocated = pattern.malloc ∧ next = progress
  | .openUrandom, progress, opened, next => opened = pattern.opens ∧ next = progress
  | .readUrandom count, progress, response, next => Reads pattern count progress response next
  | .fwrite data, progress, written, next =>
    written.val = min (pattern.writes progress.writeCalls) data.length ∧
      next = progress.write (data.take written.val)
  | _, progress, _, next => next = progress

/-- What a round has still to do when its bytes are written. -/
def afterWriting (remaining amount : Nat) (buffer : Bytes bufferSize) : Bool → System Int
  | false => .done (-1)
  | true => fillRounds (remaining - amount) buffer

/-- What a round has still to do when its bytes are read. -/
def afterReading (remaining amount : Nat) : Option (Bytes bufferSize) → System Int
  | none => .done (-1)
  | some buffer => writeRounds amount 0 buffer >>= afterWriting remaining amount buffer

/-- What the call has still to do from a place on. -/
def Filling.toDo (filling : Filling) : System Int :=
  match filling.place with
  | .outer => fillRounds filling.remaining filling.buffer
  | .reading amount readTotal =>
    readRounds amount readTotal filling.buffer >>= afterReading filling.remaining amount
  | .writing amount writeTotal =>
    writeRounds amount writeTotal filling.buffer >>=
      afterWriting filling.remaining amount filling.buffer
  | .finished ok => .done ok
  | .wrong => .wrong

section Simulation

variable {pattern : Pattern} {remaining amount : Nat} {buffer : Bytes bufferSize}
  {progress final : Progress} {ok : Int}

theorem exec_readStep {readTotal : Nat}
    (rest : Program.Exec (afterInterruptions pattern)
      (readStep pattern amount readTotal
        ⟨.reading amount readTotal, remaining, buffer, progress⟩).toDo
      (readStep pattern amount readTotal
        ⟨.reading amount readTotal, remaining, buffer, progress⟩).progress ok final) :
    Program.Exec (afterInterruptions pattern)
      (readRounds amount readTotal buffer >>= afterReading remaining amount) progress ok final := by
  unfold readStep at rest
  dsimp only at rest
  by_cases more : readTotal < amount
  · rw [if_pos more] at rest
    cases outcome : pattern.reads progress.readCalls with
    | interrupted =>
      rw [outcome] at rest
      dsimp only [Filling.toDo] at rest
      rw [readRounds, if_pos more] at rest ⊢
      -- the same read is asked again, so its answer then is the answer now
      obtain ⟨response, middle, later, continued⟩ := Program.exec_ask.mp rest
      exact .ask (Reads.again outcome later) continued
    | failed =>
      rw [outcome] at rest
      rw [readRounds, if_pos more]
      exact .ask (Reads.failed outcome) rest
    | delivers count =>
      rw [outcome] at rest
      dsimp only at rest
      rw [readRounds, if_pos more]
      refine .ask (Reads.delivered outcome) ?_
      dsimp only
      by_cases nothing : pattern.received progress (amount - readTotal) count = []
      · rw [if_pos nothing] at rest ⊢
        rw [nothing]
        exact rest
      · rw [if_neg nothing] at rest ⊢
        cases stored : buffer.store readTotal
            (pattern.received progress (amount - readTotal) count) with
        | none =>
          rw [stored] at rest
          cases rest
        | some filled =>
          rw [stored] at rest
          exact rest
  · rw [if_neg more] at rest
    rw [readRounds, if_neg more]
    exact rest

theorem exec_writeStep {writeTotal : Nat}
    (rest : Program.Exec (afterInterruptions pattern)
      (writeStep pattern amount writeTotal
        ⟨.writing amount writeTotal, remaining, buffer, progress⟩).toDo
      (writeStep pattern amount writeTotal
        ⟨.writing amount writeTotal, remaining, buffer, progress⟩).progress ok final) :
    Program.Exec (afterInterruptions pattern)
      (writeRounds amount writeTotal buffer >>= afterWriting remaining amount buffer) progress ok
      final := by
  unfold writeStep at rest
  dsimp only at rest
  by_cases more : writeTotal < amount
  · rw [if_pos more] at rest
    rw [writeRounds, if_pos more]
    cases loaded : buffer.load writeTotal (amount - writeTotal) with
    | none =>
      rw [loaded] at rest
      cases rest
    | some data =>
      rw [loaded] at rest
      dsimp only at rest
      have fits : min (pattern.writes progress.writeCalls) data.length < data.length + 1 := by omega
      have answered : afterInterruptions pattern (.fwrite data) progress ⟨_, fits⟩
          (progress.write (data.take (min (pattern.writes progress.writeCalls) data.length))) :=
        ⟨rfl, rfl⟩
      refine .ask answered ?_
      dsimp only
      by_cases nothing : min (pattern.writes progress.writeCalls) data.length = 0
      · rw [if_pos nothing] at rest ⊢
        rw [nothing, List.take_zero]
        exact rest
      · rw [if_neg nothing] at rest ⊢
        exact rest
  · rw [if_neg more] at rest
    rw [writeRounds, if_neg more]
    exact rest

/-- What follows a step, with the step before it, is what the call has to do before the step. -/
theorem exec_fillStep {filling : Filling}
    (rest : Program.Exec (afterInterruptions pattern) (fillStep pattern filling).toDo
      (fillStep pattern filling).progress ok final) :
    Program.Exec (afterInterruptions pattern) filling.toDo filling.progress ok final := by
  obtain ⟨place, remaining, buffer, progress⟩ := filling
  cases place with
  | outer =>
    unfold fillStep at rest
    dsimp only at rest
    by_cases more : 0 < remaining
    · rw [if_pos more] at rest
      rw [Filling.toDo, fillRounds, if_pos more]
      exact rest
    · rw [if_neg more] at rest
      rw [Filling.toDo, fillRounds, if_neg more]
      exact rest
  | reading amount readTotal => exact exec_readStep rest
  | writing amount writeTotal => exact exec_writeStep rest
  | finished ok => exact rest
  | wrong => exact rest

theorem exec_of_iterate {steps : Nat} {filling : Filling}
    (place : ((fillStep pattern)^[steps] filling).place = .finished ok) :
    Program.Exec (afterInterruptions pattern) filling.toDo filling.progress ok
      ((fillStep pattern)^[steps] filling).progress := by
  induction steps generalizing filling with
  | zero =>
    rw [Function.iterate_zero_apply] at place ⊢
    rw [Filling.toDo, place]
    exact .done _ _
  | succ steps inductionHypothesis =>
    rw [Function.iterate_succ_apply] at place ⊢
    exact exec_fillStep (inductionHypothesis place)

/-- How the call returns with every interruption a step of its own, it returns in the model that
has each read only after its interruptions. -/
theorem exec_of_returned {length : UInt64} {steps : Nat}
    (returned : writeUrandomBytesIn pattern length steps = some (ok, final)) :
    Program.Exec (afterInterruptions pattern) (writeUrandomBytes length) .start ok final := by
  have allocates (block : Option (Bytes bufferSize)) (given : block = pattern.malloc) :
      afterInterruptions pattern .mallocBuffer .start block .start := ⟨given, rfl⟩
  have opens (opened : Bool) (answer : opened = pattern.opens) :
      afterInterruptions pattern .openUrandom .start opened .start := ⟨answer, rfl⟩
  have freed (progress : Progress) (ok : Int) : Program.Exec (afterInterruptions pattern)
      (onSystem (freeBlock (some (.plaintext (zeros bufferSize)))) >>= fun _ => pure ok) progress
      ok progress := by
    have idle : afterInterruptions pattern
        (.stdio (.free (.plaintext (zeros bufferSize)))) progress () progress := rfl
    exact .ask idle (.done _ _)
  rcases returned_cases returned with
    ⟨rfl, rfl, absent⟩ | ⟨rfl, rfl, closed, present⟩ | ⟨buffer, allocated, opened, place, rfl⟩
  · exact .ask (allocates none absent.symm) (.done _ _)
  · obtain ⟨buffer, allocated⟩ := Option.ne_none_iff_exists'.mp present
    exact .ask (allocates (some buffer) allocated.symm) (.ask (opens false closed.symm) (freed _ _))
  · have filled := exec_of_iterate place
    have closes (progress : Progress) :
        afterInterruptions pattern .closeUrandom progress () progress := rfl
    refine .ask (allocates (some buffer) allocated.symm) ?_
    refine Program.exec_request_bind.mpr ⟨true, .start, opens true opened.symm, ?_⟩
    exact Program.exec_bind.mpr ⟨ok, _, filled, .ask (closes _) (freed _ _)⟩

end Simulation

end Padlock
