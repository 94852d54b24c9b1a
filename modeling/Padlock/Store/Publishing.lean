/-
This file follows `padlock_allocate` through its steps and checks their order.
The store is made under a temporary name and put in place by a rename. A watcher
keeps note of what is open, of what has been written and of what has reached the
disk. It objects to a rename before the filling and the header are written,
flushed, synced and closed, to any use of a descriptor or stream that is not
open, and to the removal of a file that the call did not create.

Whatever fails on the way, the call ends with everything closed and given back.
It returns 0 exactly when the rename has put the file in place, and otherwise it
has tried to remove the temporary file.
-/

import Padlock.Library.Watcher
import Padlock.Store.Allocate

namespace Padlock

open Interaction Program

/-! ### The note -/

/-- What an allocation has in hand and how far its file has come: the descriptor from `mkstemp`, the
stream made of it, the descriptor of `/dev/urandom`, heap blocks, the temporary name, the bytes of
filling, whether the header is written, whether all that was written is flushed and synced, whether
the rename has succeeded, and whether the removal of the temporary file has failed. -/
structure Work where
  descriptor : Bool := false
  stream : Bool := false
  urandom : Bool := false
  blocks : Nat := 0
  temporary : Option CString := none
  written : Nat := 0
  headed : Bool := false
  flushed : Bool := false
  synced : Bool := false
  published : Bool := false
  stuck : Bool := false

/-- Nothing is open or held. -/
structure Work.Released (work : Work) : Prop where
  descriptor : work.descriptor = false
  stream : work.stream = false
  urandom : work.urandom = false
  blocks : work.blocks = 0

instance (work : Work) : Decidable work.Released :=
  decidable_of_iff (work.descriptor = false ∧ work.stream = false ∧ work.urandom = false ∧
    work.blocks = 0)
    ⟨fun ⟨descriptor, stream, urandom, blocks⟩ => ⟨descriptor, stream, urandom, blocks⟩,
      fun released => ⟨released.descriptor, released.stream, released.urandom, released.blocks⟩⟩

/-- The temporary file is a whole store on the disk: all of the filling and then the header have
been written, flushed, synced and closed. -/
structure Work.Ready (size : Nat) (work : Work) : Prop where
  released : work.Released
  written : work.written = size
  headed : work.headed = true
  synced : work.synced = true

instance (size : Nat) (work : Work) : Decidable (work.Ready size) :=
  decidable_of_iff (work.Released ∧ work.written = size ∧ work.headed = true ∧ work.synced = true)
    ⟨fun ⟨released, written, headed, synced⟩ => ⟨released, written, headed, synced⟩,
      fun ready => ⟨ready.released, ready.written, ready.headed, ready.synced⟩⟩

/-- The rules of an allocation at a path. -/
def publishing (path : CString) (size : Nat) : Watcher SystemRequest SystemResponse Work
  | .mkdir _ _, _, work => some work
  | .chmod _ _, _, work => some work
  | .randBytes _, _, work => some work
  | .mkstemp _, created, work =>
    if work.Released ∧ work.temporary = none then
      match created with
      | some temporary => some { work with descriptor := true, temporary := some temporary }
      | none => some work
    else none
  | .fchmod _, _, work => if work.descriptor then some work else none
  | .fdopen, opened, work =>
    if work.descriptor then some { work with descriptor := !opened, stream := opened } else none
  | .mallocBuffer, block, work =>
    match block with
    | some _ => some { work with blocks := work.blocks + 1 }
    | none => some work
  | .openUrandom, opened, work =>
    if work.urandom then none else some { work with urandom := opened }
  | .readUrandom _, _, work => if work.urandom then some work else none
  | .closeUrandom, _, work => if work.urandom then some { work with urandom := false } else none
  | .fwrite _, count, work =>
    -- the filling goes before the header, which overwrites its beginning
    if work.stream ∧ work.headed = false then
      some { work with written := work.written + count.val, flushed := false, synced := false }
    else none
  | .stdio (.seekWrite offset data), count, work =>
    if work.stream then
      some { work with
        headed := offset = 0 ∧ data.length = padlockHeaderSize ∧ count = data.length
        flushed := false
        synced := false }
    else none
  | .fflush, ended, work => if work.stream then some { work with flushed := ended } else none
  | .fsync, ended, work =>
    if work.stream then some { work with synced := ended && work.flushed } else none
  | .stdio .fclose, closed, work =>
    if work.stream then
      some { work with stream := false, synced := closed && work.synced }
    else none
  | .close, _, work => if work.descriptor then some { work with descriptor := false } else none
  | .stdio (.free _), _, work =>
    if 0 < work.blocks then some { work with blocks := work.blocks - 1 } else none
  | .rename source target, renamed, work =>
    if work.temporary = some source ∧ target = path ∧ work.Ready size then
      if renamed then some { work with temporary := none, published := true } else some work
    else none
  | .unlink name, removed, work =>
    if work.temporary = some name ∧ work.Released then
      if removed then some { work with temporary := none } else some { work with stuck := true }
    else none
  | .stdio (.fopen _ _), _, _ => none
  | .stdio (.malloc _), _, _ => none
  | .stdio (.seekRead _ _), _, _ => none

/-! ### The filling -/

section Filling

variable {path temporary : CString} {size : Nat}

/-- The note while the file is filled: so much of it is written. -/
def Work.filling (temporary : CString) (reading : Bool) (blocks written : Nat) : Work :=
  { stream := true, urandom := reading, blocks, temporary := some temporary, written }

theorem obeys_readRounds (amount readTotal : Nat) (buffer : Bytes bufferSize)
    (blocks written : Nat) :
    (readRounds amount readTotal buffer).Obeys (publishing path size)
      (Work.filling temporary true blocks written) fun _ last =>
        last = Work.filling temporary true blocks written := by
  induction readTotal, buffer using readRounds.induct amount with
  | case1 readTotal buffer more inductionHypothesis =>
    rw [readRounds, if_pos more]
    intro response
    refine ⟨_, rfl, ?_⟩
    cases response with
    | none => rfl
    | some read =>
      dsimp only
      split
      · rfl
      · rename_i nonempty
        exact obeys_bounded fun stored _ =>
          inductionHypothesis read.val read.property nonempty stored
  | case2 readTotal buffer whole =>
    rw [readRounds, if_neg whole]
    rfl

/-- What has been written when a part of the filling ends: all of it after a success. -/
def Filled (temporary : CString) (blocks goal : Nat) (success : Prop) (last : Work) : Prop :=
  ∃ written, last = Work.filling temporary true blocks written ∧ (success → written = goal)

theorem obeys_writeRounds (amount writeTotal : Nat) (buffer : Bytes bufferSize)
    (blocks written : Nat) (within : writeTotal ≤ amount) :
    (writeRounds amount writeTotal buffer).Obeys (publishing path size)
      (Work.filling temporary true blocks written) fun finished last =>
        Filled temporary blocks (written + (amount - writeTotal)) (finished = true) last := by
  induction writeTotal using writeRounds.induct amount generalizing written with
  | case1 writeTotal more inductionHypothesis =>
    rw [writeRounds, if_pos more]
    refine obeys_bounded fun data loaded => ?_
    have dataLength : data.length = amount - writeTotal := by
      obtain ⟨inside, rfl⟩ := Bytes.load_eq_some.mp loaded
      exact Span.length_read_of_le (by rw [buffer.lengthEq]; exact inside)
    intro count
    refine ⟨Work.filling temporary true blocks (written + count.val), rfl, ?_⟩
    dsimp only
    split
    · exact ⟨_, rfl, nofun⟩
    · rename_i nonzero
      have bound := count.isLt
      refine (inductionHypothesis data count nonzero _ (by omega)).imp
        fun finished last filled => ?_
      obtain ⟨total, rfl, whole⟩ := filled
      exact ⟨total, rfl, fun ended => by rw [whole ended]; omega⟩
  | case2 writeTotal ended =>
    rw [writeRounds, if_neg ended]
    exact ⟨written, rfl, fun _ => by omega⟩

theorem obeys_fillRounds (remaining : Nat) (buffer : Bytes bufferSize) (blocks written : Nat) :
    (fillRounds remaining buffer).Obeys (publishing path size)
      (Work.filling temporary true blocks written) fun ok last =>
        Filled temporary blocks (written + remaining) (ok = 0) last := by
  induction remaining, buffer using fillRounds.induct generalizing written with
  | case1 remaining buffer more inductionHypothesis =>
    rw [fillRounds, if_pos more]
    refine (obeys_readRounds ..).bind ?_
    rintro (_ | filled) last rfl
    · exact ⟨_, rfl, nofun⟩
    · refine (obeys_writeRounds _ _ _ _ _ (Nat.zero_le _)).bind ?_
      rintro (_ | _) last ⟨total, rfl, whole⟩
      · exact ⟨_, rfl, nofun⟩
      · have within := roundAmount_le remaining
        refine (inductionHypothesis filled total).imp fun ok last filled => ?_
        obtain ⟨final, rfl, finished⟩ := filled
        exact ⟨final, rfl, fun ended => by rw [finished ended, whole rfl]; omega⟩
  | case2 remaining buffer ended =>
    rw [fillRounds, if_neg ended]
    exact ⟨written, rfl, fun _ => by omega⟩

/-- The filling takes a block and a descriptor and gives both back. -/
theorem obeys_writeUrandomBytes (length : UInt64) :
    (writeUrandomBytes length).Obeys (publishing path size) (Work.filling temporary false 0 0)
      fun ok last => ∃ written, last = Work.filling temporary false 0 written ∧
        (ok = 0 → written = length.toNat) := by
  unfold writeUrandomBytes
  intro block
  cases block with
  | none => exact ⟨_, rfl, 0, rfl, nofun⟩
  | some buffer =>
    refine ⟨Work.filling temporary false 1 0, rfl, fun opened => ?_⟩
    refine ⟨Work.filling temporary opened 1 0, rfl, ?_⟩
    cases opened with
    | false => exact fun _ => ⟨_, rfl, 0, rfl, nofun⟩
    | true =>
      refine (obeys_fillRounds ..).bind ?_
      rintro ok last ⟨written, rfl, whole⟩
      intro closed
      refine ⟨Work.filling temporary false 1 written, rfl, fun freed => ?_⟩
      refine ⟨Work.filling temporary false 0 written, rfl, written, rfl, fun ended => ?_⟩
      rw [whole ended, Nat.zero_add]

end Filling

/-! ### The whole call -/

section Call

variable {path temporary : CString} {size : UInt64}

/-- The note when the clean-up begins: what it is told to be open is open, the temporary file is
there unless it was renamed, and the result is 0 after the rename only. -/
structure AtCleanUp (temporary : CString) (finish : AllocateEnd) (work : Work) : Prop where
  descriptor : work.descriptor = finish.fd
  stream : work.stream = finish.file
  one : (finish.fd && finish.file) = false
  urandom : work.urandom = false
  blocks : work.blocks = 0
  temporary : work.temporary = if work.published then none else some temporary
  published : finish.ok = if work.published then 0 else -1

/-- The note once the file is filled, with what has happened to the header. -/
def Work.whole (temporary : CString) (size : UInt64) (stream headed flushed synced : Bool) : Work :=
  { stream, temporary := some temporary, written := size.toNat, headed, flushed, synced }

/-- The header is one write at the beginning of the file. -/
theorem obeys_writeHeader (header : Header) :
    (onSystem (writeHeader header)).Obeys (publishing path size.toNat)
      (Work.whole temporary size true false false false) fun written last =>
        last = Work.whole temporary size true written false false := by
  intro count
  have length : (headerBytes header).toList.length = padlockHeaderSize :=
    (headerBytes header).lengthEq
  refine ⟨Work.whole temporary size true (count == (headerBytes header).toList.length) false false,
    ?_, rfl⟩
  show some { Work.whole temporary size true false false false with
    headed := decide ((0 : Nat) = 0 ∧ (headerBytes header).toList.length = padlockHeaderSize ∧
      count = (headerBytes header).toList.length)
    flushed := false, synced := false } = _
  rw [length, Work.whole, Work.whole, Option.some.injEq, Work.mk.injEq]
  simp only [true_and, and_true]
  rfl

theorem obeys_allocateStore (ssl : OpenSsl) (password : CString) :
    (allocateStore ssl path temporary size password).Obeys (publishing path size.toNat)
      { descriptor := true, temporary := some temporary } (AtCleanUp temporary) := by
  unfold allocateStore
  intro restricted
  refine ⟨_, rfl, ?_⟩
  cases restricted with
  | false => exact ⟨rfl, rfl, rfl, rfl, rfl, rfl, rfl⟩
  | true =>
  intro opened
  refine ⟨_, rfl, ?_⟩
  cases opened with
  | false => exact ⟨rfl, rfl, rfl, rfl, rfl, rfl, rfl⟩
  | true =>
  refine (obeys_writeUrandomBytes size).bind ?_
  rintro filled last ⟨written, rfl, whole⟩
  dsimp only
  split
  · exact ⟨rfl, rfl, rfl, rfl, rfl, rfl, rfl⟩
  rename_i succeeded
  obtain rfl : written = size.toNat := whole (not_not.mp succeeded)
  -- the file is filled: what fails from here on leaves the stream open
  have failed (headed flushed synced : Bool) : AtCleanUp temporary
      { ok := -1, file := true, fd := false }
      (Work.whole temporary size true headed flushed synced) :=
    ⟨rfl, rfl, rfl, rfl, rfl, rfl, rfl⟩
  intro salt
  refine ⟨Work.whole temporary size true false false false, rfl, ?_⟩
  cases salt with
  | none => exact failed false false false
  | some salt =>
  intro iv
  refine ⟨Work.whole temporary size true false false false, rfl, ?_⟩
  cases iv with
  | none => exact failed false false false
  | some iv =>
  intro xtsKey
  refine ⟨Work.whole temporary size true false false false, rfl, ?_⟩
  cases xtsKey with
  | none => exact failed false false false
  | some xtsKey =>
  refine obeys_bounded fun header encrypted => ?_
  cases header with
  | none => exact failed false false false
  | some header =>
  refine (obeys_writeHeader header).bind ?_
  rintro (_ | _) last rfl
  · exact failed false false false
  intro flushed
  refine ⟨Work.whole temporary size true true flushed false, rfl, ?_⟩
  cases flushed with
  | false => exact failed true false false
  | true =>
  intro synced
  refine ⟨Work.whole temporary size true true true synced, ?_, ?_⟩
  · cases synced <;> rfl
  cases synced with
  | false => exact failed true true false
  | true =>
  intro closed
  refine ⟨Work.whole temporary size false true true closed, ?_, ?_⟩
  · cases closed <;> rfl
  cases closed with
  | false => exact ⟨rfl, rfl, rfl, rfl, rfl, rfl, rfl⟩
  | true =>
  intro renamed
  have ready : (Work.whole temporary size false true true true).temporary = some temporary ∧
      path = path ∧ (Work.whole temporary size false true true true).Ready size.toNat :=
    ⟨rfl, rfl, ⟨rfl, rfl, rfl, rfl⟩, rfl, rfl, rfl⟩
  cases renamed with
  | true => exact ⟨_, (if_pos ready).trans rfl, rfl, rfl, rfl, rfl, rfl, rfl, rfl⟩
  | false => exact ⟨_, (if_pos ready).trans rfl, rfl, rfl, rfl, rfl, rfl, rfl, rfl⟩

/-- The end of a call that has everything closed: it has put its file in place, or the temporary
file is gone or could not be removed. -/
structure Work.Ended (work : Work) : Prop where
  released : work.Released
  removed : work.published = false → work.temporary = none ∨ work.stuck = true

/-- The temporary file is removed after a failure. -/
theorem obeys_removal {ok : Int} {work : Work} (released : work.Released)
    (held : work.temporary = if work.published then none else some temporary)
    (returned : ok = if work.published then 0 else -1) :
    (do
      if ok ≠ 0 then
        let _ : Bool ← call (.unlink temporary) : System Unit).Obeys
      (publishing path size.toNat) work fun _ last =>
        last.Ended ∧ last.published = work.published := by
  obtain ⟨descriptor, stream, urandom, blocks, kept, written, headed, flushed, synced, published,
    stuck⟩ := work
  cases published with
  | true =>
    obtain rfl : ok = 0 := returned
    exact ⟨⟨released, nofun⟩, rfl⟩
  | false =>
    obtain rfl : ok = -1 := returned
    obtain rfl : kept = some temporary := held
    have owned : some temporary = some temporary ∧ Work.Released _ := ⟨rfl, released⟩
    intro removed
    cases removed with
    | true =>
      exact ⟨_, (if_pos owned).trans rfl,
        ⟨⟨released.1, released.2, released.3, released.4⟩, fun _ => .inl rfl⟩, rfl⟩
    | false =>
      exact ⟨_, (if_pos owned).trans rfl,
        ⟨⟨released.1, released.2, released.3, released.4⟩, fun _ => .inr rfl⟩, rfl⟩

theorem obeys_allocateCleanUp {finish : AllocateEnd} {work : Work}
    (start : AtCleanUp temporary finish work) :
    (allocateCleanUp temporary finish).Obeys (publishing path size.toNat) work fun _ last =>
      last.Ended ∧ last.published = work.published := by
  obtain ⟨ok, file, fd⟩ := finish
  obtain ⟨descriptor, stream, urandom, blocks, kept, written, headed, flushed, synced, published,
    stuck⟩ := work
  obtain ⟨rfl, rfl, one, rfl, rfl, held, returned⟩ := start
  unfold allocateCleanUp
  cases stream with
  | true =>
    obtain rfl : descriptor = false := by simpa using one
    intro closed
    exact ⟨_, rfl, obeys_removal ⟨rfl, rfl, rfl, rfl⟩ held returned⟩
  | false =>
    cases descriptor with
    | true =>
      intro closed
      exact ⟨_, rfl, obeys_removal ⟨rfl, rfl, rfl, rfl⟩ held returned⟩
    | false => exact obeys_removal ⟨rfl, rfl, rfl, rfl⟩ held returned

theorem obeys_ensureParentDirectory (directory : CString) :
    (ensureParentDirectory directory).Obeys (publishing path size.toNat) {}
      fun _ last => last = {} := by
  unfold ensureParentDirectory
  split
  · rfl
  · cases parentOf directory.bytes with
    | none => rfl
    | some parent =>
      intro made
      refine ⟨{}, rfl, ?_⟩
      cases made with
      | failed => rfl
      | created => exact fun _ => ⟨{}, rfl, rfl⟩
      | present => exact fun _ => ⟨{}, rfl, rfl⟩

/-- An allocation keeps to the rules whatever fails: it renames nothing but its own temporary file,
to the path it was given, and only once all of the filling and then the header are written, flushed,
synced and closed. It ends with nothing open or held. It returns 0 exactly when the rename has
succeeded; otherwise the temporary file is gone, unless it was never made or its removal failed. -/
theorem allocate_publishes (ssl : OpenSsl) (path : CString) (size : UInt64)
    (password : Option CString) :
    (padlockAllocate ssl (some path) size password).Obeys (publishing path size.toNat) {}
      fun result last => last.Ended ∧ (result = 0 ↔ last.published = true) := by
  have idle (work : Work) (same : work = {}) :
      work.Ended ∧ ((-1 : Int) = 0 ↔ work.published = true) := by
    subst same
    exact ⟨⟨⟨rfl, rfl, rfl, rfl⟩, fun _ => .inl rfl⟩, by decide⟩
  unfold padlockAllocate
  cases password with
  | none => exact idle _ rfl
  | some password =>
  dsimp only
  split
  · exact idle _ rfl
  refine (obeys_ensureParentDirectory path).bind ?_
  rintro ensured last rfl
  split
  · exact idle _ rfl
  split
  · exact idle _ rfl
  have fresh : Work.Released {} ∧ ({} : Work).temporary = none := ⟨⟨rfl, rfl, rfl, rfl⟩, rfl⟩
  intro created
  cases created with
  | none => exact ⟨{}, by rw [publishing, if_pos fresh], idle _ rfl⟩
  | some temporary =>
    refine ⟨{ descriptor := true, temporary := some temporary },
      by rw [publishing, if_pos fresh], ?_⟩
    refine (obeys_allocateStore ssl password).bind fun finish work start => ?_
    refine (obeys_allocateCleanUp start).bind fun _ last ended => ⟨ended.1, ?_⟩
    rw [start.published, ended.2]
    cases work.published <;> decide

end Call

end Padlock
