/-
This file follows what a store call holds while it runs: its stream and its heap
blocks. A watcher keeps the account. It objects to opening any file but the one
the call was given, to a read or a write without an open stream, to a write
through a stream opened for reading, and to giving back more blocks than were
got.

`padlock_set` gives back all it gets whatever fails on the way. `padlock_get`
keeps the one block it hands to its caller; only when the block for a copy is
refused do the two blocks of the record's front part stay behind. So a sequence
of calls keeps the blocks of its answers and nothing else, as long as no block
is refused.
-/

import Padlock.Library.Watcher
import Padlock.Store.Log

namespace Padlock

open Interaction Program

/-! ### The account -/

deriving instance DecidableEq for OpenMode

/-- What calls have in hand: the mode of the open stream, how many heap blocks there are, and
whether a block was ever refused. -/
structure Holdings where
  stream : Option OpenMode
  blocks : Nat
  refused : Bool

/-- Nothing in hand. -/
def Holdings.none : Holdings := { stream := .none, blocks := 0, refused := false }

/-- The stream is open and so many blocks are held. -/
structure Holdings.Open (held : Holdings) (mode : OpenMode) (blocks : Nat) : Prop where
  stream : held.stream = some mode
  blocks : held.blocks = blocks

/-- The stream is closed and so many blocks are held. -/
structure Holdings.Closed (held : Holdings) (blocks : Nat) : Prop where
  stream : held.stream = .none
  blocks : held.blocks = blocks

/-- What a pointer to a block counts for. -/
def blockCount {Held : Type} : Option Held → Nat
  | some _ => 1
  | none => 0

theorem blockCount_map {Held Other : Type} (pointer : Option Held) (view : Held → Other) :
    blockCount (pointer.map view) = blockCount pointer := by
  cases pointer <;> rfl

/-- The account of streams and blocks, for calls on one path. A stream is gone after `fclose`, also
when that reports a failure. -/
def account (path : Option CString) : Watcher Request Response Holdings
  | .fopen asked mode, opened, held =>
    if held.stream = none ∧ some asked = path then
      some { held with stream := if opened then some mode else none }
    else none
  | .fclose, _, held => if held.stream ≠ none then some { held with stream := none } else none
  | .seekRead _ _, _, held => if held.stream ≠ none then some held else none
  | .seekWrite _ _, _, held => if held.stream = some .update then some held else none
  | .malloc _, granted, held =>
    some (if granted then { held with blocks := held.blocks + 1 }
      else { held with refused := true })
  | .free _, _, held =>
    if 0 < held.blocks then some { held with blocks := held.blocks - 1 } else none

section Rules

variable {Result Outcome : Type} {path : Option CString} {held : Holdings}
  {suits : Outcome → Holdings → Prop}

theorem obeys_malloc {size : Nat} {next : Bool → Stdio Outcome}
    (granted : (next true).Obeys (account path) { held with blocks := held.blocks + 1 } suits)
    (denied : (next false).Obeys (account path) { held with refused := true } suits) :
    (ask (.malloc size) >>= next).Obeys (account path) held suits := by
  intro response
  cases response with
  | true => exact ⟨_, rfl, granted⟩
  | false => exact ⟨_, rfl, denied⟩

/-- Giving back a block that is held, or a null pointer. -/
theorem obeys_freeBlock {block : Option Block} {rest : Nat} {next : Unit → Stdio Outcome}
    (among : held.blocks = rest + blockCount block)
    (obeys : (next ()).Obeys (account path) { held with blocks := rest } suits) :
    (freeBlock block >>= next).Obeys (account path) held suits := by
  obtain ⟨stream, blocks, refused⟩ := held
  obtain rfl : blocks = rest + blockCount block := among
  cases block with
  | none => exact obeys
  | some block =>
    intro response
    exact ⟨{ stream, blocks := rest, refused }, rfl, obeys⟩

theorem obeys_free_two {first second : Option Block} {result : Outcome} {rest : Nat}
    (among : held.blocks = rest + blockCount second + blockCount first)
    (ends : suits result { held with blocks := rest }) :
    (do
      freeBlock first
      freeBlock second
      return result).Obeys (account path) held suits :=
  obeys_freeBlock among (obeys_freeBlock rfl ends)

theorem obeys_free_four {first second third fourth : Option Block} {result : Outcome} {rest : Nat}
    (among : held.blocks = rest + blockCount fourth + blockCount third + blockCount second +
      blockCount first)
    (ends : suits result { held with blocks := rest }) :
    (do
      freeBlock first
      freeBlock second
      freeBlock third
      freeBlock fourth
      return result).Obeys (account path) held suits :=
  obeys_freeBlock among (obeys_freeBlock rfl (obeys_free_two rfl ends))

theorem obeys_seekRead {offset : UInt64} {count : Nat} {next : Option (Bytes count) → Stdio Outcome}
    {mode : OpenMode} (opened : held.stream = some mode)
    (obeys : ∀ read, (next read).Obeys (account path) held suits) :
    (seekRead offset count >>= next).Obeys (account path) held suits := by
  unfold seekRead
  split
  · intro response
    refine ⟨held, ?_, obeys _⟩
    rw [account, opened, if_pos (Option.some_ne_none mode)]
  · exact obeys _

theorem obeys_seekWrite {offset : UInt64} {data : List UInt8} {next : Bool → Stdio Outcome}
    (opened : held.stream = some .update)
    (obeys : ∀ written, (next written).Obeys (account path) held suits) :
    (seekWrite offset data >>= next).Obeys (account path) held suits := by
  unfold seekWrite
  split
  · intro response
    refine ⟨held, ?_, obeys _⟩
    rw [account, if_pos opened]
  · exact obeys _

theorem obeys_readHeader {next : Option Header → Stdio Outcome} {mode : OpenMode}
    (opened : held.stream = some mode)
    (obeys : ∀ header, (next header).Obeys (account path) held suits) :
    (readHeader >>= next).Obeys (account path) held suits := by
  unfold readHeader
  rw [Program.bind_assoc]
  refine obeys_seekRead opened fun read => ?_
  cases read <;> exact obeys _

/-- What both calls do around their work: the stream is opened before it, and closed behind it if
it was opened. -/
theorem obeys_opened {path : CString} {mode : OpenMode} {work : Stdio Result} {unopened : Result}
    {next : Result → Stdio Outcome} {blocks : Nat} (start : held.Closed blocks)
    (within : work.Obeys (account path) { held with stream := some mode } fun result last =>
      last.stream = some mode ∧
        (next result).Obeys (account path) { last with stream := none } suits)
    (without : (next unopened).Obeys (account path) held suits) :
    (do
      let opened : Bool ← ask (.fopen path mode)
      let finish ← if opened then work else pure unopened
      if opened then
        let _ : Bool ← ask .fclose
      next finish).Obeys (account path) held suits := by
  intro opened
  refine ⟨{ held with stream := if opened then some mode else none }, ?_, ?_⟩
  · rw [account, if_pos ⟨start.stream, rfl⟩]
  cases opened with
  | true =>
    refine within.bind fun result last ended => ?_
    dsimp only
    rw [if_pos rfl]
    intro response
    refine ⟨{ last with stream := none }, ?_, ended.2⟩
    rw [account, ended.1, if_pos (Option.some_ne_none mode)]
  | false =>
    rw [if_neg Bool.false_ne_true, ← start.stream]
    exact without

end Rules

/-! ### Setting -/

section Set

variable {path : Option CString} {held : Holdings} {blocks : Nat}

theorem obeys_setStore (ssl : OpenSsl) (password key : CString) (value : Value)
    (start : held.Open .update blocks) :
    (setStore ssl password key value).Obeys (account path) held fun finish last =>
      last.Open .update (blocks + blockCount finish.cipher + blockCount finish.plain) := by
  obtain ⟨stream, count, refused⟩ := held
  obtain ⟨rfl, rfl⟩ : stream = some .update ∧ count = blocks := ⟨start.stream, start.blocks⟩
  unfold setStore
  refine obeys_readHeader rfl fun header => ?_
  cases header with
  | none => exact start
  | some header =>
    refine obeys_bounded fun secret decrypted => ?_
    cases secret with
    | none => exact start
    | some xtsKey =>
      dsimp only
      split
      · exact start
      · refine obeys_malloc (obeys_malloc ?_ ?_) (obeys_malloc ?_ ?_)
        · -- both blocks are there, and are in hand wherever the rest ends
          rw [if_neg (by decide)]
          refine obeys_bounded fun plain built => ?_
          split
          · refine obeys_seekWrite rfl fun written => ?_
            split
            · exact ⟨rfl, rfl⟩
            · refine obeys_seekWrite rfl fun headerWritten => ?_
              split <;> exact ⟨rfl, rfl⟩
          · exact ⟨rfl, rfl⟩
        · exact ⟨rfl, rfl⟩
        · exact ⟨rfl, rfl⟩
        · exact ⟨rfl, rfl⟩

/-- A set gives back all it gets, whatever fails on the way. -/
theorem obeys_padlockSet (ssl : OpenSsl) (path password key : Option CString) (value : Option Value)
    (start : held.Closed blocks) :
    (padlockSet ssl path password key value).Obeys (account path) held fun _ last =>
      last.Closed blocks := by
  unfold padlockSet
  cases path with
  | none => exact start
  | some path =>
  cases password with
  | none => exact start
  | some password =>
  cases key with
  | none => exact start
  | some key =>
  cases value with
  | none => exact start
  | some value =>
  dsimp only
  split
  · exact start
  · refine obeys_opened start ?_ ?_
    · have opened : Holdings.Open { held with stream := some .update } .update blocks :=
        ⟨rfl, start.blocks⟩
      refine (obeys_setStore ssl password key value opened).imp fun finish last ended => ?_
      exact ⟨ended.stream, obeys_free_two ended.blocks ⟨rfl, rfl⟩⟩
    · exact obeys_free_two start.blocks ⟨start.stream, rfl⟩

end Set

/-! ### Looking up -/

section Get

variable (ssl : OpenSsl) (xtsKey : Bytes padlockXtsKeySize) (header : Header) (key : CString)
  {path : Option CString} {mode : OpenMode} {held : Holdings} {blocks : Nat}

/-- The front part of a record: when it is read, its two blocks are in hand beside the others. -/
theorem obeys_readPrefix (offset : UInt64) (keySize : UInt8) (start : held.Open mode blocks) :
    (readPrefix ssl xtsKey header offset keySize).Obeys (account path) held fun front last =>
      last.Open mode (blocks + 2 * blockCount front) := by
  unfold readPrefix
  dsimp only
  split
  · exact start
  · refine obeys_malloc (obeys_malloc ?_ ?_) (obeys_malloc ?_ ?_)
    · rw [if_neg (by decide)]
      refine obeys_seekRead start.stream fun read => ?_
      cases read with
      | none => exact obeys_free_two rfl start
      | some cipher =>
        dsimp only
        split
        · exact ⟨start.stream, by rw [start.blocks]; rfl⟩
        · exact obeys_free_two rfl start
    · exact obeys_free_two rfl ⟨start.stream, start.blocks⟩
    · exact obeys_free_two rfl ⟨start.stream, start.blocks⟩
    · exact obeys_free_two rfl ⟨start.stream, start.blocks⟩

/-- The end of the scan before its time: so many blocks are held, or two more after a refusal. -/
def Holdings.Breaks (held : Holdings) (mode : OpenMode) (blocks : Nat) : Prop :=
  held.Open mode blocks ∨ held.refused = true ∧ held.Open mode (blocks + 2)

/-- What is held at the end of a round beside what was held before: the copy, if there is one. -/
def RoundHeld (mode : OpenMode) (blocks : Nat) (offset : UInt64) : Round offset → Holdings → Prop
  | .done found, last => last.Breaks mode (blocks + blockCount found)
  | .next _ _ found, last => last.Open mode (blocks + blockCount found)

theorem obeys_readEntry (offset : UInt64) (seekable : offset.toNat < 2 ^ 63) (keySize : UInt8)
    (valueLength : UInt32) (prefixSize : Nat) (found : Option Found)
    (start : held.Open mode (blocks + blockCount found + 2)) :
    (readEntry ssl xtsKey header key offset seekable keySize valueLength prefixSize found).Obeys
      (account path) held (RoundHeld mode blocks offset) := by
  obtain ⟨stream, count, refused⟩ := held
  obtain ⟨rfl, rfl⟩ : stream = some mode ∧ count = blocks + blockCount found + 2 :=
    ⟨start.stream, start.blocks⟩
  unfold readEntry
  dsimp only
  split
  · exact obeys_freeBlock rfl (obeys_freeBlock rfl (.inl ⟨rfl, rfl⟩))
  refine obeys_malloc (obeys_malloc ?_ ?_) (obeys_malloc ?_ ?_)
  · rw [if_neg (by decide)]
    refine obeys_seekRead rfl fun read => ?_
    cases read with
    | none => exact obeys_free_four rfl (.inl ⟨rfl, rfl⟩)
    | some cipher =>
      dsimp only
      cases cryptXts ssl false xtsKey offset cipher with
      | none => exact obeys_free_four rfl (.inl ⟨rfl, rfl⟩)
      | some plain =>
        dsimp only
        split
        · refine obeys_bounded fun entryKey loaded => ?_
          split
          · refine obeys_malloc ?_ ?_
            · -- the copy takes the place of the one held before
              rw [if_neg (by decide)]
              refine obeys_bounded fun copy copied => ?_
              refine obeys_freeBlock ?_ (obeys_free_four rfl ⟨rfl, rfl⟩)
              cases found <;> rfl
            · -- here the two blocks of the front part stay behind
              rw [if_pos (by decide)]
              exact obeys_free_two rfl (.inr ⟨rfl, rfl, rfl⟩)
          · exact obeys_free_four rfl ⟨rfl, rfl⟩
        · exact obeys_free_four rfl ⟨rfl, rfl⟩
  · exact obeys_free_four rfl (.inl ⟨rfl, rfl⟩)
  · exact obeys_free_four rfl (.inl ⟨rfl, rfl⟩)
  · exact obeys_free_four rfl (.inl ⟨rfl, rfl⟩)

theorem obeys_scanRound (offset : UInt64) (found : Option Found)
    (start : held.Open mode (blocks + blockCount found)) :
    (scanRound ssl xtsKey header key offset found).Obeys (account path) held
      (RoundHeld mode blocks offset) := by
  unfold scanRound
  split
  · refine obeys_seekRead start.stream fun read => ?_
    cases read with
    | none => exact .inl start
    | some cipher =>
      dsimp only
      cases cryptXts ssl false xtsKey offset cipher with
      | none => exact .inl start
      | some block =>
        dsimp only
        split
        · exact .inl start
        · refine (obeys_readPrefix ssl xtsKey header offset _ start).bind ?_
          intro front last opened
          cases front with
          | none => exact .inl opened
          | some front =>
            refine obeys_bounded fun valueLength loaded => ?_
            exact obeys_readEntry ssl xtsKey header key offset _ _ _ _ found opened
  · exact .inl start

/-- What is held at the end of the scan beside what was held before: the copy, if there is one. -/
def ScanHeld (mode : OpenMode) (blocks : Nat) (finish : ScanEnd) (last : Holdings) : Prop :=
  if finish.complete then last.Open mode (blocks + blockCount finish.found)
  else last.Breaks mode (blocks + blockCount finish.found)

theorem obeys_scan (offset : UInt64) (found : Option Found)
    (start : held.Open mode (blocks + blockCount found)) :
    (scan ssl xtsKey header key offset found).Obeys (account path) held (ScanHeld mode blocks) := by
  induction left : 2 ^ 64 - offset.toNat using Nat.strongRecOn generalizing offset found held with
  | _ left inductionHypothesis =>
    rw [scan]
    split
    · refine (obeys_scanRound ssl xtsKey header key offset found start).bind ?_
      intro round last ends
      cases round with
      | done after => exact ends
      | next following above after =>
        have bound := following.toNat_lt
        rw [UInt64.lt_iff_toNat_lt] at above
        exact inductionHypothesis _ (by omega) following after ends rfl
    · exact start

theorem obeys_getStore (password : CString) (start : held.Open mode blocks) :
    (getStore ssl password key).Obeys (account path) held (ScanHeld mode blocks) := by
  unfold getStore
  refine obeys_readHeader start.stream fun header => ?_
  cases header with
  | none => exact .inl start
  | some header =>
    refine obeys_bounded fun secret decrypted => ?_
    cases secret with
    | none => exact .inl start
    | some xtsKey => exact obeys_scan ssl xtsKey header key _ none start

/-- What a lookup holds when it returns beside what was held before: the block of its answer; or
two blocks after a refusal, and then there is no answer. -/
def AnswerHeld (blocks : Nat) (answer : Option Found) (last : Holdings) : Prop :=
  last.Closed (blocks + blockCount answer) ∨
    answer = none ∧ last.refused = true ∧ last.Closed (blocks + 2)

theorem obeys_padlockGet (path password key : Option CString) (outputs : Bool)
    (start : held.Closed blocks) :
    (padlockGet ssl path password key outputs).Obeys (account path) held (AnswerHeld blocks) := by
  have nothing : AnswerHeld blocks none held := .inl start
  unfold padlockGet
  cases path with
  | none => exact nothing
  | some path =>
  cases password with
  | none => exact nothing
  | some password =>
  cases key with
  | none => exact nothing
  | some key =>
  dsimp only
  split
  · exact nothing
  · refine obeys_opened start ?_ nothing
    have opened : Holdings.Open { held with stream := some .readOnly } .readOnly blocks :=
      ⟨rfl, start.blocks⟩
    refine (obeys_getStore ssl key password opened).imp fun finish last ends => ?_
    obtain ⟨found, complete⟩ := finish
    cases complete with
    | true =>
      -- the scan came to its end, and the copy goes to the caller
      refine ⟨ends.stream, ?_⟩
      cases found with
      | none => exact .inl ⟨rfl, ends.blocks⟩
      | some copy => exact .inl ⟨rfl, ends.blocks⟩
    | false =>
      obtain opened | ⟨refused, opened⟩ := ends
      · refine ⟨opened.stream, obeys_freeBlock ?_ (.inl ⟨rfl, rfl⟩)⟩
        rw [blockCount_map]
        exact opened.blocks
      · refine ⟨opened.stream, obeys_freeBlock ?_ (.inr ⟨rfl, refused, rfl, rfl⟩)⟩
        rw [blockCount_map, Nat.add_right_comm]
        exact opened.blocks

end Get

/-! ### Calls one after another -/

section Calls

variable (ssl : OpenSsl) (path password : CString)

/-- Calls on one store, one after another. -/
def callEach : List Call → Stdio (List Output)
  | [] => return []
  | call :: rest => do
    let output ← call.program ssl path password
    let outputs ← callEach rest
    return output :: outputs

/-- The blocks that went to the caller with some answers. -/
def handedOut (outputs : List Output) : Nat :=
  (outputs.map fun output => match output with
    | .get found => blockCount found
    | .set _ => 0).sum

/-- The lookups among some answers that gave none. -/
def missed (outputs : List Output) : Nat := outputs.count (.get none)

/-- What some calls hold in the end beside what was held before: what they handed out and at most
two blocks for each lookup without an answer, and without refusals not even these. -/
structure CallsHeld (before : Nat) (outputs : List Output) (last : Holdings) : Prop where
  stream : last.stream = none
  least : before + handedOut outputs ≤ last.blocks
  most : last.blocks ≤ before + handedOut outputs + 2 * missed outputs
  exact : last.refused = false → last.blocks = before + handedOut outputs

theorem handedOut_cons (output : Output) (outputs : List Output) :
    handedOut (output :: outputs) = handedOut [output] + handedOut outputs := by
  simp only [handedOut, List.map_cons, List.sum_cons, List.map_nil, List.sum_nil, Nat.add_zero]

theorem missed_cons (output : Output) (outputs : List Output) :
    missed (output :: outputs) = missed [output] + missed outputs := by
  rw [missed, missed, missed, List.count_cons, List.count_singleton, Nat.add_comm]

theorem CallsHeld.cons {before : Nat} {output : Output} {outputs : List Output}
    {middle last : Holdings} (first : CallsHeld before [output] middle)
    (rest : CallsHeld middle.blocks outputs last)
    (stays : middle.refused = true → last.refused = true) :
    CallsHeld before (output :: outputs) last := by
  have firstLeast := first.least
  have firstMost := first.most
  have restLeast := rest.least
  have restMost := rest.most
  refine ⟨rest.stream, ?_, ?_, fun granted => ?_⟩
  · rw [handedOut_cons]
    omega
  · rw [handedOut_cons, missed_cons]
    omega
  · have grantedFirst : middle.refused = false := by
      rw [← Bool.not_eq_true]
      intro refused
      rw [stays refused] at granted
      cases granted
    rw [rest.exact granted, first.exact grantedFirst, handedOut_cons output outputs, Nat.add_assoc]

theorem obeys_call {held : Holdings} (closed : held.stream = none) (call : Call) :
    (call.program ssl path password).Obeys (account path) held fun output last =>
      CallsHeld held.blocks [output] last := by
  have start : held.Closed held.blocks := ⟨closed, rfl⟩
  cases call with
  | set key value =>
    refine (obeys_padlockSet ssl path password key value start).bind fun result last ended => ?_
    exact ⟨ended.stream, ended.blocks.ge, ended.blocks.le, fun _ => ended.blocks⟩
  | get key =>
    refine (obeys_padlockGet ssl path password key true start).bind fun answer last ended => ?_
    obtain ended | ⟨rfl, refused, ended⟩ := ended
    · have blocks := ended.blocks
      exact ⟨ended.stream, blocks.ge, blocks.le.trans (Nat.le_add_right _ _), fun _ => blocks⟩
    · refine ⟨ended.stream, ended.blocks.ge.trans' (Nat.le_add_right _ _), ended.blocks.le, ?_⟩
      intro granted
      rw [refused] at granted
      cases granted

theorem account_keeps_refused (path : Option CString) (asked : Request) (response : Response asked)
    (held later : Holdings) (noted : account path asked response held = some later)
    (refused : held.refused = true) : later.refused = true := by
  cases asked with
  | fopen asked mode =>
    obtain ⟨-, ⟨⟩⟩ := Option.ite_none_right_eq_some.mp noted
    exact refused
  | fclose =>
    obtain ⟨-, ⟨⟩⟩ := Option.ite_none_right_eq_some.mp noted
    exact refused
  | seekRead offset count =>
    obtain ⟨-, ⟨⟩⟩ := Option.ite_none_right_eq_some.mp noted
    exact refused
  | seekWrite offset data =>
    obtain ⟨-, ⟨⟩⟩ := Option.ite_none_right_eq_some.mp noted
    exact refused
  | malloc size =>
    obtain rfl := Option.some.inj noted
    split
    · exact refused
    · rfl
  | free block =>
    obtain ⟨-, ⟨⟩⟩ := Option.ite_none_right_eq_some.mp noted
    exact refused

theorem obeys_callEach {held : Holdings} (closed : held.stream = none) (calls : List Call) :
    (callEach ssl path password calls).Obeys (account path) held (CallsHeld held.blocks) := by
  induction calls generalizing held with
  | nil => exact ⟨closed, le_rfl, le_rfl, fun _ => rfl⟩
  | cons call rest inductionHypothesis =>
    refine (obeys_call ssl path password closed call).bind fun output middle first => ?_
    refine ((inductionHypothesis first.stream).kept (account_keeps_refused path)).bind ?_
    rintro outputs last ⟨others, stays⟩
    exact first.cons others stays

/-- A sequence of calls, as long as these stay within their memory, ends with its stream closed and
holds the blocks of its answers; beyond these at most two for each lookup without an answer, and
none at all when no block was refused. On the way no file but the one at the path is opened, streams
are used only while they are open and written only when opened for that, and no more blocks are
given back than there are. Nothing is said of what follows an access outside of a buffer. -/
theorem calls_release (calls : List Call) :
    (callEach ssl path password calls).Obeys (account path) Holdings.none (CallsHeld 0) :=
  obeys_callEach ssl path password rfl calls

end Calls

end Padlock
