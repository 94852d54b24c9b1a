/-
This file bounds what a lookup can return, on any file and whatever the reads
and the allocations give: a copy it makes is that of a record whose whole padded
range lies between the place of the scan and the write offset.
-/

import Padlock.Store.Lookup

namespace Padlock

open Interaction

section Copies

variable (ssl : OpenSsl) (xtsKey : Bytes padlockXtsKeySize) (header : Header) (key : CString)

/-- A copy made by the scan at or behind a place: the range of its record ends before the write
offset. -/
def CopiedFrom (place : Nat) (copy : Found) : Prop :=
  ∃ keySize : UInt8, keySize.toNat = key.bytes.length ∧
    place + (align16 (entryLength keySize copy.length)).toNat ≤ header.writeOffset.toNat

/-- The copy held after some rounds is the one held before, or was made by them. -/
def HeldOrCopied (place : Nat) (before after : Option Found) : Prop :=
  after = before ∨ ∃ copy, after = some copy ∧ CopiedFrom header key place copy

theorem HeldOrCopied.trans {place later : Nat} {before middle after : Option Found}
    (inOrder : place ≤ later) (first : HeldOrCopied header key place before middle)
    (second : HeldOrCopied header key later middle after) :
    HeldOrCopied header key place before after := by
  obtain rfl | ⟨copy, rfl, keySize, sameLength, inside⟩ := second
  · exact first
  · exact .inr ⟨copy, rfl, keySize, sameLength, by omega⟩

/-- The end of a round at an offset, for a copy held before it. -/
def RoundHolds (offset : UInt64) (found : Option Found) : Round offset → Prop
  | .done after => after = found
  | .next _ _ after => HeldOrCopied header key offset.toNat found after

theorem copyValue_length {keySize : UInt8} {valueLength : UInt32} {size : Nat}
    {plain : Bytes size} {copy : Found} (copied : copyValue keySize valueLength plain = some copy) :
    copy.length = valueLength := by
  unfold copyValue at copied
  simp only [Option.bind_eq_bind, Option.bind_eq_some_iff, Option.pure_def, Option.some.injEq]
    at copied
  obtain ⟨_, _, _, _, _, _, rfl⟩ := copied
  rfl

theorem returns_freeBlock {Result : Type} {condition : Result → Prop} {block : Option Block}
    {next : Unit → Stdio Result} (rest : (next ()).Returns condition) :
    (freeBlock block >>= next).Returns condition :=
  (Program.returns_trivial _).bind fun _ _ => rest

theorem returns_any {Result Outcome : Type} {condition : Outcome → Prop} {first : Stdio Result}
    {next : Result → Stdio Outcome} (rest : ∀ result, (next result).Returns condition) :
    (first >>= next).Returns condition :=
  (Program.returns_trivial _).bind fun result _ => rest result

/-- What a round can end in. It is done and holds what it held before; or its record has passed
the checks, the next offset is the one behind the record, and the copy held is the one from before
or that of the record. -/
inductive RoundEnds (offset : UInt64) (found : Option Found) : Round offset → Prop
  | done : RoundEnds offset found (.done found)
  | next {keySize : UInt8} {valueLength : UInt32} (seekable : offset.toNat < 2 ^ 63)
      (inside : ¬ (align16 (entryLength keySize valueLength) < 16 ∨
        offset + align16 (entryLength keySize valueLength) > header.writeOffset))
      (above : offset < offset + align16 (entryLength keySize valueLength))
      {after : Option Found}
      (held : after = found ∨ keySize.toNat = key.bytes.length ∧
        ∃ copy, after = some copy ∧ copy.length = valueLength) :
      RoundEnds offset found
        (.next (offset + align16 (entryLength keySize valueLength)) above after)

theorem returns_readEntry (offset : UInt64) (seekable : offset.toNat < 2 ^ 63) (keySize : UInt8)
    (valueLength : UInt32) (prefixSize : Nat) (found : Option Found) :
    (readEntry ssl xtsKey header key offset seekable keySize valueLength prefixSize found).Returns
      (RoundEnds header key offset found) := by
  unfold readEntry
  dsimp only
  split
  · exact returns_freeBlock (returns_freeBlock .done)
  rename_i inside
  refine returns_any fun cipherAllocated => returns_any fun plainAllocated => ?_
  split
  · exact returns_freeBlock (returns_freeBlock (returns_freeBlock (returns_freeBlock .done)))
  refine returns_any fun response => ?_
  cases response with
  | none =>
    exact returns_freeBlock (returns_freeBlock (returns_freeBlock (returns_freeBlock .done)))
  | some cipher =>
    dsimp only
    cases cryptXts ssl false xtsKey offset cipher with
    | none =>
      exact returns_freeBlock (returns_freeBlock (returns_freeBlock (returns_freeBlock .done)))
    | some plain =>
      have next (after : Option Found) (held : after = found ∨
          keySize.toNat = key.bytes.length ∧
            ∃ copy, after = some copy ∧ copy.length = valueLength) :
          (do
            freeBlock (some (.other prefixSize))
            freeBlock (some (.plaintext (zeros prefixSize)))
            freeBlock (some (.other (align16 (entryLength keySize valueLength)).toNat))
            freeBlock (some (.plaintext
              (zeros (align16 (entryLength keySize valueLength)).toNat)))
            return (.next (offset + align16 (entryLength keySize valueLength))
              (advance seekable (not_or.mp inside).1) after : Round offset) : Stdio _).Returns
            (RoundEnds header key offset found) :=
        returns_freeBlock (returns_freeBlock (returns_freeBlock (returns_freeBlock
          (.next seekable inside _ held))))
      dsimp only
      split
      · rename_i sameLength
        refine returns_any fun entryKey => ?_
        split
        · refine returns_any fun allocated => ?_
          split
          · exact returns_freeBlock (returns_freeBlock .done)
          · cases copied : copyValue keySize valueLength plain with
            | none => trivial
            | some copy =>
              exact returns_freeBlock
                (next _ (.inr ⟨sameLength, copy, rfl, copyValue_length copied⟩))
        · exact next _ (.inl rfl)
      · exact next _ (.inl rfl)

/-- What a round ends in, whatever the responses. -/
theorem returns_scanRound (offset : UInt64) (found : Option Found) :
    (scanRound ssl xtsKey header key offset found).Returns
      (RoundEnds header key offset found) := by
  unfold scanRound
  split
  · refine returns_any fun response => ?_
    cases response with
    | none => exact .done
    | some cipher =>
      dsimp only
      cases cryptXts ssl false xtsKey offset cipher with
      | none => exact .done
      | some block =>
        dsimp only
        split
        · exact .done
        · refine returns_any fun response => ?_
          cases response with
          | none => exact .done
          | some prefixPlain =>
            exact returns_any fun valueLength => returns_readEntry ..
  · exact .done

variable {header key}

theorem RoundEnds.holds {offset : UInt64} {found : Option Found} {round : Round offset}
    (ends : RoundEnds header key offset found round) :
    RoundHolds header key offset found round := by
  cases ends with
  | done => exact rfl
  | @next keySize valueLength seekable inside above after held =>
    obtain rfl | ⟨sameLength, copy, rfl, rfl⟩ := held
    · exact .inl rfl
    · have bound := align16_lt (entryLength keySize copy.length)
      have sum := UInt64.le_iff_toNat_le.mp (UInt64.not_lt.mp (not_or.mp inside).2)
      rw [UInt64.toNat_add] at sum
      exact .inr ⟨copy, rfl, keySize, sameLength, by omega⟩

variable (header key)

/-- Whatever a scan from an offset on holds in the end, it held it before or copied it from a
record between the offset and the write offset. -/
theorem returns_scan (offset : UInt64) (found : Option Found) :
    (scan ssl xtsKey header key offset found).Returns fun finish =>
      HeldOrCopied header key offset.toNat found finish.found := by
  induction left : 2 ^ 64 - offset.toNat using Nat.strongRecOn generalizing offset found with
  | _ left inductionHypothesis =>
    rw [scan]
    split
    · refine (returns_scanRound ssl xtsKey header key offset found).bind ?_
      intro round ends
      have holds := ends.holds
      cases round with
      | done after => exact .inl holds
      | next following above after =>
        have bound := following.toNat_lt
        rw [UInt64.lt_iff_toNat_lt] at above
        refine (inductionHypothesis _ (by omega) following after rfl).imp ?_
        intro finish later
        exact HeldOrCopied.trans header key (by omega) holds later
    · exact .inl rfl

end Copies

end Padlock
