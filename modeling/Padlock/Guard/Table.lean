/-
This file states what holds of the guard's array and table in every state it
reaches, and what its updates do to the record of each inode. Entries given back
keep what they held, session and all; nothing can see it, as the table has only
the slots in use.
-/

import Padlock.Guard.Ioctl

namespace Padlock.Guard

/-- What the guard knows of a registered inode. -/
structure Record where
  start : UInt64
  length : UInt64
  session : Option (Tgid × UInt64)
  deriving DecidableEq

namespace Entry

def record (entry : Entry) : Record where
  start := entry.start
  length := entry.length
  session := if entry.sessionActive then some (entry.writerTgid, entry.token) else none

/-- An entry in use is locked, and its session fields are in step. -/
structure Sound (entry : Entry) : Prop where
  inUse : entry.inUse = true
  locked : entry.locked = true
  dirty : entry.sessionDirty = entry.sessionActive
  token : entry.token = 0 ↔ entry.sessionActive = false
  writer : entry.sessionActive = false → entry.writerTgid = 0

theorem sound_reset {entry : Entry} (inUse : entry.inUse = true) (path : Bytes pathMax)
    (start length : UInt64) : (entry.reset path start length).Sound :=
  ⟨inUse, rfl, rfl, ⟨fun _ => rfl, fun _ => rfl⟩, fun _ => rfl⟩

@[simp] theorem inode_reset (entry : Entry) (path : Bytes pathMax) (start length : UInt64) :
    (entry.reset path start length).inode = entry.inode := rfl

end Entry

section Table

variable (hash : UInt64 → Bucket)

/-- What holds of every state the guard reaches: the table has exactly the slots in use, each once
and in its bucket, no two of them for one inode, and the entries in use are sound. -/
structure WellFormed (state : State) : Prop where
  indexes : SlotTable.Indexes (bucketOf hash) (fun slot => (state.entries slot).inode)
    (fun slot => (state.entries slot).inUse) state.table
  sound : ∀ slot, (state.entries slot).inUse = true → (state.entries slot).Sound

/-- The record of an inode. -/
def recordAt (state : State) (inode : Inode) : Option Record :=
  (findLocked hash state inode).map fun slot => (state.entries slot).record

theorem WellFormed.initial : WellFormed hash State.initial := by
  refine ⟨⟨fun _ => List.nodup_nil, fun slot bucket => ?_, fun first second used => ?_⟩,
    fun slot used => ?_⟩
  · exact ⟨fun member => absurd member List.not_mem_nil,
      fun used => absurd used.1 Bool.false_ne_true⟩
  · exact absurd used Bool.false_ne_true
  · exact absurd used Bool.false_ne_true

variable {hash} {state : State} {inode : Inode} {slot : Slot}

theorem WellFormed.findLocked_eq_some_iff (wellFormed : WellFormed hash state) :
    findLocked hash state inode = some slot ↔
      (state.entries slot).inUse = true ∧ (state.entries slot).inode = inode :=
  wellFormed.indexes.find_eq_some_iff

theorem WellFormed.findLocked_eq_none_iff (wellFormed : WellFormed hash state) :
    findLocked hash state inode = none ↔
      ∀ slot, (state.entries slot).inUse = true → (state.entries slot).inode ≠ inode :=
  wellFormed.indexes.find_eq_none_iff

/-- The record of an inode found in a slot. -/
theorem recordAt_of_found (found : findLocked hash state inode = some slot) :
    recordAt hash state inode = some (state.entries slot).record := by
  rw [recordAt, found, Option.map_some]

/-! The three updates replace the entry of one slot, before or after which the slot is the only
one of its inode. -/

section Replace

variable {next : State} {entry : Entry}

theorem sound_replaced (wellFormed : WellFormed hash state)
    (entries : next.entries = Function.update state.entries slot entry)
    (sound : entry.inUse = true → entry.Sound) (other : Slot)
    (used : (next.entries other).inUse = true) : (next.entries other).Sound := by
  rw [entries] at used ⊢
  by_cases isSlot : other = slot
  · subst isSlot
    rw [Function.update_self] at used ⊢
    exact sound used
  · rw [Function.update_of_ne isSlot] at used ⊢
    exact wellFormed.sound other used

theorem recordAt_replaced (wellFormed : WellFormed hash state) (nextFormed : WellFormed hash next)
    (entries : next.entries = Function.update state.entries slot entry)
    (isInode : entry.inode = inode)
    (wasInode : (state.entries slot).inUse = true → (state.entries slot).inode = inode)
    (alone : ∀ other, other ≠ slot → (state.entries other).inUse = true →
      (state.entries other).inode ≠ inode) :
    recordAt hash next =
      Function.update (recordAt hash state) inode
        (if entry.inUse then some entry.record else none) := by
  have located (other : Inode) : findLocked hash next other =
      if other = inode then (if entry.inUse then some slot else none)
      else findLocked hash state other := by
    refine Option.ext fun found => ?_
    rw [nextFormed.findLocked_eq_some_iff, entries]
    by_cases isSlot : found = slot
    · subst isSlot
      rw [Function.update_self, isInode]
      by_cases same : other = inode
      · rw [if_pos same]
        cases entry.inUse <;> simp [same]
      · rw [if_neg same, wellFormed.findLocked_eq_some_iff]
        exact ⟨fun both => absurd both.2.symm same,
          fun both => absurd ((wasInode both.1).symm.trans both.2).symm same⟩
    · rw [Function.update_of_ne isSlot]
      by_cases same : other = inode
      · subst same
        rw [if_pos rfl]
        constructor
        · exact fun both => absurd both.2 (alone found isSlot both.1)
        · intro atSlot
          split at atSlot
          · exact absurd (Option.some.inj atSlot).symm isSlot
          · cases atSlot
      · rw [if_neg same, wellFormed.findLocked_eq_some_iff]
  funext other
  rw [recordAt, located, entries]
  by_cases same : other = inode
  · subst same
    rw [Function.update_self, if_pos rfl]
    split
    · rw [Option.map_some, Function.update_self]
    · rfl
  · rw [Function.update_of_ne same, if_neg same, recordAt]
    cases found : findLocked hash state other with
    | none => rfl
    | some otherSlot =>
      have notSlot : otherSlot ≠ slot := by
        rintro rfl
        obtain ⟨used, itsInode⟩ := wellFormed.findLocked_eq_some_iff.mp found
        exact same (itsInode.symm.trans (wasInode used))
      rw [Option.map_some, Option.map_some, Function.update_of_ne notSlot]

/-- A slot that an inode is found in is the only one of the inode. -/
theorem WellFormed.alone (wellFormed : WellFormed hash state)
    (found : findLocked hash state inode = some slot) (other : Slot) (different : other ≠ slot)
    (used : (state.entries other).inUse = true) : (state.entries other).inode ≠ inode := by
  intro same
  have again := wellFormed.findLocked_eq_some_iff.mpr ⟨used, same⟩
  exact different (Option.some.inj (again.symm.trans found))

/-- An entry in use is replaced by another one of the same inode. -/
theorem WellFormed.setEntry (wellFormed : WellFormed hash state)
    (found : findLocked hash state inode = some slot) (sound : entry.Sound)
    (isInode : entry.inode = inode) :
    WellFormed hash (state.setEntry slot entry) ∧
      recordAt hash (state.setEntry slot entry) =
        Function.update (recordAt hash state) inode (some entry.record) := by
  obtain ⟨used, wasInode⟩ := wellFormed.findLocked_eq_some_iff.mp found
  have nextFormed : WellFormed hash (state.setEntry slot entry) := by
    refine ⟨wellFormed.indexes.congr (fun other => ?_) (fun other _ => ?_),
      sound_replaced wellFormed rfl fun _ => sound⟩
    · rw [State.entries_setEntry, Function.update_apply]
      split
      · rename_i isSlot
        rw [isSlot, sound.inUse, used]
      · rfl
    · rw [State.entries_setEntry, Function.update_apply]
      split
      · rename_i isSlot
        rw [isSlot, isInode, wasInode]
      · rfl
  refine ⟨nextFormed, ?_⟩
  rw [recordAt_replaced wellFormed nextFormed rfl isInode (fun _ => wasInode)
    (wellFormed.alone found), sound.inUse, if_pos rfl]

/-- A free slot is taken into use for an inode without a record. -/
theorem WellFormed.take (wellFormed : WellFormed hash state)
    (absent : findLocked hash state inode = none) (free : (state.entries slot).inUse = false)
    (sound : entry.Sound) (isInode : entry.inode = inode) :
    WellFormed hash ((state.take hash slot inode).setEntry slot entry) ∧
      recordAt hash ((state.take hash slot inode).setEntry slot entry) =
        Function.update (recordAt hash state) inode (some entry.record) := by
  have absentIn := wellFormed.findLocked_eq_none_iff.mp absent
  have entries : ((state.take hash slot inode).setEntry slot entry).entries =
      Function.update state.entries slot entry := Function.update_idem ..
  have nextFormed : WellFormed hash ((state.take hash slot inode).setEntry slot entry) := by
    refine ⟨(wellFormed.indexes.add free absentIn).congr (fun other => ?_) (fun other _ => ?_),
      sound_replaced wellFormed entries fun _ => sound⟩
    · rw [entries, Function.update_apply, Function.update_apply]
      split
      · exact sound.inUse
      · rfl
    · rw [entries, Function.update_apply, Function.update_apply]
      split
      · exact isInode
      · rfl
  refine ⟨nextFormed, ?_⟩
  rw [recordAt_replaced wellFormed nextFormed entries isInode
    (fun used => absurd (free.symm.trans used) Bool.false_ne_true) (fun other _ => absentIn other),
    sound.inUse, if_pos rfl]

/-- The slot of an inode is given back. -/
theorem WellFormed.giveBack (wellFormed : WellFormed hash state)
    (found : findLocked hash state inode = some slot) :
    WellFormed hash (state.giveBack slot) ∧
      recordAt hash (state.giveBack slot) = Function.update (recordAt hash state) inode none := by
  obtain ⟨used, wasInode⟩ := wellFormed.findLocked_eq_some_iff.mp found
  have nextFormed : WellFormed hash (state.giveBack slot) := by
    refine ⟨(wellFormed.indexes.remove slot).congr (fun other => ?_) (fun other _ => ?_),
      sound_replaced wellFormed rfl fun impossible => absurd impossible Bool.false_ne_true⟩
    · rw [State.entries_giveBack, Function.update_apply, Function.update_apply]
      split <;> rfl
    · rw [State.entries_giveBack, Function.update_apply]
      split
      · rename_i isSlot
        rw [isSlot]
        rfl
      · rfl
  refine ⟨nextFormed, ?_⟩
  rw [recordAt_replaced wellFormed nextFormed rfl wasInode (fun _ => wasInode)
    (wellFormed.alone found)]
  rfl

end Replace

end Table

end Padlock.Guard
