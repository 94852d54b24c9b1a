/-
This file is about records kept in an array of slots and found through an index
of buckets. Slots are taken into use and given back; a slot that is not in use
keeps the key it last had, and the search does not look whether a slot is in
use. It still finds the right one as long as the index holds exactly the slots in
use, each once, in the bucket of its own key, and no two of them have one key.
-/

import Mathlib.Data.List.Nodup
import Mathlib.Logic.Function.Basic

namespace SlotTable

variable {Slot Bucket Key : Type}

/-- The slots of each bucket, in the order of the search. -/
abbrev Index (Slot Bucket : Type) := Bucket → List Slot

/-- Put a slot at the head of a bucket. -/
def add [DecidableEq Bucket] (index : Index Slot Bucket) (bucket : Bucket) (slot : Slot) :
    Index Slot Bucket :=
  Function.update index bucket (slot :: index bucket)

/-- Take a slot out of its bucket. -/
def remove [DecidableEq Slot] (index : Index Slot Bucket) (slot : Slot) : Index Slot Bucket :=
  fun bucket => (index bucket).erase slot

/-- The first slot of the bucket of a key that has this key. -/
def find [DecidableEq Key] (bucketOf : Key → Bucket) (stored : Slot → Key)
    (index : Index Slot Bucket) (key : Key) : Option Slot :=
  (index (bucketOf key)).find? fun slot => stored slot = key

/-- The index holds exactly the slots in use, and no two of these have one key. -/
structure Indexes (bucketOf : Key → Bucket) (stored : Slot → Key) (used : Slot → Bool)
    (index : Index Slot Bucket) : Prop where
  nodup : ∀ bucket, (index bucket).Nodup
  mem_iff : ∀ slot bucket, slot ∈ index bucket ↔ used slot = true ∧ bucketOf (stored slot) = bucket
  unique : ∀ first second, used first = true → used second = true →
    stored first = stored second → first = second

variable {bucketOf : Key → Bucket} {stored : Slot → Key} {used : Slot → Bool}
  {index : Index Slot Bucket}

theorem Indexes.find_eq_some_iff [DecidableEq Key]
    (indexes : Indexes bucketOf stored used index) {key : Key} {slot : Slot} :
    find bucketOf stored index key = some slot ↔ used slot = true ∧ stored slot = key := by
  constructor
  · intro found
    have same : stored slot = key := of_decide_eq_true (List.find?_some found :)
    exact ⟨((indexes.mem_iff slot _).mp (List.mem_of_find?_eq_some found)).1, same⟩
  · rintro ⟨inUse, rfl⟩
    have member := (indexes.mem_iff slot _).mpr ⟨inUse, rfl⟩
    unfold find
    cases found :
        (index (bucketOf (stored slot))).find? fun other => stored other = stored slot with
    | none => exact absurd (decide_eq_true rfl) (List.find?_eq_none.mp found slot member)
    | some other =>
      have same : stored other = stored slot := of_decide_eq_true (List.find?_some found :)
      have otherUsed := ((indexes.mem_iff other _).mp (List.mem_of_find?_eq_some found)).1
      rw [indexes.unique other slot otherUsed inUse same]

theorem Indexes.find_eq_none_iff [DecidableEq Key]
    (indexes : Indexes bucketOf stored used index) {key : Key} :
    find bucketOf stored index key = none ↔ ∀ slot, used slot = true → stored slot ≠ key := by
  rw [Option.eq_none_iff_forall_not_mem]
  constructor
  · intro absent slot inUse same
    exact absent slot (indexes.find_eq_some_iff.mpr ⟨inUse, same⟩)
  · intro absent slot found
    obtain ⟨inUse, same⟩ := indexes.find_eq_some_iff.mp found
    exact absent slot inUse same

/-- What a slot that is not in use stores does not matter. -/
theorem Indexes.congr {otherStored : Slot → Key} {otherUsed : Slot → Bool}
    (indexes : Indexes bucketOf stored used index) (sameUsed : ∀ slot, otherUsed slot = used slot)
    (sameKey : ∀ slot, used slot = true → otherStored slot = stored slot) :
    Indexes bucketOf otherStored otherUsed index := by
  refine ⟨indexes.nodup, fun slot bucket => ?_, fun first second firstUsed secondUsed same => ?_⟩
  · rw [indexes.mem_iff, sameUsed]
    constructor
    · rintro ⟨inUse, inBucket⟩
      exact ⟨inUse, by rw [sameKey slot inUse, inBucket]⟩
    · rintro ⟨inUse, inBucket⟩
      exact ⟨inUse, by rw [← sameKey slot inUse, inBucket]⟩
  · rw [sameUsed] at firstUsed secondUsed
    rw [sameKey first firstUsed, sameKey second secondUsed] at same
    exact indexes.unique first second firstUsed secondUsed same

/-- A free slot is taken into use for a key that no slot in use has. -/
theorem Indexes.add [DecidableEq Slot] [DecidableEq Bucket]
    (indexes : Indexes bucketOf stored used index) {slot : Slot} {key : Key}
    (free : used slot = false) (absent : ∀ other, used other = true → stored other ≠ key) :
    Indexes bucketOf (Function.update stored slot key) (Function.update used slot true)
      (add index (bucketOf key) slot) := by
  have unlisted (bucket : Bucket) : slot ∉ index bucket := by
    rw [indexes.mem_iff, free]
    exact fun contradiction => Bool.false_ne_true contradiction.1
  refine ⟨fun bucket => ?_, fun other bucket => ?_,
    fun first second firstUsed secondUsed same => ?_⟩
  · by_cases inBucket : bucket = bucketOf key
    · subst inBucket
      rw [SlotTable.add, Function.update_self]
      exact List.nodup_cons.mpr ⟨unlisted _, indexes.nodup _⟩
    · rw [SlotTable.add, Function.update_of_ne inBucket]
      exact indexes.nodup bucket
  · by_cases isSlot : other = slot
    · subst isSlot
      rw [Function.update_self, Function.update_self]
      by_cases inBucket : bucket = bucketOf key
      · subst inBucket
        rw [SlotTable.add, Function.update_self]
        exact ⟨fun _ => ⟨rfl, rfl⟩, fun _ => List.mem_cons_self⟩
      · rw [SlotTable.add, Function.update_of_ne inBucket]
        exact ⟨fun member => absurd member (unlisted bucket),
          fun placed => absurd placed.2.symm inBucket⟩
    · rw [Function.update_of_ne isSlot, Function.update_of_ne isSlot, ← indexes.mem_iff]
      by_cases inBucket : bucket = bucketOf key
      · subst inBucket
        rw [SlotTable.add, Function.update_self, List.mem_cons]
        exact ⟨fun member => member.resolve_left isSlot, .inr⟩
      · rw [SlotTable.add, Function.update_of_ne inBucket]
  · by_cases firstSlot : first = slot <;> by_cases secondSlot : second = slot
    · rw [firstSlot, secondSlot]
    · subst firstSlot
      rw [Function.update_of_ne secondSlot] at secondUsed
      rw [Function.update_self, Function.update_of_ne secondSlot] at same
      exact absurd same.symm (absent second secondUsed)
    · subst secondSlot
      rw [Function.update_of_ne firstSlot] at firstUsed
      rw [Function.update_self, Function.update_of_ne firstSlot] at same
      exact absurd same (absent first firstUsed)
    · rw [Function.update_of_ne firstSlot] at firstUsed same
      rw [Function.update_of_ne secondSlot] at secondUsed same
      exact indexes.unique first second firstUsed secondUsed same

/-- A slot is given back. -/
theorem Indexes.remove [DecidableEq Slot] (indexes : Indexes bucketOf stored used index)
    (slot : Slot) :
    Indexes bucketOf stored (Function.update used slot false) (remove index slot) := by
  refine ⟨fun bucket => (indexes.nodup bucket).erase slot, fun other bucket => ?_,
    fun first second firstUsed secondUsed same => ?_⟩
  · rw [SlotTable.remove, (indexes.nodup bucket).mem_erase_iff, indexes.mem_iff]
    by_cases isSlot : other = slot
    · subst isSlot
      rw [Function.update_self]
      exact ⟨fun member => absurd rfl member.1, fun contradiction =>
        absurd contradiction.1 Bool.false_ne_true⟩
    · rw [Function.update_of_ne isSlot]
      exact ⟨fun member => member.2, fun member => ⟨isSlot, member⟩⟩
  · have stillUsed {other : Slot} (otherUsed : Function.update used slot false other = true) :
        used other = true := by
      by_cases isSlot : other = slot
      · subst isSlot
        rw [Function.update_self] at otherUsed
        exact absurd otherUsed Bool.false_ne_true
      · rwa [Function.update_of_ne isSlot] at otherUsed
    exact indexes.unique first second (stillUsed firstUsed) (stillUsed secondUsed) same

end SlotTable
