/-
This file is about ranges of a list: reading the items of one range, and
putting new items over one range. A file, a memory buffer and a record inside
either are lists read and written range by range; the facts that matter are
what a write leaves in front of the range and behind it, that a range of a range
is a range, and how ranges follow each other without a gap.
-/

import Mathlib.Data.List.Basic
import Mathlib.Tactic.Common

namespace Span

variable {Item : Type}

/-- The `count` items from `offset` on; fewer when the list ends before. -/
def read (offset count : Nat) (items : List Item) : List Item :=
  (items.drop offset).take count

/-- The list with `data` put over it at `offset`. It grows when `data` ends past its end, and
`filler` stands in the gap when `offset` lies past its end. -/
def write (filler : Item) (offset : Nat) (data items : List Item) : List Item :=
  items.take offset ++ List.replicate (offset - items.length) filler ++ data ++
    items.drop (offset + data.length)

/-! ### Item by item -/

theorem length_read (offset count : Nat) (items : List Item) :
    (read offset count items).length = min count (items.length - offset) := by
  rw [read, List.length_take, List.length_drop]

theorem length_read_of_le {offset count : Nat} {items : List Item}
    (inside : offset + count ≤ items.length) : (read offset count items).length = count := by
  rw [length_read]
  omega

theorem getElem?_read (offset count : Nat) (items : List Item) (index : Nat) :
    (read offset count items)[index]? = if index < count then items[offset + index]? else none := by
  rw [read, List.getElem?_take]
  split
  · rw [List.getElem?_drop]
  · rfl

/-- Two lists have the same range exactly when they have the same item at each of its places. -/
theorem read_eq_read_iff {offset count : Nat} {first second : List Item} :
    read offset count first = read offset count second ↔
      ∀ index, offset ≤ index → index < offset + count → first[index]? = second[index]? := by
  rw [List.ext_getElem?_iff]
  simp only [getElem?_read]
  constructor
  · intro same index above below
    obtain ⟨place, rfl⟩ := Nat.exists_eq_add_of_le above
    have here := same place
    rwa [if_pos (by omega), if_pos (by omega)] at here
  · intro same place
    split
    · exact same (offset + place) (by omega) (by omega)
    · rfl

theorem length_write (filler : Item) {offset : Nat} {data items : List Item}
    (inside : offset + data.length ≤ items.length) :
    (write filler offset data items).length = items.length := by
  simp only [write, List.length_append, List.length_take, List.length_replicate, List.length_drop]
  omega

theorem length_write_le (filler : Item) (offset : Nat) (data items : List Item) :
    (write filler offset data items).length = max items.length (offset + data.length) := by
  simp only [write, List.length_append, List.length_take, List.length_replicate, List.length_drop]
  omega

/-- Data in the place of the first items of a tail, behind a front that stays and a head that
may change. -/
theorem getElem?_replace {head next front data tail : List Item} {index : Nat}
    (same : next.length = head.length)
    (headEq : index < head.length → next[index]? = head[index]?)
    (outside : ¬ (head.length + front.length ≤ index ∧
      index < head.length + front.length + data.length)) :
    (next ++ (front ++ (data ++ tail.drop data.length)))[index]? =
      (head ++ (front ++ tail))[index]? := by
  by_cases inHead : index < head.length
  · rw [List.getElem?_append_left inHead, List.getElem?_append_left (by omega), headEq inHead]
  rw [List.getElem?_append_right (by omega : head.length ≤ index),
    List.getElem?_append_right (by omega), same]
  by_cases inFront : index - head.length < front.length
  · rw [List.getElem?_append_left inFront, List.getElem?_append_left inFront]
  have behind : front.length ≤ index - head.length := by omega
  rw [List.getElem?_append_right behind, List.getElem?_append_right behind,
    List.getElem?_append_right (by omega), List.getElem?_drop]
  congr 1
  omega

/-! ### Writing over a range -/

theorem write_append (filler : Item) (front data back : List Item) :
    write filler front.length data (front ++ back) = front ++ (data ++ back.drop data.length) := by
  have gap : front.length - (front ++ back).length = 0 := by
    rw [List.length_append]
    omega
  rw [write, gap, List.replicate_zero, List.append_nil, List.take_left' rfl, List.append_assoc,
    ← List.drop_drop, List.drop_left' rfl]

theorem write_nil (filler : Item) {offset : Nat} {items : List Item}
    (inside : offset ≤ items.length) : write filler offset [] items = items := by
  have gap : offset - items.length = 0 := by omega
  simp only [write, gap, List.replicate_zero, List.append_nil, List.length_nil, Nat.add_zero,
    List.take_append_drop]

/-- Two pieces written one behind the other are written as one. -/
theorem write_write (filler : Item) {offset : Nat} (first second : List Item) {items : List Item}
    (inside : offset ≤ items.length) :
    write filler (offset + first.length) second (write filler offset first items) =
      write filler offset (first ++ second) items := by
  obtain ⟨front, back, rfl, rfl⟩ : ∃ front back, items = front ++ back ∧ front.length = offset :=
    ⟨items.take offset, items.drop offset, (List.take_append_drop ..).symm, by
      rw [List.length_take, Nat.min_eq_left inside]⟩
  have behind := write_append filler (front ++ first) second (back.drop first.length)
  rw [List.length_append, List.append_assoc, List.append_assoc, List.drop_drop] at behind
  rw [write_append, write_append, behind, List.length_append, List.append_assoc]

/-- The first part of one list and the rest of another are the one list exactly when the two
differ in the first part only. -/
theorem take_append_drop_eq_iff {first second : List Item} {count : Nat} :
    first.take count ++ second.drop count = first ↔
      ∀ index, first[index]? ≠ second[index]? → index < count := by
  have cancel : first.take count ++ second.drop count = first ↔
      second.drop count = first.drop count := by
    conv_lhs => rhs; rw [← List.take_append_drop count first]
    exact List.append_right_inj _
  rw [cancel, List.ext_getElem?_iff]
  simp only [List.getElem?_drop]
  constructor
  · intro same index differs
    by_contra behind
    obtain ⟨rest, rfl⟩ := Nat.exists_eq_add_of_le (Nat.not_lt.mp behind)
    exact differs (same rest).symm
  · intro front rest
    by_contra differs
    have := front (count + rest) (Ne.symm differs)
    omega

/-! ### Ranges of ranges -/

theorem read_read {offset count start whole : Nat} (items : List Item)
    (inside : offset + count ≤ whole) :
    read offset count (read start whole items) = read (start + offset) count items := by
  apply List.ext_getElem?
  intro index
  rw [getElem?_read, getElem?_read, getElem?_read]
  split
  · rw [if_pos (by omega), Nat.add_assoc]
  · rfl

theorem read_take {offset count whole : Nat} (items : List Item) (inside : offset + count ≤ whole) :
    read offset count (items.take whole) = read offset count items := by
  rw [show items.take whole = read 0 whole items by rw [read, List.drop_zero],
    read_read items inside, Nat.zero_add]

theorem read_add (offset first second : Nat) (items : List Item) :
    read offset (first + second) items =
      read offset first items ++ read (offset + first) second items := by
  rw [read, read, read, List.take_add, List.drop_drop]

theorem read_append_left {offset count : Nat} {first : List Item} (second : List Item)
    (inside : offset + count ≤ first.length) :
    read offset count (first ++ second) = read offset count first := by
  apply List.ext_getElem?
  intro index
  rw [getElem?_read, getElem?_read]
  split
  · rw [List.getElem?_append_left (by omega)]
  · rfl

theorem read_append_right (first second : List Item) (offset count : Nat) :
    read (first.length + offset) count (first ++ second) = read offset count second := by
  rw [read, read, List.drop_append, List.drop_eq_nil_of_le (by omega), List.nil_append]
  congr 2
  omega

/-- A part of a list that stands between two others is what its range holds. -/
theorem read_between {front data back whole : List Item} {offset count : Nat}
    (split : whole = front ++ (data ++ back)) (start : front.length = offset)
    (size : data.length = count) : read offset count whole = data := by
  rw [split, ← start, ← size, read, List.drop_left' rfl, List.take_left' rfl]

/-! ### Ranges one after another -/

/-- Ranges, each an offset and a length, that follow each other from `start` to `stop`. -/
inductive Tiles : Nat → Nat → List (Nat × Nat) → Prop
  | nil (start : Nat) : Tiles start start []
  | cons {start length stop : Nat} {ranges : List (Nat × Nat)} (positive : 0 < length)
      (others : Tiles (start + length) stop ranges) : Tiles start stop ((start, length) :: ranges)

theorem Tiles.le {start stop : Nat} {ranges : List (Nat × Nat)} (tiles : Tiles start stop ranges) :
    start ≤ stop := by
  induction tiles with
  | nil start => exact Nat.le_refl _
  | cons positive others inductionHypothesis => omega

/-- The ranges cover the whole and nothing else. -/
theorem Tiles.covers {start stop : Nat} {ranges : List (Nat × Nat)}
    (tiles : Tiles start stop ranges) (index : Nat) :
    start ≤ index ∧ index < stop ↔
      ∃ range ∈ ranges, range.1 ≤ index ∧ index < range.1 + range.2 := by
  induction tiles with
  | nil start =>
    constructor
    · rintro ⟨low, high⟩
      omega
    · rintro ⟨range, member, -⟩
      cases member
  | @cons start length stop ranges positive others inductionHypothesis =>
    have := others.le
    rw [List.exists_mem_cons_iff, ← inductionHypothesis]
    dsimp only
    omega

/-- Each range ends before the next begins. -/
theorem Tiles.pairwise {start stop : Nat} {ranges : List (Nat × Nat)}
    (tiles : Tiles start stop ranges) :
    ranges.Pairwise fun first second => first.1 + first.2 ≤ second.1 ∧ 0 < first.2 := by
  have above {start stop : Nat} {ranges : List (Nat × Nat)} (tiles : Tiles start stop ranges) :
      ∀ range ∈ ranges, start ≤ range.1 := by
    induction tiles with
    | nil start =>
      intro range member
      cases member
    | cons positive others inductionHypothesis =>
      intro range member
      obtain rfl | later := List.mem_cons.mp member
      · exact Nat.le_refl _
      · have := inductionHypothesis range later
        omega
  induction tiles with
  | nil start => exact .nil
  | cons positive others inductionHypothesis =>
    exact .cons (fun range member => ⟨above others range member, positive⟩) inductionHypothesis

end Span
