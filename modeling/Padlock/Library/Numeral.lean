/-
This file is about numbers written as digits, highest digit first, in any base:
what one more digit does, when two bases read the same digits as the same
number, and that reading the digits with a machine word of limited width gives
the number modulo that width.
-/

import Mathlib.Data.List.Induction
import Mathlib.Tactic.Common

namespace Numeral

/-- The number that digits stand for in a base. -/
def value (base : Nat) (digits : List Nat) : Nat :=
  digits.foldl (fun number digit => number * base + digit) 0

@[simp] theorem value_nil (base : Nat) : value base [] = 0 := rfl

theorem value_concat (base : Nat) (digits : List Nat) (digit : Nat) :
    value base (digits ++ [digit]) = value base digits * base + digit := by
  rw [value, value, List.foldl_append, List.foldl_cons, List.foldl_nil]

theorem value_eq_zero_iff {base : Nat} (positive : 0 < base) {digits : List Nat} :
    value base digits = 0 ↔ ∀ digit ∈ digits, digit = 0 := by
  induction digits using List.reverseRecOn with
  | nil => simp
  | append_singleton front last inductionHypothesis =>
    rw [value_concat, Nat.add_eq_zero_iff, Nat.mul_eq_zero, List.forall_mem_append,
      ← inductionHypothesis, or_iff_left (by omega : ¬ base = 0)]
    simp

theorem value_mono {base other : Nat} (le : base ≤ other) (digits : List Nat) :
    value base digits ≤ value other digits := by
  induction digits using List.reverseRecOn with
  | nil => exact Nat.le_refl _
  | append_singleton front last inductionHypothesis =>
    rw [value_concat, value_concat]
    exact Nat.add_le_add_right (Nat.mul_le_mul inductionHypothesis le) last

/-- Two bases read digits alike exactly when only the last digit counts. -/
theorem value_eq_value_iff {base other : Nat} (positive : 0 < base) (lt : base < other)
    {digits : List Nat} :
    value base digits = value other digits ↔ ∀ digit ∈ digits.dropLast, digit = 0 := by
  induction digits using List.reverseRecOn with
  | nil => simp
  | append_singleton front last _ =>
    rw [value_concat, value_concat, List.dropLast_concat, Nat.add_right_cancel_iff,
      ← value_eq_zero_iff (Nat.lt_trans positive lt)]
    have le := value_mono (Nat.le_of_lt lt) front
    constructor
    · intro same
      by_contra nonzero
      have less : value base front * base < value other front * other :=
        Nat.mul_lt_mul_of_le_of_lt le lt (Nat.pos_of_ne_zero nonzero)
      omega
    · intro zero
      have none : value base front = 0 := by omega
      rw [zero, none, Nat.zero_mul, Nat.zero_mul]

/-- Reading digits in words that wrap gives the number, wrapped once. -/
theorem foldl_bmod (base modulus : Nat) (digits : List Nat) :
    digits.foldl (fun (number : Int) (digit : Nat) => (number * base + digit).bmod modulus) 0 =
      (value base digits : Int).bmod modulus := by
  induction digits using List.reverseRecOn with
  | nil => simp
  | append_singleton front last inductionHypothesis =>
    rw [List.foldl_append, List.foldl_cons, List.foldl_nil, inductionHypothesis, value_concat]
    push_cast
    rw [Int.bmod_add_cancel_right]
    exact Int.bmod_mul_bmod

end Numeral
