/-
This file is about numbers written as bytes, lowest byte first. Writing keeps
the number modulo the width, reading gives one number for each list of bytes,
and the two are inverse to each other on lists of one length.
-/

import Mathlib.Data.Nat.Basic
import Mathlib.Tactic.Common
import Mathlib.Tactic.Ring

namespace LittleEndian

/-- The `width` low bytes of a number. -/
def encode : Nat → Nat → List UInt8
  | 0, _ => []
  | width + 1, value => UInt8.ofNat value :: encode width (value / 256)

/-- The number a list of bytes stands for. -/
def decode : List UInt8 → Nat
  | [] => 0
  | byte :: rest => byte.toNat + 256 * decode rest

theorem decode_lt (bytes : List UInt8) : decode bytes < 256 ^ bytes.length := by
  induction bytes with
  | nil => exact Nat.one_pos
  | cons byte rest inductionHypothesis =>
    have byteLt := byte.toNat_lt
    rw [decode, List.length_cons, pow_succ]
    omega

theorem decode_encode (width value : Nat) : decode (encode width value) = value % 256 ^ width := by
  induction width generalizing value with
  | zero => rw [pow_zero, Nat.mod_one]; rfl
  | succ width inductionHypothesis =>
    rw [encode, decode, inductionHypothesis, UInt8.toNat_ofNat',
      show 256 ^ (width + 1) = 256 * 256 ^ width from pow_succ' 256 width, Nat.mod_mul]

theorem decode_encode_of_lt {width value : Nat} (small : value < 256 ^ width) :
    decode (encode width value) = value := by
  rw [decode_encode, Nat.mod_eq_of_lt small]

theorem encode_decode (bytes : List UInt8) : encode bytes.length (decode bytes) = bytes := by
  induction bytes with
  | nil => rfl
  | cons byte rest inductionHypothesis =>
    have byteLt := byte.toNat_lt
    rw [List.length_cons, encode, decode]
    congr 1
    · apply UInt8.toNat_inj.mp
      rw [UInt8.toNat_ofNat']
      omega
    · rw [show (byte.toNat + 256 * decode rest) / 256 = decode rest by omega, inductionHypothesis]

theorem decode_singleton (byte : UInt8) : decode [byte] = byte.toNat := rfl

theorem decode_append (low high : List UInt8) :
    decode (low ++ high) = decode low + 256 ^ low.length * decode high := by
  induction low with
  | nil => rw [List.nil_append, List.length_nil, pow_zero, Nat.one_mul, decode, Nat.zero_add]
  | cons byte rest inductionHypothesis =>
    rw [List.cons_append, decode, decode, inductionHypothesis, List.length_cons, pow_succ]
    ring

/-- Joining a low part and shifted high bytes bit by bit adds them up. -/
theorem or_shiftLeft {low width : Nat} (small : low < 2 ^ width) (high : Nat) :
    low ||| high <<< width = low + high * 2 ^ width := by
  rw [Nat.or_comm, Nat.shiftLeft_eq, Nat.mul_comm high, ← Nat.two_pow_add_eq_or_of_lt small,
    Nat.add_comm]

end LittleEndian
