/-
This file is about append-only logs of keys and values, in which a later entry
for a key takes the place of the earlier ones. The reader's answer is the value
of the last entry for the key; the rules say how it changes as the log grows.
-/

import Mathlib.Data.List.Basic
import Mathlib.Tactic.Common

namespace KeyValueLog

variable {Key Value : Type} [DecidableEq Key]

/-- The value of the last entry for a key. -/
def latest : List (Key × Value) → Key → Option Value
  | [], _ => none
  | (entryKey, value) :: rest, key =>
    (latest rest key).or (if entryKey = key then some value else none)

theorem latest_append (front back : List (Key × Value)) (key : Key) :
    latest (front ++ back) key = (latest back key).or (latest front key) := by
  induction front with
  | nil => rw [List.nil_append, latest, Option.or_none]
  | cons entry rest inductionHypothesis =>
    rw [List.cons_append, latest, latest, inductionHypothesis, Option.or_assoc]

theorem latest_concat_self (log : List (Key × Value)) (key : Key) (value : Value) :
    latest (log ++ [(key, value)]) key = some value := by
  rw [latest_append, latest, latest, if_pos rfl, Option.none_or, Option.some_or]

theorem latest_concat_of_ne (log : List (Key × Value)) {entryKey key : Key} (value : Value)
    (other : entryKey ≠ key) : latest (log ++ [(entryKey, value)]) key = latest log key := by
  rw [latest_append, latest, latest, if_neg other, Option.none_or, Option.none_or]

end KeyValueLog
