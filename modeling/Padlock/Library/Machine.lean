/-
This file is about machines that take one input after another: runs, the answers
along a run, what all of them show, and machines that answer alike step by step
and so over whole runs. A machine that takes no inputs comes to its end when
each step brings it nearer.
-/

import Mathlib.Logic.Function.Iterate
import Mathlib.Tactic.Common

namespace Machine

variable {State Input Output : Type} (step : State → Input → Output × State)

/-- The outputs of a run, and the state after it. -/
def run : State → List Input → List Output × State
  | state, [] => ([], state)
  | state, input :: rest =>
    ((step state input).1 :: (run (step state input).2 rest).1, (run (step state input).2 rest).2)

theorem run_append (state : State) (front back : List Input) :
    run step state (front ++ back) =
      ((run step state front).1 ++ (run step (run step state front).2 back).1,
        (run step (run step state front).2 back).2) := by
  induction front generalizing state with
  | nil => rfl
  | cons input rest inductionHypothesis =>
    rw [List.cons_append, run, inductionHypothesis]
    rfl

/-- The inputs of a run, each with its output. -/
def trace (state : State) (inputs : List Input) : List (Input × Output) :=
  inputs.zip (run step state inputs).1

@[simp] theorem trace_cons (state : State) (input : Input) (rest : List Input) :
    trace step state (input :: rest) =
      (input, (step state input).1) :: trace step (step state input).2 rest := rfl

theorem trace_append (state : State) (front back : List Input) :
    trace step state (front ++ back) =
      trace step state front ++ trace step (run step state front).2 back := by
  induction front generalizing state with
  | nil => rfl
  | cons input rest inductionHypothesis =>
    rw [List.cons_append, trace_cons, inductionHypothesis]
    rfl

/-- What one step keeps and shows in its output, every output of a run shows. -/
theorem forall_run {kept : State → Prop} {shown : Output → Prop}
    (steps : ∀ state input, kept state →
      shown (step state input).1 ∧ kept (step state input).2)
    {state : State} (start : kept state) (inputs : List Input) :
    ∀ output ∈ (run step state inputs).1, shown output := by
  induction inputs generalizing state with
  | nil => exact fun output member => absurd member List.not_mem_nil
  | cons input rest inductionHypothesis =>
    obtain ⟨first, next⟩ := steps state input start
    exact List.forall_mem_cons.mpr ⟨first, inductionHypothesis next⟩

/-- Two machines whose steps answer alike on the allowed inputs answer alike over whole runs. -/
theorem run_alike {Other : Type} (other : Other → Input → Output × Other)
    {alike : State → Other → Prop} {allowed : Input → Prop}
    (steps : ∀ state twin input, alike state twin → allowed input →
      (step state input).1 = (other twin input).1 ∧ alike (step state input).2 (other twin input).2)
    {state : State} {twin : Other} (start : alike state twin) {inputs : List Input}
    (all : ∀ input ∈ inputs, allowed input) :
    (run step state inputs).1 = (run other twin inputs).1 ∧
      alike (run step state inputs).2 (run other twin inputs).2 := by
  induction inputs generalizing state twin with
  | nil => exact ⟨rfl, start⟩
  | cons input rest inductionHypothesis =>
    obtain ⟨same, next⟩ := steps state twin input start (all input List.mem_cons_self)
    obtain ⟨sameRest, final⟩ := inductionHypothesis next
      (fun later member => all later (List.mem_cons_of_mem _ member))
    refine ⟨?_, final⟩
    rw [run, run, same, sameRest]

/-- A machine without inputs that each step brings nearer to its end comes to it. -/
theorem exists_ended {advance : State → State} {kept ended : State → Prop} (measure : State → Nat)
    (steps : ∀ state, kept state → ¬ ended state →
      kept (advance state) ∧ measure (advance state) < measure state)
    {state : State} (start : kept state) : ∃ count, ended (advance^[count] state) := by
  induction distance : measure state using Nat.strongRecOn generalizing state with
  | ind distance inductionHypothesis =>
    subst distance
    by_cases finished : ended state
    · exact ⟨0, finished⟩
    · obtain ⟨next, nearer⟩ := steps state start finished
      obtain ⟨count, reached⟩ := inductionHypothesis _ nearer next rfl
      exact ⟨count + 1, reached⟩

end Machine
