/-
This file defines programs that talk to their surroundings by requests: a
program is done, or asks one request and goes on with the response, or has gone
wrong (it left the bounds of its memory, so nothing is promised of it any more).

A program is only text. What its requests do is said by a server, and the same
program is read under several of them: a server that answers every request
(`run`), surroundings that answer as they like within a relation (`Exec`), a
second program that asks the same server in between (`interleave`), and a
stop in the middle of a request (`Cut`). The rules here carry facts about one
request to facts about whole programs under each of these readings.
-/

import Mathlib.Data.Option.Basic
import Mathlib.Tactic.Common

namespace Interaction

/-- A program over requests, each with its own type of response. -/
inductive Program (Request : Type) (Response : Request → Type) (Result : Type) where
  | done (result : Result)
  | ask (request : Request) (next : Response request → Program Request Response Result)
  | wrong

/-- Surroundings that answer every request from a state, and change the state. -/
abbrev Server (Request : Type) (Response : Request → Type) (State : Type) :=
  (request : Request) → State → Response request × State

/-- Surroundings given by what they may answer, and the state they may go to. -/
abbrev Surroundings (Request : Type) (Response : Request → Type) (State : Type) :=
  (request : Request) → State → Response request → State → Prop

namespace Program

variable {Request : Type} {Response : Request → Type} {Result Outcome State : Type}

/-- Run one program, then the program its result selects. -/
def bind : Program Request Response Result →
    (Result → Program Request Response Outcome) → Program Request Response Outcome
  | .done result, next => next result
  | .ask request rest, next => .ask request fun response => (rest response).bind next
  | .wrong, _ => .wrong

instance : Monad (Program Request Response) where
  pure := .done
  bind := bind

/-- Ask one request and return its response. -/
def request (asked : Request) : Program Request Response (Response asked) :=
  .ask asked .done

/-- A computation inside bounded memory; leaving the bounds goes wrong. -/
def bounded : Option Result → Program Request Response Result
  | some result => .done result
  | none => .wrong

@[simp] theorem pure_eq (result : Result) :
    (pure result : Program Request Response Result) = .done result := rfl

@[simp] theorem done_bind (result : Result) (next : Result → Program Request Response Outcome) :
    (Program.done result >>= next) = next result := rfl

@[simp] theorem ask_bind (asked : Request)
    (rest : Response asked → Program Request Response Result)
    (next : Result → Program Request Response Outcome) :
    (Program.ask asked rest >>= next) = .ask asked fun response => rest response >>= next := rfl

@[simp] theorem request_bind (asked : Request)
    (next : Response asked → Program Request Response Outcome) :
    (request asked >>= next) = .ask asked next := rfl

@[simp] theorem bounded_some (result : Result) :
    (bounded (some result) : Program Request Response Result) = .done result := rfl

/-! ### Running against a server -/

/-- The result and the final state of a program on its own; `none` when it goes wrong. -/
def run (server : Server Request Response State) :
    Program Request Response Result → State → Option (Result × State)
  | .done result, state => some (result, state)
  | .ask asked next, state =>
    (next (server asked state).1).run server (server asked state).2
  | .wrong, _ => none

variable (server : Server Request Response State)

@[simp] theorem run_done (result : Result) (state : State) :
    (Program.done result).run server state = some (result, state) := rfl

@[simp] theorem run_ask (asked : Request)
    (next : Response asked → Program Request Response Result) (state : State) :
    (Program.ask asked next).run server state =
      (next (server asked state).1).run server (server asked state).2 := rfl

theorem run_bind (program : Program Request Response Result)
    (next : Result → Program Request Response Outcome) (state : State) :
    (program >>= next).run server state =
      (program.run server state).bind fun output => (next output.1).run server output.2 := by
  induction program generalizing state with
  | done result => rfl
  | ask asked rest inductionHypothesis =>
    rw [ask_bind, run_ask, run_ask, inductionHypothesis]
  | wrong => rfl

/-! ### Reading one kind of request as programs over another -/

section Relay

variable {Inner : Type} {Reply : Inner → Type}

/-- Replace every request by a program over other requests that computes its response. -/
def relay (serve : (asked : Request) → Program Inner Reply (Response asked)) :
    Program Request Response Result → Program Inner Reply Result
  | .done result => .done result
  | .ask asked next => serve asked >>= fun response => (next response).relay serve
  | .wrong => .wrong

variable (serve : (asked : Request) → Program Inner Reply (Response asked))

@[simp] theorem relay_ask (asked : Request)
    (next : Response asked → Program Request Response Result) :
    (Program.ask asked next).relay serve =
      (serve asked >>= fun response => (next response).relay serve) := rfl

theorem bind_assoc {Final : Type} (program : Program Request Response Result)
    (first : Result → Program Request Response Outcome)
    (second : Outcome → Program Request Response Final) :
    ((program >>= first) >>= second) = (program >>= fun result => first result >>= second) := by
  induction program with
  | done result => rfl
  | ask asked rest inductionHypothesis =>
    rw [ask_bind, ask_bind, ask_bind]
    exact congrArg (Program.ask asked) (funext inductionHypothesis)
  | wrong => rfl

theorem bind_done (program : Program Request Response Result) :
    (program >>= Program.done) = program := by
  induction program with
  | done result => rfl
  | ask asked rest inductionHypothesis =>
    rw [ask_bind]
    exact congrArg _ (funext inductionHypothesis)
  | wrong => rfl

/-- A single request becomes the program that serves it. -/
theorem relay_request (asked : Request) : (request asked).relay serve = serve asked :=
  bind_done (serve asked)

theorem relay_bind (program : Program Request Response Result)
    (next : Result → Program Request Response Outcome) :
    (program >>= next).relay serve =
      (program.relay serve >>= fun result => (next result).relay serve) := by
  induction program with
  | done result => rfl
  | ask asked rest inductionHypothesis =>
    rw [ask_bind, relay_ask, relay_ask, bind_assoc]
    exact congrArg _ (funext inductionHypothesis)
  | wrong => rfl

/-- Serving the requests of programs that serve requests. -/
theorem relay_relay {Innermost : Type} {Final : Innermost → Type}
    (further : (asked : Inner) → Program Innermost Final (Reply asked))
    (program : Program Request Response Result) :
    (program.relay serve).relay further =
      program.relay fun asked => (serve asked).relay further := by
  induction program with
  | done result => rfl
  | ask asked rest inductionHypothesis =>
    rw [relay_ask, relay_ask, relay_bind]
    exact congrArg _ (funext inductionHypothesis)
  | wrong => rfl

end Relay

/-! ### The requests a program can ask -/

/-- Whatever the responses, the program only asks allowed requests. -/
def Asks (allowed : Request → Prop) : Program Request Response Result → Prop
  | .done _ => True
  | .ask asked next => allowed asked ∧ ∀ response, (next response).Asks allowed
  | .wrong => True

theorem Asks.imp {allowed wider : Request → Prop} {program : Program Request Response Result}
    (asks : program.Asks allowed) (implies : ∀ asked, allowed asked → wider asked) :
    program.Asks wider := by
  induction program with
  | done result => trivial
  | ask asked rest inductionHypothesis =>
    exact ⟨implies asked asks.1, fun response => inductionHypothesis response (asks.2 response)⟩
  | wrong => trivial

/-- Serving every request by itself changes nothing. -/
theorem Asks.relay_self {allowed : Request → Prop}
    {serve : (asked : Request) → Program Request Response (Response asked)}
    (itself : ∀ asked, allowed asked → serve asked = request asked)
    {program : Program Request Response Result} (asks : program.Asks allowed) :
    program.relay serve = program := by
  induction program with
  | done result => rfl
  | ask asked rest inductionHypothesis =>
    rw [relay_ask, itself asked asks.1, request_bind]
    congr 1
    funext response
    exact inductionHypothesis response (asks.2 response)
  | wrong => rfl

/-- How requests are served matters only for those that are asked. -/
theorem Asks.relay_congr {Inner : Type} {Reply : Inner → Type} {allowed : Request → Prop}
    {serve other : (asked : Request) → Program Inner Reply (Response asked)}
    (alike : ∀ asked, allowed asked → serve asked = other asked)
    {program : Program Request Response Result} (asks : program.Asks allowed) :
    program.relay serve = program.relay other := by
  induction program with
  | done result => rfl
  | ask asked rest inductionHypothesis =>
    rw [relay_ask, relay_ask, alike asked asks.1]
    congr 1
    funext response
    exact inductionHypothesis response (asks.2 response)
  | wrong => rfl

theorem asks_trivial (program : Program Request Response Result) :
    program.Asks fun _ => True := by
  induction program with
  | done result => trivial
  | ask asked rest inductionHypothesis => exact ⟨trivial, inductionHypothesis⟩
  | wrong => trivial

theorem Asks.bind {allowed : Request → Prop} {program : Program Request Response Result}
    {next : Result → Program Request Response Outcome} (first : program.Asks allowed)
    (second : ∀ result, (next result).Asks allowed) : (program >>= next).Asks allowed := by
  induction program with
  | done result => exact second result
  | ask asked rest inductionHypothesis =>
    exact ⟨first.1, fun response => inductionHypothesis response (first.2 response)⟩
  | wrong => trivial

/-- What a relayed program asks is what the programs that serve its requests ask. -/
theorem Asks.relay {Inner : Type} {Reply : Inner → Type} {allowed : Request → Prop}
    {granted : Inner → Prop} {serve : (asked : Request) → Program Inner Reply (Response asked)}
    (serves : ∀ asked, allowed asked → (serve asked).Asks granted)
    {program : Program Request Response Result} (asks : program.Asks allowed) :
    (program.relay serve).Asks granted := by
  induction program with
  | done result => trivial
  | ask asked rest inductionHypothesis =>
    exact (serves asked asks.1).bind fun response => inductionHypothesis response (asks.2 response)
  | wrong => trivial

/-- Whatever the responses, what the program returns satisfies a condition. -/
def Returns (condition : Result → Prop) : Program Request Response Result → Prop
  | .done result => condition result
  | .ask _ next => ∀ response, (next response).Returns condition
  | .wrong => True

theorem Returns.imp {condition weaker : Result → Prop}
    {program : Program Request Response Result} (returns : program.Returns condition)
    (implies : ∀ result, condition result → weaker result) : program.Returns weaker := by
  induction program with
  | done result => exact implies result returns
  | ask asked rest inductionHypothesis =>
    exact fun response => inductionHypothesis response (returns response)
  | wrong => trivial

theorem returns_trivial (program : Program Request Response Result) :
    program.Returns fun _ => True := by
  induction program with
  | done result => trivial
  | ask asked rest inductionHypothesis => exact inductionHypothesis
  | wrong => trivial

theorem Returns.bind {middle : Result → Prop} {condition : Outcome → Prop}
    {program : Program Request Response Result}
    {next : Result → Program Request Response Outcome} (first : program.Returns middle)
    (second : ∀ result, middle result → (next result).Returns condition) :
    (program >>= next).Returns condition := by
  induction program with
  | done result => exact second result first
  | ask asked rest inductionHypothesis =>
    exact fun response => inductionHypothesis response (first response)
  | wrong => trivial

/-- What follows a program matters only at what it returns. -/
theorem Returns.bind_congr {condition : Result → Prop} {program : Program Request Response Result}
    {next other : Result → Program Request Response Outcome} (returns : program.Returns condition)
    (alike : ∀ result, condition result → next result = other result) :
    (program >>= next) = (program >>= other) := by
  induction program with
  | done result => exact alike result returns
  | ask asked rest inductionHypothesis =>
    rw [ask_bind, ask_bind]
    congr 1
    funext response
    exact inductionHypothesis response (returns response)
  | wrong => rfl

theorem Returns.run {condition : Result → Prop} {program : Program Request Response Result}
    (returns : program.Returns condition) {server : Server Request Response State}
    {state final : State} {result : Result}
    (ran : program.run server state = some (result, final)) : condition result := by
  induction program generalizing state with
  | done returned =>
    rw [run_done, Option.some.injEq, Prod.mk.injEq] at ran
    rw [← ran.1]
    exact returns
  | ask asked rest inductionHypothesis => exact inductionHypothesis _ (returns _) ran
  | wrong => cases ran

theorem Returns.relay {Inner : Type} {Reply : Inner → Type} {condition : Result → Prop}
    {program : Program Request Response Result} (returns : program.Returns condition)
    (serve : (asked : Request) → Program Inner Reply (Response asked)) :
    (program.relay serve).Returns condition := by
  induction program with
  | done result => exact returns
  | ask asked rest inductionHypothesis =>
    exact (returns_trivial _).bind fun response _ => inductionHypothesis response (returns response)
  | wrong => trivial

/-- Whatever the responses, the program does not go wrong. -/
def Safe : Program Request Response Result → Prop
  | .done _ => True
  | .ask _ next => ∀ response, (next response).Safe
  | .wrong => False

theorem Safe.bind {program : Program Request Response Result}
    {next : Result → Program Request Response Outcome} (first : program.Safe)
    (second : ∀ result, (next result).Safe) : (program >>= next).Safe := by
  induction program with
  | done result => exact second result
  | ask asked rest inductionHypothesis =>
    exact fun response => inductionHypothesis response (first response)
  | wrong => exact first.elim

theorem Safe.relay {Inner : Type} {Reply : Inner → Type}
    {serve : (asked : Request) → Program Inner Reply (Response asked)}
    (serves : ∀ asked, (serve asked).Safe) {program : Program Request Response Result}
    (safe : program.Safe) : (program.relay serve).Safe := by
  induction program with
  | done result => trivial
  | ask asked rest inductionHypothesis =>
    exact (serves asked).bind fun response => inductionHypothesis response (safe response)
  | wrong => exact safe.elim

theorem Safe.run {program : Program Request Response Result} (safe : program.Safe)
    (server : Server Request Response State) (state : State) :
    ∃ result final, program.run server state = some (result, final) := by
  induction program generalizing state with
  | done result => exact ⟨result, state, rfl⟩
  | ask asked rest inductionHypothesis => exact inductionHypothesis _ (safe _) _
  | wrong => exact safe.elim

/-- Two servers that answer the allowed requests alike, and keep answering alike, give the same
result. -/
theorem run_congr {Other : Type} (server : Server Request Response State)
    (other : Server Request Response Other) (alike : State → Other → Prop)
    {allowed : Request → Prop}
    (answers : ∀ asked state twin, allowed asked → alike state twin →
      (server asked state).1 = (other asked twin).1 ∧
        alike (server asked state).2 (other asked twin).2)
    {program : Program Request Response Result} (asks : program.Asks allowed) {state : State}
    {twin : Other} (start : alike state twin) :
    (program.run server state).map Prod.fst = (program.run other twin).map Prod.fst := by
  induction program generalizing state twin with
  | done result => rfl
  | ask asked rest inductionHypothesis =>
    obtain ⟨same, still⟩ := answers asked state twin asks.1 start
    rw [run_ask, run_ask, ← same]
    exact inductionHypothesis _ (asks.2 _) still
  | wrong => rfl

/-- Requests that leave the state alone leave it alone together. -/
theorem run_unchanged {allowed : Request → Prop}
    (idle : ∀ asked state, allowed asked → (server asked state).2 = state)
    {program : Program Request Response Result} (asks : program.Asks allowed)
    {state final : State} {result : Result}
    (ran : program.run server state = some (result, final)) :
    final = state := by
  induction program with
  | done returned => exact (Prod.mk.inj (Option.some.inj ran)).2.symm
  | ask asked rest inductionHypothesis =>
    rw [run_ask, idle asked state asks.1] at ran
    exact inductionHypothesis _ (asks.2 _) ran
  | wrong => cases ran

/-! ### Stopping in the middle -/

/-- The states a program can leave behind when it is stopped: before any of its requests, or
partway through one. -/
inductive Cut (server : Server Request Response State) (partway : Request → State → State → Prop) :
    Program Request Response Result → State → State → Prop
  | stop (program : Program Request Response Result) (state : State) :
      Cut server partway program state state
  | during {asked : Request} {next : Response asked → Program Request Response Result}
      {state left : State} (torn : partway asked state left) :
      Cut server partway (.ask asked next) state left
  | later {asked : Request} {next : Response asked → Program Request Response Result}
      {state left : State}
      (rest : Cut server partway (next (server asked state).1) (server asked state).2 left) :
      Cut server partway (.ask asked next) state left

theorem cut_done {partway : Request → State → State → Prop} {result : Result}
    {state left : State}
    (cut : Cut server partway (.done result : Program Request Response Result) state left) :
    left = state := by
  cases cut
  rfl

theorem cut_ask {partway : Request → State → State → Prop} {asked : Request}
    {next : Response asked → Program Request Response Result} {state left : State}
    (cut : Cut server partway (.ask asked next) state left) :
    left = state ∨ partway asked state left ∨
      Cut server partway (next (server asked state).1) (server asked state).2 left := by
  cases cut with
  | stop => exact .inl rfl
  | during torn => exact .inr (.inl torn)
  | later rest => exact .inr (.inr rest)

/-- A program stopped after a number of its requests; `none` when it was stopped. -/
def truncate : Nat → Program Request Response Result → Program Request Response (Option Result)
  | 0, _ => .done none
  | _ + 1, .done result => .done (some result)
  | count + 1, .ask asked next => .ask asked fun response => truncate count (next response)
  | _ + 1, .wrong => .wrong

/-! ### Two programs on one server -/

/-- The next request of a program, answered. -/
def step (server : Server Request Response State) :
    Program Request Response Result → State → Program Request Response Result × State
  | .ask asked next, state => (next (server asked state).1, (server asked state).2)
  | .done result, state => (.done result, state)
  | .wrong, state => (.wrong, state)

/-- Two programs that take turns at a server: the schedule says whose request is next. A program
that has no further request lets its turn pass. -/
def interleave (server : Server Request Response State) : List Bool →
    Program Request Response Result → Program Request Response Outcome → State →
    Program Request Response Result × Program Request Response Outcome × State
  | [], first, second, state => (first, second, state)
  | true :: rest, first, second, state =>
    interleave server rest (first.step server state).1 second (first.step server state).2
  | false :: rest, first, second, state =>
    interleave server rest first (second.step server state).1 (second.step server state).2

/-- A property of both programs and the state that every turn of a schedule keeps holds after
it. -/
theorem interleave_invariant
    (invariant : Program Request Response Result → Program Request Response Outcome → State → Prop)
    (schedule : List Bool)
    (firstTurn : true ∈ schedule → ∀ first second state, invariant first second state →
      invariant (first.step server state).1 second (first.step server state).2)
    (secondTurn : ∀ first second state, invariant first second state →
      invariant first (second.step server state).1 (second.step server state).2)
    {first : Program Request Response Result}
    {second : Program Request Response Outcome} {state : State}
    (start : invariant first second state) :
    invariant (interleave server schedule first second state).1
      (interleave server schedule first second state).2.1
      (interleave server schedule first second state).2.2 := by
  induction schedule generalizing first second state with
  | nil => exact start
  | cons turn rest inductionHypothesis =>
    have firstLater := fun member => firstTurn (List.mem_cons_of_mem turn member)
    cases turn with
    | true =>
      exact inductionHypothesis firstLater (firstTurn List.mem_cons_self first second state start)
    | false => exact inductionHypothesis firstLater (secondTurn first second state start)

theorem interleave_append (front back : List Bool) (first : Program Request Response Result)
    (second : Program Request Response Outcome) (state : State) :
    interleave server (front ++ back) first second state =
      interleave server back (interleave server front first second state).1
        (interleave server front first second state).2.1
        (interleave server front first second state).2.2 := by
  induction front generalizing first second state with
  | nil => rfl
  | cons turn rest inductionHypothesis => cases turn <;> exact inductionHypothesis ..

/-- Whatever the responses, the program ends after at most a number of requests. -/
def Within : Program Request Response Result → Nat → Prop
  | .done _, _ => True
  | .ask _ _, 0 => False
  | .ask _ next, count + 1 => ∀ response, (next response).Within count
  | .wrong, _ => True

/-- Turns enough for all its requests take the first program to its end. -/
theorem interleave_first_alone {count : Nat} {first : Program Request Response Result}
    (second : Program Request Response Outcome) {state final : State} {result : Result}
    (within : first.Within count) (ran : first.run server state = some (result, final)) :
    interleave server (List.replicate count true) first second state =
      (.done result, second, final) := by
  induction count generalizing first state with
  | zero =>
    cases first with
    | done returned => cases ran; rfl
    | ask asked next => cases within
    | wrong => cases ran
  | succ count inductionHypothesis =>
    rw [List.replicate_succ, interleave]
    cases first with
    | done returned => exact inductionHypothesis trivial ran
    | ask asked next => exact inductionHypothesis (within _) ran
    | wrong => cases ran

/-- Turns enough for all its requests take the second program to its end. -/
theorem interleave_second_alone {count : Nat} (first : Program Request Response Result)
    {second : Program Request Response Outcome} {state final : State} {result : Outcome}
    (within : second.Within count) (ran : second.run server state = some (result, final)) :
    interleave server (List.replicate count false) first second state =
      (first, .done result, final) := by
  induction count generalizing second state with
  | zero =>
    cases second with
    | done returned => cases ran; rfl
    | ask asked next => cases within
    | wrong => cases ran
  | succ count inductionHypothesis =>
    rw [List.replicate_succ, interleave]
    cases second with
    | done returned => exact inductionHypothesis trivial ran
    | ask asked next => exact inductionHypothesis (within _) ran
    | wrong => cases ran

/-- On its own run each request of a program relates the states before and after it. -/
def Along (server : Server Request Response State) (moves : State → State → Prop) :
    Program Request Response Result → State → Prop
  | .done _, _ => True
  | .ask asked next, state =>
    moves state (server asked state).2 ∧
      (next (server asked state).1).Along server moves (server asked state).2
  | .wrong, _ => True

theorem Along.step {moves : State → State → Prop} {program : Program Request Response Result}
    {state : State} (reflexive : moves state state) (along : program.Along server moves state) :
    moves state (program.step server state).2 ∧
      (program.step server state).1.Along server moves (program.step server state).2 := by
  cases program with
  | done result => exact ⟨reflexive, trivial⟩
  | ask asked next => exact along
  | wrong => exact ⟨reflexive, trivial⟩

theorem Along.truncate {moves : State → State → Prop} {program : Program Request Response Result}
    {state : State} (along : program.Along server moves state) (count : Nat) :
    (program.truncate count).Along server moves state := by
  induction count generalizing program state with
  | zero => trivial
  | succ count inductionHypothesis =>
    cases program with
    | done result => trivial
    | ask asked next => exact ⟨along.1, inductionHypothesis along.2⟩
    | wrong => trivial

/-- The run of a sequence, when its second part starts from states its first part can end in. -/
theorem Along.bind {moves : State → State → Prop} {invariant : State → Prop}
    (kept : ∀ before after, moves before after → invariant after)
    {program : Program Request Response Result}
    {next : Result → Program Request Response Outcome} {state : State} (start : invariant state)
    (first : program.Along server moves state)
    (second : ∀ result final, invariant final → (next result).Along server moves final) :
    (program >>= next).Along server moves state := by
  induction program generalizing state with
  | done result => exact second result state start
  | ask asked rest inductionHypothesis =>
    exact ⟨first.1, inductionHypothesis _ (kept _ _ first.1) first.2⟩
  | wrong => trivial

/-! ### Running in surroundings that may answer in several ways -/

/-- The executions of a program: each response is one the surroundings may give. -/
inductive Exec (surroundings : Surroundings Request Response State) :
    Program Request Response Result → State → Result → State → Prop
  | done (result : Result) (state : State) : Exec surroundings (.done result) state result state
  | ask {asked : Request} {next : Response asked → Program Request Response Result}
      {state middle final : State} {response : Response asked} {result : Result}
      (answered : surroundings asked state response middle)
      (rest : Exec surroundings (next response) middle result final) :
      Exec surroundings (.ask asked next) state result final

theorem exec_done {surroundings : Surroundings Request Response State} {returned result : Result}
    {state final : State} :
    Exec surroundings (.done returned) state result final ↔ result = returned ∧ final = state := by
  constructor
  · rintro ⟨⟩
    exact ⟨rfl, rfl⟩
  · rintro ⟨rfl, rfl⟩
    exact .done _ _

theorem exec_ask {surroundings : Surroundings Request Response State} {asked : Request}
    {next : Response asked → Program Request Response Result} {result : Result}
    {state final : State} :
    Exec surroundings (.ask asked next) state result final ↔
      ∃ response middle, surroundings asked state response middle ∧
        Exec surroundings (next response) middle result final := by
  constructor
  · rintro (_ | ⟨answered, rest⟩)
    exact ⟨_, _, answered, rest⟩
  · rintro ⟨response, middle, answered, rest⟩
    exact .ask answered rest

theorem exec_request {surroundings : Surroundings Request Response State} {asked : Request}
    {response : Response asked} {state final : State} :
    Exec surroundings (request asked) state response final ↔
      surroundings asked state response final := by
  rw [request, exec_ask]
  constructor
  · rintro ⟨_, _, answered, rest⟩
    obtain ⟨rfl, rfl⟩ := exec_done.mp rest
    exact answered
  · intro answered
    exact ⟨response, final, answered, .done _ _⟩

theorem exec_request_bind {surroundings : Surroundings Request Response State} {asked : Request}
    {next : Response asked → Program Request Response Result} {result : Result}
    {state final : State} :
    Exec surroundings (request asked >>= next) state result final ↔
      ∃ response middle, surroundings asked state response middle ∧
        Exec surroundings (next response) middle result final := by
  rw [request_bind, exec_ask]

theorem exec_bind {surroundings : Surroundings Request Response State}
    {program : Program Request Response Result}
    {next : Result → Program Request Response Outcome} {state final : State} {outcome : Outcome} :
    Exec surroundings (program >>= next) state outcome final ↔
      ∃ result middle, Exec surroundings program state result middle ∧
        Exec surroundings (next result) middle outcome final := by
  induction program generalizing state with
  | done result =>
    constructor
    · intro rest
      exact ⟨result, state, .done _ _, rest⟩
    · rintro ⟨_, _, first, rest⟩
      obtain ⟨rfl, rfl⟩ := exec_done.mp first
      exact rest
  | ask asked rest inductionHypothesis =>
    rw [ask_bind, exec_ask]
    constructor
    · rintro ⟨response, middle, answered, later⟩
      obtain ⟨result, last, first, second⟩ := (inductionHypothesis response).mp later
      exact ⟨result, last, .ask answered first, second⟩
    · rintro ⟨result, last, first, second⟩
      obtain ⟨response, middle, answered, later⟩ := exec_ask.mp first
      exact ⟨response, middle, answered,
        (inductionHypothesis response).mpr ⟨result, last, later, second⟩⟩
  | wrong =>
    constructor
    · rintro ⟨⟩
    · rintro ⟨_, _, ⟨⟩, _⟩

theorem exec_bounded {surroundings : Surroundings Request Response State} {bound : Option Result}
    {next : Result → Program Request Response Outcome} {state final : State} {outcome : Outcome} :
    Exec surroundings (bounded bound >>= next) state outcome final ↔
      ∃ result, bound = some result ∧ Exec surroundings (next result) state outcome final := by
  cases bound with
  | none =>
    constructor
    · rintro ⟨⟩
    · rintro ⟨_, ⟨⟩, _⟩
  | some result =>
    constructor
    · intro rest
      exact ⟨result, rfl, rest⟩
    · rintro ⟨_, ⟨⟩, rest⟩
      exact rest

/-- What a program returns whatever the responses, it returns in every execution. -/
theorem Returns.exec {condition : Result → Prop} {program : Program Request Response Result}
    (returns : program.Returns condition) {surroundings : Surroundings Request Response State}
    {state final : State} {result : Result}
    (execution : Exec surroundings program state result final) : condition result := by
  induction execution with
  | done result state => exact returns
  | ask answered rest inductionHypothesis => exact inductionHypothesis (returns _)

/-- What is an execution in some surroundings is one in surroundings that may answer more. -/
theorem Exec.mono {surroundings wider : Surroundings Request Response State}
    (answers : ∀ asked state response next, surroundings asked state response next →
      wider asked state response next)
    {program : Program Request Response Result} {state final : State} {result : Result}
    (execution : Exec surroundings program state result final) :
    Exec wider program state result final := by
  induction execution with
  | done result state => exact .done result state
  | ask answered rest inductionHypothesis =>
    exact .ask (answers _ _ _ _ answered) inductionHypothesis

/-- Running against a server that answers as the surroundings may is an execution. -/
theorem exec_of_run {surroundings : Surroundings Request Response State}
    {server : Server Request Response State}
    (answers : ∀ asked state,
      surroundings asked state (server asked state).1 (server asked state).2)
    {program : Program Request Response Result} {state final : State} {result : Result}
    (ran : program.run server state = some (result, final)) :
    Exec surroundings program state result final := by
  induction program generalizing state with
  | done returned =>
    obtain ⟨rfl, rfl⟩ := Prod.mk.inj (Option.some.inj ran)
    exact .done _ _
  | ask asked rest inductionHypothesis =>
    exact .ask (answers asked state) (inductionHypothesis _ ran)
  | wrong => cases ran

/-! ### Pre- and postconditions -/

/-- Every execution from a state ends with a result and in a state that satisfy a condition. -/
def Ensures (surroundings : Surroundings Request Response State)
    (program : Program Request Response Result) (state : State)
    (condition : Result → State → Prop) : Prop :=
  ∀ result final, Exec surroundings program state result final → condition result final

theorem ensures_done {surroundings : Surroundings Request Response State} {result : Result}
    {state : State} {condition : Result → State → Prop} :
    Ensures surroundings (.done result) state condition ↔ condition result state := by
  constructor
  · intro ensures
    exact ensures result state (.done result state)
  · rintro holds _ _ ⟨⟩
    exact holds

theorem ensures_request {surroundings : Surroundings Request Response State} {asked : Request}
    {next : Response asked → Program Request Response Result} {state : State}
    {condition : Result → State → Prop} :
    Ensures surroundings (request asked >>= next) state condition ↔
      ∀ response middle, surroundings asked state response middle →
        Ensures surroundings (next response) middle condition := by
  constructor
  · intro ensures response middle answered result final rest
    exact ensures result final (.ask answered rest)
  · rintro ensures result final (_ | ⟨answered, rest⟩)
    exact ensures _ _ answered result final rest

theorem Ensures.imp {surroundings : Surroundings Request Response State}
    {program : Program Request Response Result} {state : State}
    {condition weaker : Result → State → Prop}
    (ensures : Ensures surroundings program state condition)
    (implies : ∀ result final, condition result final → weaker result final) :
    Ensures surroundings program state weaker :=
  fun result final execution => implies result final (ensures result final execution)

theorem Ensures.bind {surroundings : Surroundings Request Response State}
    {program : Program Request Response Result}
    {next : Result → Program Request Response Outcome} {state : State}
    {between : Result → State → Prop} {condition : Outcome → State → Prop}
    (first : Ensures surroundings program state between)
    (second : ∀ result middle, between result middle →
      Ensures surroundings (next result) middle condition) :
    Ensures surroundings (program >>= next) state condition := by
  intro outcome final execution
  obtain ⟨result, middle, front, back⟩ := exec_bind.mp execution
  exact second result middle (first result middle front) outcome final back

theorem ensures_bounded {surroundings : Surroundings Request Response State}
    {bound : Option Result} {next : Result → Program Request Response Outcome} {state : State}
    {condition : Outcome → State → Prop}
    (inside : ∀ result, bound = some result →
      Ensures surroundings (next result) state condition) :
    Ensures surroundings (bounded bound >>= next) state condition := by
  intro outcome final execution
  obtain ⟨result, within, rest⟩ := exec_bounded.mp execution
  exact inside result within outcome final rest

/-- What every allowed request keeps, a program that asks only these keeps. -/
theorem Asks.ensures {surroundings : Surroundings Request Response State}
    {allowed : Request → Prop} {invariant : State → Prop}
    (kept : ∀ asked state response next, allowed asked → invariant state →
      surroundings asked state response next → invariant next)
    {program : Program Request Response Result} (asks : program.Asks allowed) {state : State}
    (holds : invariant state) :
    Ensures surroundings program state fun _ final => invariant final := by
  intro result final execution
  induction execution with
  | done result state => exact holds
  | ask answered rest inductionHypothesis =>
    exact inductionHypothesis (asks.2 _) (kept _ _ _ _ asks.1 holds answered)

end Program

end Interaction
