/-
This file puts the tool and the stores together. An invocation of the tool has
its arguments and its circumstances: the user, the environment and the answers
of the service file, the terminal, the authentication and the key device. It
finds a disk and leaves a disk, prints something and exits with a code.

The vault says what all this is for: a map from paths to logs. Whatever sequence
of invocations a user makes, under one header password, with records that are not
too long and on a disk that serves `set` and `get` without failures, the exit
codes and what is printed are those of the vault.
-/

import Padlock.Cli.Tool
import Padlock.Store.Volume

namespace Padlock

open Interaction Program

/-! ### Invocations of the tool -/

/-- What an invocation meets. Each call is made at most once, so one answer for each is enough. -/
structure Circumstances where
  user : Option CString
  environment : List UInt8 → Option CString
  reply : (call : CliCall) → CliReply call

/-- The tool among its circumstances, on a disk, with what it has printed so far. The store calls
do to the disk what the library does; an allocation may fail at any of its steps. -/
def around (ssl : OpenSsl) (circumstances : Circumstances) :
    Surroundings MainRequest MainResponse (Disk × List UInt8)
  | .getpwuid, state, name, next => name = circumstances.user ∧ next = state
  | .tool (.getenv name), state, value, next =>
    value = circumstances.environment name ∧ next = state
  | .tool (.cli call), state, reply, next => reply = circumstances.reply call ∧ next = state
  | .tool (.padlockAllocate path size password), state, result, next =>
    Exec answersRemoving (padlockAllocate ssl (some path) size (some password)) state.1 result
      next.1 ∧ next.2 = state.2
  | .padlockSet path password key value, state, result, next =>
    (callSet ssl path password key value).run serveDisk state.1 = some (result, next.1) ∧
      next.2 = state.2
  | .padlockGet path password key, state, found, next =>
    (callGet ssl path password key).run serveDisk state.1 = some (found, next.1) ∧
      next.2 = state.2
  | .tool (.print message), state, _, next => next = (state.1, state.2 ++ message ++ [newline])
  | .writeValue bytes, state, _, next => next = (state.1, state.2 ++ bytes)
  | .tool .usage, state, _, next => next = state
  | .tool (.complain _), state, _, next => next = state
  | .tool (.reportFailure _ _), state, _, next => next = state
  | .padlockFree, state, _, next => next = state

/-- One invocation of the tool. -/
structure Invocation where
  argv : List CString
  circumstances : Circumstances

/-- What an invocation ends with: its exit code and what it has printed. -/
abbrev Ending := Int × List UInt8

/-- Invocations one after another. -/
inductive Session (ssl : OpenSsl) (strerror : Nat → List UInt8) :
    List Invocation → Disk → List Ending → Disk → Prop
  | nil (disk : Disk) : Session ssl strerror [] disk [] disk
  | cons {invocation : Invocation} {rest : List Invocation} {disk middle final : Disk}
      {ending : Ending} {endings : List Ending}
      (first : Exec (around ssl invocation.circumstances) (padlockMain strerror invocation.argv)
        (disk, []) ending.1 (middle, ending.2))
      (others : Session ssl strerror rest middle endings final) :
      Session ssl strerror (invocation :: rest) disk (ending :: endings) final

/-! ### The same on a vault -/

/-- A command line that is well formed. -/
inductive Command where
  | allocate (size : UInt64)
  | set (key : CString) (value : Value)
  | get (key : CString)

/-- The command of some arguments, and the place of the path among them; `none` when the usage is
shown. -/
def commandOf (argv : List CString) : Option (Command × Nat) :=
  match argv[1]? with
  | none => none
  | some name =>
    if name.bytes = ascii "allocate" then
      let (parsed, size) := padlockParseSize argv[2]? (some 0)
      if argv.length < 3 ∨ argv.length > 4 ∨ parsed ≠ 0 then none
      else some (.allocate (size.getD 0), 3)
    else if name.bytes = ascii "set" then
      match argv[2]?, argv[3]? with
      | some key, some value =>
        if argv.length > 5 then none else some (.set key (argumentValue value), 4)
      | _, _ => none
    else if name.bytes = ascii "get" then
      match argv[2]? with
      | some key => if argv.length > 4 then none else some (.get key, 3)
      | none => none
    else none

/-- The answers an invocation gets before it comes to the store. -/
def Circumstances.answers (circumstances : Circumstances) : Server ToolRequest ToolResponse Unit
  | .getenv name, _ => (circumstances.environment name, ())
  | .cli call, _ => (circumstances.reply call, ())
  | .padlockAllocate _ _ _, _ => (-1, ())
  | .usage, _ => ((), ())
  | .complain _, _ => ((), ())
  | .reportFailure _ _, _ => ((), ())
  | .print _, _ => ((), ())

/-- The path and the header password that an invocation comes to the store with, if it does. -/
def Circumstances.prepared (circumstances : Circumstances) (strerror : Nat → List UInt8)
    (username : CString) (argv : List CString) (index : Nat) : Option (CString × CString) :=
  ((prepare strerror username argv index).run circumstances.answers ()).bind fun output =>
    output.1.toOption

/-- A command on the store at a path. Whether an allocation is granted is up to the system; one
that is too small never is. -/
def Vault.command (vault : Vault) (granted : Bool) (path : CString) :
    Command → Ending × Vault
  | .allocate size =>
    if granted ∧ 8192 ≤ size.toNat then
      ((0, ascii "allocated " ++ path.bytes ++ [newline]),
        Function.update vault path (some (size.toNat, [])))
    else ((1, []), vault)
  | .set key value =>
    ((if (vault.call path (.set key value)).1 = .set 0 then 0 else 1, []),
      (vault.call path (.set key value)).2)
  | .get key =>
    match (vault.call path (.get key)).1 with
    | .get (some found) => ((0, found.value ++ [newline]), vault)
    | _ => ((1, []), vault)

/-- An invocation of the tool on a vault. -/
def Vault.invoke (strerror : Nat → List UInt8) (vault : Vault) (input : Invocation × Bool) :
    Ending × Vault :=
  match input.1.circumstances.user with
  | none => ((1, []), vault)
  | some username =>
    match commandOf input.1.argv with
    | none => ((2, []), vault)
    | some (command, index) =>
      match input.1.circumstances.prepared strerror username input.1.argv index with
      | none => ((1, []), vault)
      | some (path, _) => vault.command input.2 path command

/-! ### Before the store -/

/-- The requests that neither touch the store nor print. -/
def ToolRequest.Plain : ToolRequest → Prop
  | .padlockAllocate _ _ _ | .print _ => False
  | _ => True

section Preparing

variable {ssl : OpenSsl} {circumstances : Circumstances} {state final : Disk × List UInt8}

theorem around_plain {asked : ToolRequest} (plain : asked.Plain) {response : ToolResponse asked} :
    around ssl circumstances (.tool asked) state response final ↔
      response = (circumstances.answers asked ()).1 ∧ final = state := by
  cases asked with
  | getenv name => exact Iff.rfl
  | cli call => exact Iff.rfl
  | padlockAllocate path size password => exact plain.elim
  | usage => exact ⟨fun same => ⟨rfl, same⟩, fun both => both.2⟩
  | complain message => exact ⟨fun same => ⟨rfl, same⟩, fun both => both.2⟩
  | reportFailure action detail => exact ⟨fun same => ⟨rfl, same⟩, fun both => both.2⟩
  | print message => exact plain.elim

/-- A part of the tool that makes plain requests only has one outcome, and leaves the disk alone. -/
theorem exec_onMain {Result : Type} {program : Tool Result} (asks : program.Asks ToolRequest.Plain)
    {result : Result} :
    Exec (around ssl circumstances) (onMain program) state result final ↔
      program.run circumstances.answers () = some (result, ()) ∧ final = state := by
  induction program with
  | done returned =>
    rw [onMain, relay, exec_done, run_done, Option.some.injEq]
    refine and_congr_left' ⟨fun same => by rw [same], fun same => ?_⟩
    exact (Prod.mk.inj same).1.symm
  | ask asked next inductionHypothesis =>
    rw [onMain, relay_ask, exec_request_bind, run_ask]
    constructor
    · rintro ⟨response, middle, answered, rest⟩
      obtain ⟨rfl, rfl⟩ := (around_plain asks.1).mp answered
      exact (inductionHypothesis _ (asks.2 _)).mp rest
    · intro ran
      exact ⟨_, state, (around_plain asks.1).mpr ⟨rfl, rfl⟩,
        (inductionHypothesis _ (asks.2 _)).mpr ran⟩
  | wrong =>
    constructor
    · rintro ⟨⟩
    · rintro ⟨⟨⟩, -⟩

variable (strerror : Nat → List UInt8) (username : CString) (argv : List CString)

theorem asks_resolvePath (index : Nat) : (resolvePath argv index).Asks ToolRequest.Plain := by
  unfold resolvePath
  split
  · trivial
  · refine ⟨trivial, fun home => ⟨trivial, fun storeRoot => ?_⟩⟩
    cases storeRoot with
    | none => trivial
    | some root =>
      show Asks _ (if root.bytes = [] then _ else _)
      split <;> trivial

theorem asks_prepare (index : Nat) :
    (prepare strerror username argv index).Asks ToolRequest.Plain := by
  unfold prepare
  refine (asks_resolvePath argv index).bind fun path => ?_
  cases path with
  | none => exact ⟨trivial, fun _ => trivial⟩
  | some path =>
    refine ((asks_trivial (deriveHeaderPassword strerror username)).relay fun call _ => ?_).bind
      fun derived => ?_
    · exact ⟨trivial, fun _ => trivial⟩
    · cases derived with
      | error failure => exact ⟨trivial, fun _ => trivial⟩
      | ok password => trivial

/-- What a command does once it has the path and the header password. -/
def Command.perform (path headerPassword : CString) : Command → Main Int
  | .allocate size => onMain do
    let allocated : Int ← request (ToolRequest.padlockAllocate path size headerPassword)
    if allocated ≠ 0 then
      request (ToolRequest.reportFailure (ascii "allocation") [])
      return 1
    request (ToolRequest.print (ascii "allocated " ++ path.bytes))
    return 0
  | .set key value => do
    let result : Int ← request (MainRequest.padlockSet path headerPassword key value)
    if result ≠ 0 then failWith (ascii "set") else return 0
  | .get key => do
    match ← request (MainRequest.padlockGet path headerPassword key) with
    | none => failWith (ascii "lookup")
    | some found =>
      request (MainRequest.writeValue (found.value ++ [newline]))
      request MainRequest.padlockFree
      return 0

/-- The way of a well-formed command line to the store. -/
def performAt (command : Command) (index : Nat) : Main Int := do
  match ← onMain (prepare strerror username argv index) with
  | .error code => return code
  | .ok (path, headerPassword) => command.perform path headerPassword

theorem onMain_allocateCommand :
    onMain (allocateCommand strerror username argv) =
      if argv.length < 3 ∨ argv.length > 4 ∨ (padlockParseSize argv[2]? (some 0)).1 ≠ 0 then
        refuseUsage
      else
        performAt strerror username argv
          (.allocate ((padlockParseSize argv[2]? (some 0)).2.getD 0)) 3 := by
  unfold allocateCommand performAt prepare
  dsimp only
  split
  · rfl
  · unfold onMain
    rw [relay_bind, relay_bind, Program.bind_assoc]
    congr 1
    funext path
    cases path with
    | none => rfl
    | some path =>
      dsimp only
      rw [relay_bind, relay_bind, Program.bind_assoc]
      congr 1
      funext derived
      cases derived <;> rfl

/-- `main` by the command that the arguments make up. -/
theorem padlockMain_eq :
    padlockMain strerror argv = (do
      match ← request MainRequest.getpwuid with
      | none =>
        onMain (request (ToolRequest.complain (ascii "padlock: could not resolve current user")))
        return 1
      | some username =>
        match commandOf argv with
        | none => refuseUsage
        | some (command, index) => performAt strerror username argv command index) := by
  unfold padlockMain
  congr 1
  funext name
  cases name with
  | none => rfl
  | some username =>
    dsimp only
    unfold commandOf
    cases argv[1]? with
    | none => rfl
    | some command =>
      dsimp only
      split
      · rw [onMain_allocateCommand]
        split <;> rfl
      · split
        · unfold setCommand
          cases argv[2]? with
          | none => rfl
          | some key =>
            cases argv[3]? with
            | none => rfl
            | some value =>
              dsimp only
              split <;> rfl
        · split
          · unfold getCommand
            cases argv[2]? with
            | none => rfl
            | some key =>
              dsimp only
              split
              · rfl
              · dsimp only
                unfold performAt
                congr 1
                funext prepared
                rcases prepared with code | ⟨path, headerPassword⟩
                · rfl
                · dsimp only [Command.perform]
                  congr 1
                  funext found
                  cases found <;> rfl
          · rfl

end Preparing

/-! ### The tool refines the vault -/

section Refinement

variable {ssl : OpenSsl} {strerror : Nat → List UInt8} {circumstances : Circumstances}
  {path password : CString} {places : Set CString} {disk after : Disk} {vault : Vault} {exit : Int}
  {printed : List UInt8}

/-- The record of a `set` is one the cipher laws speak of. -/
def Command.Small : Command → Prop
  | .set key value => recordLength key.bytes value.bytes ≤ 2 ^ 24
  | _ => True

instance : DecidablePred Command.Small
  | .set _ _ => inferInstanceAs (Decidable (_ ≤ _))
  | .allocate _ => inferInstanceAs (Decidable True)
  | .get _ => inferInstanceAs (Decidable True)

theorem exec_refuseUsage {state final : Disk × List UInt8}
    (ended : Exec (around ssl circumstances) refuseUsage state exit final) :
    exit = 2 ∧ final = state := by
  obtain ⟨_, middle, rfl, rest⟩ := exec_ask.mp ended
  exact exec_done.mp rest

theorem exec_failWith {action : List UInt8} {state final : Disk × List UInt8}
    (ended : Exec (around ssl circumstances) (failWith action) state exit final) :
    exit = 1 ∧ final = state := by
  obtain ⟨_, middle, rfl, rest⟩ := exec_ask.mp ended
  exact exec_done.mp rest

/-- A lookup leaves the vault alone. -/
theorem Vault.call_get (vault : Vault) (path key : CString) :
    (vault.call path (.get key)).2 = vault := by
  unfold Vault.call
  cases known : vault path with
  | none => rfl
  | some store =>
    show Function.update vault path (some store) = vault
    rw [← known, Function.update_eq_self]

/-- A command does on the disk what it does on the vault. -/
theorem Represents.command (lawful : ssl.Lawful)
    (represents : Represents ssl password places disk vault) (member : path ∈ places)
    (command : Command) (small : command.Small)
    (execution : Exec (around ssl circumstances) (command.perform path password) (disk, []) exit
      (after, printed)) :
    ∃ granted, (vault.command granted path command).1 = (exit, printed) ∧
      Represents ssl password places after (vault.command granted path command).2 := by
  cases command with
  | allocate size =>
    obtain ⟨result, ⟨middle, silent⟩, ⟨allocating, rfl⟩, rest⟩ := exec_ask.mp execution
    obtain ⟨rfl, unchanged⟩ | ⟨rfl, enough, stored⟩ := represents.allocate lawful.cbc allocating
    · obtain ⟨_, last, rfl, rest⟩ := exec_ask.mp rest
      obtain ⟨rfl, ⟨⟩⟩ := exec_done.mp rest
      exact ⟨false, rfl, unchanged⟩
    · obtain ⟨_, last, rfl, rest⟩ := exec_ask.mp rest
      obtain ⟨rfl, ⟨⟩⟩ := exec_done.mp rest
      refine ⟨true, ?_, ?_⟩
      · rw [Vault.command, if_pos ⟨rfl, enough⟩]
        rfl
      · rw [Vault.command, if_pos ⟨rfl, enough⟩]
        exact stored
  | set key value =>
    obtain ⟨result, ⟨middle, silent⟩, ⟨ran, rfl⟩, rest⟩ := exec_ask.mp execution
    obtain ⟨next, ranVault, stored⟩ := represents.call lawful member (.set key value) small
    rw [Call.program, run_bind, ran] at ranVault
    obtain ⟨returned, rfl⟩ := Prod.mk.inj (Option.some.inj ranVault)
    obtain ⟨rfl, ⟨⟩⟩ : exit = (if result = 0 then 0 else 1) ∧ (after, printed) = (middle, []) := by
      change Exec _ (if result ≠ 0 then _ else _) _ _ _ at rest
      split at rest
      case isTrue failed =>
        rw [if_neg failed]
        exact exec_failWith rest
      case isFalse succeeded =>
        rw [if_pos (not_not.mp succeeded)]
        exact exec_done.mp rest
    refine ⟨true, ?_, stored⟩
    rw [Vault.command, ← returned]
    simp only [Output.set.injEq]
  | get key =>
    obtain ⟨found, ⟨middle, silent⟩, ⟨ran, rfl⟩, rest⟩ := exec_ask.mp execution
    obtain ⟨next, ranVault, stored⟩ := represents.call lawful member (.get key) trivial
    rw [Call.program, run_bind, ran] at ranVault
    obtain ⟨returned, rfl⟩ := Prod.mk.inj (Option.some.inj ranVault)
    rw [Vault.call_get] at stored
    refine ⟨true, ?_⟩
    rw [Vault.command, ← returned]
    cases found with
    | none =>
      obtain ⟨rfl, ⟨⟩⟩ := exec_failWith rest
      exact ⟨rfl, stored⟩
    | some found =>
      obtain ⟨_, middle, rfl, rest⟩ := exec_ask.mp rest
      obtain ⟨_, middle, rfl, rest⟩ := exec_ask.mp rest
      obtain ⟨rfl, ⟨⟩⟩ := exec_done.mp rest
      exact ⟨rfl, stored⟩

theorem safe_resolvePath (argv : List CString) (index : Nat) : (resolvePath argv index).Safe := by
  unfold resolvePath
  split
  · trivial
  · refine fun home storeRoot => ?_
    cases storeRoot with
    | none => trivial
    | some root =>
      show Safe (if root.bytes = [] then _ else _)
      split <;> trivial

theorem safe_pamService (user : CString) : (pamServiceIsPasswordlessForUser user).Safe := by
  unfold pamServiceIsPasswordlessForUser
  split
  · trivial
  · intro service
    cases service with
    | none => trivial
    | some file =>
      show Safe (if (expectedRule user).length ≥ expectedSize then _ else _)
      split <;> trivial

theorem safe_deriveHeaderPassword (strerror : Nat → List UInt8) (username : CString) :
    (deriveHeaderPassword strerror username).Safe := by
  unfold deriveHeaderPassword
  refine (safe_pamService _).bind fun passwordless => ?_
  cases passwordless with
  | true => exact fun _ => trivial
  | false =>
    intro typed
    cases typed with
    | none => trivial
    | some password =>
      intro failure
      cases failure with
      | none => exact fun _ => trivial
      | some failure => trivial

theorem safe_prepare (strerror : Nat → List UInt8) (username : CString) (argv : List CString)
    (index : Nat) :
    (prepare strerror username argv index).Safe := by
  unfold prepare
  refine (safe_resolvePath argv index).bind fun path => ?_
  cases path with
  | none => exact fun _ => trivial
  | some path =>
    have relayed : ((deriveHeaderPassword strerror username).relay fun call =>
        request (ToolRequest.cli call) : Tool _).Safe := by
      refine Safe.relay ?_ (safe_deriveHeaderPassword strerror username)
      exact fun _ _ => trivial
    refine relayed.bind fun derived => ?_
    cases derived with
    | error failure => exact fun _ => trivial
    | ok headerPassword => trivial

/-- The one exit code of a failure before the store. -/
theorem returns_prepare (username : CString) (argv : List CString) (index : Nat) :
    (prepare strerror username argv index).Returns fun result =>
      ∀ code, result = .error code → code = 1 := by
  unfold prepare
  refine (returns_trivial _).bind fun path _ => ?_
  cases path with
  | none => exact fun _ code same => (Except.error.inj same).symm
  | some path =>
    refine (returns_trivial _).bind fun derived _ => ?_
    cases derived with
    | error failure => exact fun _ code same => (Except.error.inj same).symm
    | ok headerPassword => exact fun code same => nomatch same

/-- What is asked of an invocation: it comes to the store, if it does, with a path among the places
and under the password, and the record it may want to add is small. -/
structure Invocation.Fits (strerror : Nat → List UInt8) (password : CString) (places : Set CString)
    (invocation : Invocation) : Prop where
  small : ∀ command index, commandOf invocation.argv = some (command, index) → command.Small
  prepared : ∀ username command index path headerPassword,
    invocation.circumstances.user = some username →
    commandOf invocation.argv = some (command, index) →
    invocation.circumstances.prepared strerror username invocation.argv index =
      some (path, headerPassword) →
    path ∈ places ∧ headerPassword = password

/-- An invocation does on the disk what it does on the vault. -/
theorem Represents.invoke (lawful : ssl.Lawful)
    (represents : Represents ssl password places disk vault) {invocation : Invocation}
    (fits : invocation.Fits strerror password places)
    (execution : Exec (around ssl invocation.circumstances) (padlockMain strerror invocation.argv)
      (disk, []) exit (after, printed)) :
    ∃ granted, (vault.invoke strerror (invocation, granted)).1 = (exit, printed) ∧
      Represents ssl password places after (vault.invoke strerror (invocation, granted)).2 := by
  rw [padlockMain_eq] at execution
  obtain ⟨name, middle, ⟨rfl, rfl⟩, rest⟩ := exec_request_bind.mp execution
  cases known : invocation.circumstances.user with
  | none =>
    rw [known] at rest
    simp only [Vault.invoke, known]
    obtain ⟨_, last, rfl, rest⟩ := exec_ask.mp rest
    obtain ⟨rfl, ⟨⟩⟩ := exec_done.mp rest
    exact ⟨true, rfl, represents⟩
  | some username =>
    rw [known] at rest
    dsimp only at rest
    cases parsed : commandOf invocation.argv with
    | none =>
      rw [parsed] at rest
      simp only [Vault.invoke, known, parsed]
      obtain ⟨rfl, ⟨⟩⟩ := exec_refuseUsage rest
      exact ⟨true, rfl, represents⟩
    | some both =>
      obtain ⟨command, index⟩ := both
      rw [parsed] at rest
      obtain ⟨result, last, preparing, rest⟩ := exec_bind.mp rest
      obtain ⟨ran, rfl⟩ := (exec_onMain (asks_prepare strerror username _ index)).mp preparing
      have prepared : invocation.circumstances.prepared strerror username invocation.argv index =
          result.toOption := by
        rw [Circumstances.prepared, ran]
        rfl
      simp only [Vault.invoke, known, parsed, prepared]
      cases result with
      | error code =>
        obtain rfl := (returns_prepare username invocation.argv index).run ran code rfl
        obtain ⟨rfl, ⟨⟩⟩ := exec_done.mp rest
        exact ⟨true, rfl, represents⟩
      | ok found =>
        obtain ⟨path, headerPassword⟩ := found
        obtain ⟨member, rfl⟩ :=
          fits.prepared username command index path headerPassword known parsed
          prepared
        exact represents.command lawful member command (fits.small command index parsed) rest

/-- An allocation may always fail, with everything as it was. -/
theorem exec_allocate_fails (ssl : OpenSsl) (path password : CString) (size : UInt64)
    (disk : Disk) :
    Exec answersRemoving (padlockAllocate ssl (some path) size (some password)) disk (-1) disk := by
  unfold padlockAllocate
  dsimp only
  split
  · exact .done _ _
  unfold ensureParentDirectory
  split
  · exact .done _ _
  cases parentOf path.bytes with
  | none =>
    refine exec_bind.mpr ⟨(0 : Int), disk, .done _ _, ?_⟩
    rw [if_neg (by decide)]
    split
    · exact .done _ _
    · exact exec_request_bind.mpr ⟨none, disk, rfl, .done _ _⟩
  | some parent =>
    refine exec_bind.mpr ⟨(-1 : Int), disk, ?_, .done _ _⟩
    exact exec_request_bind.mpr ⟨.failed, disk, rfl, .done _ _⟩

/-- A command that fits comes to an end. -/
theorem Represents.performs (lawful : ssl.Lawful) (circumstances : Circumstances)
    (represents : Represents ssl password places disk vault) (member : path ∈ places)
    (command : Command) (small : command.Small) :
    ∃ ending : Ending, ∃ after, Exec (around ssl circumstances) (command.perform path password)
      (disk, []) ending.1 (after, ending.2) := by
  cases command with
  | allocate size =>
    refine ⟨(1, []), disk, exec_ask.mpr ⟨(-1 : Int), (disk, []), ⟨?_, rfl⟩, ?_⟩⟩
    · exact exec_allocate_fails ssl path password size disk
    · exact exec_ask.mpr ⟨(), (disk, []), rfl, .done _ _⟩
  | set key value =>
    obtain ⟨next, ranVault, -⟩ := represents.call lawful member (.set key value) small
    rw [Call.program, run_bind, Option.bind_eq_some_iff] at ranVault
    obtain ⟨⟨result, middle⟩, ran, -⟩ := ranVault
    refine ⟨(if result ≠ 0 then 1 else 0, []), middle,
      exec_ask.mpr ⟨result, (middle, []), ⟨ran, rfl⟩, ?_⟩⟩
    show Exec _ (if result ≠ 0 then _ else _) _ _ _
    split
    · exact exec_ask.mpr ⟨(), (middle, []), rfl, .done _ _⟩
    · exact .done _ _
  | get key =>
    obtain ⟨next, ranVault, -⟩ := represents.call lawful member (.get key) trivial
    rw [Call.program, run_bind, Option.bind_eq_some_iff] at ranVault
    obtain ⟨⟨found, middle⟩, ran, -⟩ := ranVault
    cases found with
    | none =>
      refine ⟨(1, []), middle, exec_ask.mpr ⟨none, (middle, []), ⟨ran, rfl⟩, ?_⟩⟩
      exact exec_ask.mpr ⟨(), (middle, []), rfl, .done _ _⟩
    | some found =>
      refine ⟨(0, [] ++ (found.value ++ [newline])), middle,
        exec_ask.mpr ⟨some found, (middle, []), ⟨ran, rfl⟩, ?_⟩⟩
      refine exec_ask.mpr ⟨(), (middle, [] ++ (found.value ++ [newline])), rfl, ?_⟩
      exact exec_ask.mpr ⟨(), _, rfl, .done _ _⟩

/-- An invocation that fits comes to an end. -/
theorem Represents.ends (lawful : ssl.Lawful)
    (represents : Represents ssl password places disk vault) {invocation : Invocation}
    (fits : invocation.Fits strerror password places) :
    ∃ ending : Ending, ∃ after, Exec (around ssl invocation.circumstances)
      (padlockMain strerror invocation.argv) (disk, []) ending.1 (after, ending.2) := by
  simp only [padlockMain_eq, exec_request_bind]
  cases known : invocation.circumstances.user with
  | none =>
    refine ⟨(1, []), disk, none, (disk, []), ⟨known.symm, rfl⟩, ?_⟩
    exact exec_ask.mpr ⟨(), (disk, []), rfl, .done _ _⟩
  | some username =>
    cases parsed : commandOf invocation.argv with
    | none =>
      refine ⟨(2, []), disk, some username, (disk, []), ⟨known.symm, rfl⟩, ?_⟩
      exact exec_ask.mpr ⟨(), (disk, []), rfl, .done _ _⟩
    | some both =>
      obtain ⟨command, index⟩ := both
      obtain ⟨result, ⟨⟩, ran⟩ := (safe_prepare strerror username invocation.argv index).run
        invocation.circumstances.answers ()
      have preparing : Exec (around ssl invocation.circumstances)
          (onMain (prepare strerror username invocation.argv index)) (disk, []) result (disk, []) :=
        (exec_onMain (asks_prepare strerror username invocation.argv index)).mpr ⟨ran, rfl⟩
      have prepared : invocation.circumstances.prepared strerror username invocation.argv index =
          result.toOption := by
        rw [Circumstances.prepared, ran]
        rfl
      cases result with
      | error code =>
        refine ⟨(code, []), disk, some username, (disk, []), ⟨known.symm, rfl⟩, ?_⟩
        exact exec_bind.mpr ⟨.error code, (disk, []), preparing, .done _ _⟩
      | ok found =>
        obtain ⟨path, headerPassword⟩ := found
        obtain ⟨member, rfl⟩ :=
          fits.prepared username command index path headerPassword known parsed
          prepared
        obtain ⟨ending, after, performing⟩ := represents.performs lawful invocation.circumstances
          member command (fits.small command index parsed)
        refine ⟨ending, after, some username, (disk, []), ⟨known.symm, rfl⟩, ?_⟩
        exact exec_bind.mpr ⟨.ok (path, headerPassword), (disk, []), preparing, performing⟩

/-- The tool refines the vault. Let the invocations of a session come to the store under one header
password, with records of at most 2^24 bytes, and let no two of the paths in use lead to one file.
Then every session comes to its end; and whichever of the allocations the system grants, the exit
codes and what is printed are those of the vault, which the disk still holds afterwards. -/
theorem tool_refines_vault (lawful : ssl.Lawful)
    (represents : Represents ssl password places disk vault) (invocations : List Invocation)
    (fits : ∀ invocation ∈ invocations, invocation.Fits strerror password places) :
    (∃ endings final, Session ssl strerror invocations disk endings final) ∧
      ∀ endings final, Session ssl strerror invocations disk endings final →
        ∃ grants : List Bool, grants.length = invocations.length ∧
          (Machine.run (Vault.invoke strerror) vault (invocations.zip grants)).1 = endings ∧
          Represents ssl password places final
            (Machine.run (Vault.invoke strerror) vault (invocations.zip grants)).2 := by
  constructor
  · induction invocations generalizing disk vault with
    | nil => exact ⟨[], disk, .nil disk⟩
    | cons invocation rest inductionHypothesis =>
      obtain ⟨fitsFirst, fitsRest⟩ := List.forall_mem_cons.mp fits
      obtain ⟨ending, middle, first⟩ := represents.ends lawful fitsFirst
      obtain ⟨granted, -, still⟩ := represents.invoke lawful fitsFirst first
      obtain ⟨endings, final, others⟩ := inductionHypothesis still fitsRest
      exact ⟨ending :: endings, final, .cons first others⟩
  · intro endings final session
    induction session generalizing vault with
    | nil disk => exact ⟨[], rfl, rfl, represents⟩
    | cons first others inductionHypothesis =>
      obtain ⟨fitsFirst, fitsRest⟩ := List.forall_mem_cons.mp fits
      obtain ⟨granted, same, still⟩ := represents.invoke lawful fitsFirst first
      obtain ⟨grants, length, sameRest, stillRest⟩ := inductionHypothesis still fitsRest
      refine ⟨granted :: grants, ?_, ?_, ?_⟩
      · rw [List.length_cons, List.length_cons, length]
      · rw [List.zip_cons_cons, Machine.run, same, sameRest]
      · rw [List.zip_cons_cons, Machine.run]
        exact stillRest

end Refinement

/-! A user who types a password that is accepted, and for whom the same header password is derived
each time, makes a store, sets a key and looks it up. -/

def sampleCircumstances : Circumstances where
  user := some sampleUser
  environment := fun _ => none
  reply
    | .openService => none
    | .promptPassword _ => some samplePassword
    | .authenticateWithPam _ _ => none
    | .deriveUserHeaderPassword _ => .ok samplePassword
    | .deriveHeaderPassword _ => .ok samplePassword

def sampleArgument (text : List UInt8) (nulFree : 0 ∉ text) : CString := ⟨text, nulFree⟩

def sampleInvocations : List Invocation :=
  [ { argv := [sampleUser, sampleArgument (ascii "allocate") (by decide),
        sampleArgument (ascii "8K") (by decide), samplePath]
      circumstances := sampleCircumstances },
    { argv := [sampleUser, sampleArgument (ascii "set") (by decide), sampleKey true,
        sampleArgument [1, 2, 3] (by decide), samplePath]
      circumstances := sampleCircumstances },
    { argv := [sampleUser, sampleArgument (ascii "get") (by decide), sampleKey true, samplePath]
      circumstances := sampleCircumstances } ]

theorem prepared_sample {argv : List CString} {index : Nat}
    (given : argv[index]? = some samplePath) :
    sampleCircumstances.prepared (fun _ => []) sampleUser argv index =
      some (samplePath, samplePassword) := by
  unfold Circumstances.prepared prepare resolvePath
  rw [given]
  rfl

theorem fits_of_sample {argv : List CString} {command : Command} {index : Nat}
    (parsed : commandOf argv = some (command, index)) (small : command.Small)
    (given : argv[index]? = some samplePath) :
    Invocation.Fits (fun _ => []) samplePassword Set.univ
      { argv, circumstances := sampleCircumstances } := by
  constructor
  · intro other place same
    obtain ⟨rfl, rfl⟩ := Prod.mk.inj (Option.some.inj (parsed.symm.trans same))
    exact small
  · intro username other place path headerPassword known same prepared
    obtain ⟨rfl, rfl⟩ := Prod.mk.inj (Option.some.inj (parsed.symm.trans same))
    obtain rfl : username = sampleUser := (Option.some.inj known).symm
    rw [prepared_sample given] at prepared
    obtain ⟨rfl, rfl⟩ := Prod.mk.inj (Option.some.inj prepared)
    exact ⟨Set.mem_univ _, rfl⟩

theorem fits_sample : ∀ invocation ∈ sampleInvocations,
    invocation.Fits (fun _ => []) samplePassword Set.univ := by
  rw [sampleInvocations, List.forall_mem_cons, List.forall_mem_cons, List.forall_mem_singleton]
  refine ⟨?_, ?_, ?_⟩
  · exact fits_of_sample rfl trivial rfl
  · exact fits_of_sample rfl (by decide) rfl
  · exact fits_of_sample rfl trivial rfl

theorem tool_refines_vault_sample :
    Represents standIn samplePassword Set.univ emptyDisk (fun _ => none) ∧
      ∃ endings final, Session standIn (fun _ => []) sampleInvocations emptyDisk endings final ∧
        ∃ grants : List Bool, grants.length = 3 ∧
          (Machine.run (Vault.invoke fun _ => []) (fun _ => none)
            (sampleInvocations.zip grants)).1 = endings := by
  have represents : Represents standIn samplePassword Set.univ emptyDisk fun _ => none :=
    ⟨fun _ _ _ => rfl, fun _ _ _ _ present => nomatch present⟩
  obtain ⟨⟨endings, final, session⟩, refines⟩ :=
    tool_refines_vault standIn_lawful represents sampleInvocations fits_sample
  obtain ⟨grants, length, same, -⟩ := refines endings final session
  exact ⟨represents, endings, final, session, grants, length, same⟩

end Padlock
