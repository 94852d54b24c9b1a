/-
This file models `main`: the `set` and `get` commands beside `allocate`, the
order of their checks, what they print and their exit codes. It asks who may
reach the store.

A watcher keeps note of what the tool has asked for and learned about its user:
whether the service file lets the user in by name, which password was typed,
which one the authentication has accepted, and which header password was derived.
It objects
to a derivation that is not covered by one of the two, and to a call of the
store with any other header password than the one derived. No run of the tool
gives it cause to.
-/

import Padlock.Library.Watcher
import Padlock.Cli.Size
import Padlock.Store.Get

namespace Padlock

open Interaction Program

/-! ### The program -/

/-- What `main` asks beside what its `allocate` branch asks. -/
inductive MainRequest where
  /-- `getpwuid(getuid())` and its `pw_name` -/
  | getpwuid
  | tool (asked : ToolRequest)
  | padlockSet (path headerPassword key : CString) (value : Value)
  | padlockGet (path headerPassword key : CString)
  /-- `fwrite` to the standard output, with the newline behind it -/
  | writeValue (bytes : List UInt8)
  | padlockFree

abbrev MainResponse : MainRequest → Type
  | .getpwuid => Option CString
  | .tool asked => ToolResponse asked
  | .padlockSet _ _ _ _ => Int
  | .padlockGet _ _ _ => Option Found
  | .writeValue _ => Unit
  | .padlockFree => Unit

abbrev Main (Result : Type) := Program MainRequest MainResponse Result

/-- A part of the tool, as a part of `main`. -/
def onMain {Result : Type} (program : Tool Result) : Main Result :=
  program.relay fun asked => request (MainRequest.tool asked)

/-- The value of an argument, with its length as a `uint32_t`. -/
def argumentValue (argument : CString) : Value where
  bytes := argument.bytes.take (UInt32.ofNat argument.bytes.length).toNat
  lengthLt := by
    have bound := (UInt32.ofNat argument.bytes.length).toNat_lt
    rw [List.length_take]
    omega

/-- `usage(stderr); return 2;` -/
def refuseUsage : Main Int := do
  onMain (request ToolRequest.usage)
  return 2

/-- `report_failure(action); return 1;` -/
def failWith (action : List UInt8) : Main Int := do
  onMain (request (ToolRequest.reportFailure action []))
  return 1

section Commands

variable (strerror : Nat → List UInt8) (username : CString) (argv : List CString)

/-- What the commands do before they call the store: find the path and the header password. An error
is reported, and is the exit code. -/
def prepare (index : Nat) : Tool (Except Int (CString × CString)) := do
  match ← resolvePath argv index with
  | none =>
    request (ToolRequest.complain (ascii "padlock: could not resolve store path"))
    return .error 1
  | some path =>
    match ← (deriveHeaderPassword strerror username).relay fun call =>
        request (ToolRequest.cli call) with
    | .error failure =>
      request (ToolRequest.reportFailure (ascii "authentication") failure.reason)
      return .error 1
    | .ok headerPassword => return .ok (path, headerPassword)

/-- The `set` branch of `main`. -/
def setCommand : Main Int :=
  match argv[2]?, argv[3]? with
  | some key, some value => do
    if argv.length > 5 then
      refuseUsage
    else
      match ← onMain (prepare strerror username argv 4) with
      | .error code => return code
      | .ok (path, headerPassword) =>
        let result : Int ←
          request (MainRequest.padlockSet path headerPassword key (argumentValue value))
        if result ≠ 0 then failWith (ascii "set") else return 0
  | _, _ => refuseUsage

/-- The bytes of a value that has been looked up. -/
def Found.value (found : Found) : List UInt8 := found.contents.take found.length.toNat

/-- The `get` branch of `main`. -/
def getCommand : Main Int :=
  match argv[2]? with
  | some key => do
    if argv.length > 4 then
      refuseUsage
    else
      match ← onMain (prepare strerror username argv 3) with
      | .error code => return code
      | .ok (path, headerPassword) =>
        match ← request (MainRequest.padlockGet path headerPassword key) with
        | none => failWith (ascii "lookup")
        | some found =>
          request (MainRequest.writeValue (found.value ++ [newline]))
          request MainRequest.padlockFree
          return 0
  | none => refuseUsage

end Commands

/-- `main`. The program name is the first of the arguments. -/
def padlockMain (strerror : Nat → List UInt8) (argv : List CString) : Main Int := do
  match ← request MainRequest.getpwuid with
  | none =>
    onMain (request (ToolRequest.complain (ascii "padlock: could not resolve current user")))
    return 1
  | some username =>
    match argv[1]? with
    | none => refuseUsage
    | some command =>
      if command.bytes = ascii "allocate" then onMain (allocateCommand strerror username argv)
      else if command.bytes = ascii "set" then setCommand strerror username argv
      else if command.bytes = ascii "get" then getCommand strerror username argv
      else refuseUsage

/-! ### Who reaches the store -/

/-- What the tool has learned: the name it works under, whether it has asked for anything since,
whether the service file lets that name in, the password typed, the one the authentication has
accepted, the header password derived, how the call of the store has ended, and the value it has in
hand. -/
structure Admission where
  user : Option CString := none
  /-- The environment, the service file, the terminal, the authentication, the derivation or the
  store was asked, whatever the answer. -/
  asked : Bool := false
  passwordless : Bool := false
  typed : Option CString := none
  accepted : Option CString := none
  headerPassword : Option CString := none
  ended : Option Bool := none
  value : Option Found := none
  deriving DecidableEq

/-- The name a user works under. -/
def effectiveUser (username : CString) : CString :=
  if username.bytes = [] then defaultUser else username

/-- Whether a service file lets a user in by name. -/
def letsIn (service : Option (List UInt8)) (user : CString) : Bool :=
  match service with
  | none => false
  | some file =>
    decide ((expectedRule user).length < expectedSize) && linesPass (expectedRule user) file

/-- One call of the store, with the header password that was derived. -/
def Admission.store (note : Admission) (password : CString) (success : Bool)
    (value : Option Found) : Option Admission :=
  if note.headerPassword = some password ∧ note.ended = none then
    some { note with asked := true, ended := some success, value }
  else none

/-- The rules of admission. -/
def admission : Watcher MainRequest MainResponse Admission
  | .getpwuid, name, note => some { note with user := name.map effectiveUser }
  | .tool (.getenv _), _, note => some { note with asked := true }
  | .tool (.cli .openService), service, note =>
    note.user.map fun user => { note with asked := true, passwordless := letsIn service user }
  | .tool (.cli (.promptPassword _)), typed, note => some { note with asked := true, typed }
  | .tool (.cli (.authenticateWithPam user password)), failure, note =>
    if note.user = some user ∧ note.typed = some password then
      some { note with
        asked := true
        accepted := if failure.isNone then some password else none }
    else none
  | .tool (.cli (.deriveUserHeaderPassword user)), derived, note =>
    if note.user = some user ∧ note.passwordless then
      some { note with asked := true, headerPassword := derived.toOption }
    else none
  | .tool (.cli (.deriveHeaderPassword password)), derived, note =>
    if note.accepted = some password then
      some { note with asked := true, headerPassword := derived.toOption }
    else none
  | .tool (.padlockAllocate _ _ password), result, note => note.store password (result = 0) none
  | .padlockSet _ password _ _, result, note => note.store password (result = 0) none
  | .padlockGet _ password _, found, note => note.store password found.isSome found
  | .tool .usage, _, note => some note
  | .tool (.complain _), _, note => some note
  | .tool (.reportFailure _ _), _, note => some note
  | .tool (.print _), _, note => if note.ended = some true then some note else none
  | .writeValue bytes, _, note =>
    if note.value.map (fun found => found.value ++ [newline]) = some bytes then some note else none
  | .padlockFree, _, note => if note.value.isSome then some { note with value := none } else none

section Admitted

variable {Result : Type} {note : Admission} {suits : Result → Admission → Prop}

theorem obeys_onMain {program : Tool Result}
    (obeys : program.Obeys (fun asked => admission (.tool asked)) note suits) :
    (onMain program).Obeys admission note suits := by
  refine Obeys.relay ?_ obeys
  intro asked note allowed response
  obtain ⟨later, noted⟩ := allowed response
  exact ⟨later, noted, noted⟩

theorem obeys_onTool {program : Cli Result}
    (obeys : program.Obeys (fun call => admission (.tool (.cli call))) note suits) :
    (program.relay fun call => request (ToolRequest.cli call)).Obeys
      (fun asked => admission (.tool asked)) note suits := by
  refine Obeys.relay ?_ obeys
  intro asked note allowed response
  obtain ⟨later, noted⟩ := allowed response
  exact ⟨later, noted, noted⟩

/-- Nothing has been learned yet but the name of the user. -/
def Admission.named (user : CString) : Admission := { user := some user }

/-- The store has not been called yet. -/
structure Admission.Waiting (note : Admission) : Prop where
  ended : note.ended = none
  value : note.value = none

theorem effectiveUser_ne_nil (username : CString) : (effectiveUser username).bytes ≠ [] := by
  unfold effectiveUser
  split
  · decide
  · assumption

/-- The check of the service file, for a user with a name. -/
theorem pamService_eq {user : CString} (nonempty : user.bytes ≠ []) :
    pamServiceIsPasswordlessForUser user =
      .ask .openService fun service => .done (letsIn service user) := by
  unfold pamServiceIsPasswordlessForUser
  rw [if_neg nonempty]
  show Program.ask _ _ = Program.ask _ _
  congr 1
  funext service
  cases service with
  | none => rfl
  | some file =>
    show (if (expectedRule user).length ≥ expectedSize then _ else _) = _
    split
    case isTrue long =>
      rw [letsIn, decide_eq_false (Nat.not_lt.mpr long), Bool.false_and]
      rfl
    case isFalse short =>
      rw [letsIn, decide_eq_true (Nat.not_le.mp short), Bool.true_and]
      rfl

/-- The check of the service file learns whether the user is let in. -/
theorem obeys_pamService {user : CString} (nonempty : user.bytes ≠ []) (asked : Bool) :
    (pamServiceIsPasswordlessForUser user).Obeys (fun call => admission (.tool (.cli call)))
      { Admission.named user with asked } fun answer last =>
        last = { Admission.named user with asked := true, passwordless := answer } := by
  rw [pamService_eq nonempty]
  exact fun service => ⟨_, rfl, rfl⟩

theorem toOption_of_mapError {derived : Except Nat CString} {report : Nat → Failure}
    (password : CString) (returned : derived.mapError report = .ok password) :
    derived.toOption = some password := by
  cases derived with
  | error errno => cases returned
  | ok given =>
    cases returned
    rfl

/-- The header password that is returned is the one derived, and it is derived only for a user who
is let in by name or whose password was accepted. -/
theorem obeys_deriveHeaderPassword (strerror : Nat → List UInt8) (username : CString)
    (asked : Bool) :
    (deriveHeaderPassword strerror username).Obeys (fun call => admission (.tool (.cli call)))
      { Admission.named (effectiveUser username) with asked } fun result last =>
        last.Waiting ∧ ∀ password, result = .ok password → last.headerPassword = some password := by
  have nonempty := effectiveUser_ne_nil username
  unfold deriveHeaderPassword
  dsimp only
  rw [← effectiveUser]
  generalize effectiveUser username = user at nonempty
  refine (obeys_pamService nonempty asked).bind ?_
  rintro answer last rfl
  cases answer with
  | true =>
    intro derived
    refine ⟨{ Admission.named user with
      asked := true
      passwordless := true
      headerPassword := derived.toOption }, if_pos ⟨rfl, rfl⟩, ⟨rfl, rfl⟩, toOption_of_mapError⟩
  | false =>
    intro typed
    refine ⟨{ Admission.named user with asked := true, typed }, rfl, ?_⟩
    cases typed with
    | none => exact ⟨⟨rfl, rfl⟩, nofun⟩
    | some password =>
      intro failure
      refine ⟨{ Admission.named user with
        asked := true
        typed := some password
        accepted := if failure.isNone then some password else none }, if_pos ⟨rfl, rfl⟩, ?_⟩
      cases failure with
      | some failure => exact ⟨⟨rfl, rfl⟩, nofun⟩
      | none =>
        intro derived
        refine ⟨{ Admission.named user with
          asked := true
          typed := some password
          accepted := some password
          headerPassword := derived.toOption }, if_pos rfl, ⟨rfl, rfl⟩, toOption_of_mapError⟩

/-- Finding the path learns nothing about the user. -/
theorem obeys_resolvePath (argv : List CString) (index : Nat) :
    (resolvePath argv index).Obeys (fun asked => admission (.tool asked)) note
      fun _ last => ∃ asked, last = { note with asked } := by
  unfold resolvePath
  split
  · exact ⟨note.asked, rfl⟩
  · unfold padlockDefaultStorePath
    intro home
    refine ⟨{ note with asked := true }, rfl,
      fun storeRoot => ⟨{ note with asked := true }, rfl, ?_⟩⟩
    cases storeRoot with
    | none => exact ⟨true, rfl⟩
    | some root =>
      show Obeys _ (if root.bytes = [] then _ else _) _ _
      split
      · exact ⟨true, rfl⟩
      · exact ⟨true, rfl⟩

/-- The end of the tool: an exit code of 0 stands for a call of the store that has succeeded, one of
2 for arguments that were refused before anything was asked, and no value is left in hand. -/
structure Admission.Exits (exit : Int) (note : Admission) : Prop where
  code : exit = 0 ∨ exit = 1 ∨ exit = 2
  success : exit = 0 ↔ note.ended = some true
  usage : exit = 2 → note = { user := note.user }
  value : note.value = none

/-- The tool may fail before the store is called. -/
theorem Admission.Waiting.fails (waiting : note.Waiting) : note.Exits 1 := by
  refine ⟨.inr (.inl rfl), ⟨nofun, fun ended => ?_⟩, nofun, waiting.value⟩
  rw [waiting.ended] at ended
  cases ended

theorem Admission.exits_one (ended : note.ended = some false) (value : note.value = none) :
    note.Exits 1 := by
  refine ⟨.inr (.inl rfl), ⟨nofun, fun success => ?_⟩, nofun, value⟩
  rw [ended] at success
  cases success

theorem Admission.exits_zero (ended : note.ended = some true) (value : note.value = none) :
    note.Exits 0 :=
  ⟨.inl rfl, ⟨fun _ => ended, fun _ => rfl⟩, nofun, value⟩

theorem obeys_refuseUsage (user : CString) :
    refuseUsage.Obeys admission (Admission.named user) fun exit last => last.Exits exit := by
  intro _
  refine ⟨Admission.named user, rfl, .inr (.inr rfl), ⟨nofun, nofun⟩, fun _ => rfl, rfl⟩

/-- One call of the store, and what it ends with. -/
theorem Admission.Waiting.store (waiting : note.Waiting) {password : CString}
    (derived : note.headerPassword = some password) (success : Bool) (value : Option Found) :
    note.store password success value =
      some { note with asked := true, ended := some success, value } :=
  if_pos ⟨derived, waiting.ended⟩

variable (strerror : Nat → List UInt8) (username : CString) (argv : List CString)

theorem obeys_prepare (index : Nat) :
    (prepare strerror username argv index).Obeys (fun asked => admission (.tool asked))
      (Admission.named (effectiveUser username)) fun result last => last.Waiting ∧
        match result with
        | .error code => code = 1
        | .ok (_, password) => last.headerPassword = some password := by
  unfold prepare
  refine (obeys_resolvePath argv index).bind ?_
  rintro path last ⟨asked, rfl⟩
  cases path with
  | none =>
    intro _
    exact ⟨_, rfl, ⟨rfl, rfl⟩, rfl⟩
  | some path =>
    refine (obeys_onTool (obeys_deriveHeaderPassword strerror username asked)).bind ?_
    rintro result last ⟨waiting, derived⟩
    cases result with
    | error failure =>
      intro _
      exact ⟨last, rfl, waiting, rfl⟩
    | ok password => exact ⟨waiting, derived password rfl⟩

theorem obeys_setCommand :
    (setCommand strerror username argv).Obeys admission
      (Admission.named (effectiveUser username)) fun exit last => last.Exits exit := by
  unfold setCommand
  split
  · split
    · exact obeys_refuseUsage _
    · refine (obeys_onMain (obeys_prepare strerror username argv 4)).bind ?_
      rintro (code | ⟨path, password⟩) last ⟨waiting, ends⟩
      · obtain rfl : code = 1 := ends
        exact waiting.fails
      · intro result
        refine ⟨_, waiting.store ends _ _, ?_⟩
        show Obeys _ (if result ≠ 0 then _ else _) _ _
        split
        case isTrue failed =>
          exact fun _ => ⟨_, rfl, Admission.exits_one (by rw [decide_eq_false failed]) rfl⟩
        case isFalse succeeded =>
          exact Admission.exits_zero (by rw [decide_eq_true (not_not.mp succeeded)]) rfl
  · exact obeys_refuseUsage _

theorem obeys_getCommand :
    (getCommand strerror username argv).Obeys admission
      (Admission.named (effectiveUser username)) fun exit last => last.Exits exit := by
  unfold getCommand
  split
  · split
    · exact obeys_refuseUsage _
    · refine (obeys_onMain (obeys_prepare strerror username argv 3)).bind ?_
      rintro (code | ⟨path, password⟩) last ⟨waiting, ends⟩
      · obtain rfl : code = 1 := ends
        exact waiting.fails
      · intro found
        refine ⟨_, waiting.store ends _ _, ?_⟩
        cases found with
        | none => exact fun _ => ⟨_, rfl, Admission.exits_one rfl rfl⟩
        | some found =>
          refine fun _ => ⟨_, if_pos rfl, fun _ => ⟨_, rfl, ?_⟩⟩
          exact Admission.exits_zero rfl rfl
  · exact obeys_refuseUsage _

theorem obeys_allocateCommand :
    (onMain (allocateCommand strerror username argv)).Obeys admission
      (Admission.named (effectiveUser username)) fun exit last => last.Exits exit := by
  refine obeys_onMain ?_
  unfold allocateCommand
  dsimp only
  split
  · intro _
    exact ⟨_, rfl, .inr (.inr rfl), ⟨nofun, nofun⟩, fun _ => rfl, rfl⟩
  refine (obeys_resolvePath argv 3).bind ?_
  rintro path last ⟨asked, rfl⟩
  cases path with
  | none => exact fun _ => ⟨_, rfl, Admission.Waiting.fails ⟨rfl, rfl⟩⟩
  | some path =>
    refine (obeys_onTool (obeys_deriveHeaderPassword strerror username asked)).bind ?_
    rintro result last ⟨waiting, derived⟩
    cases result with
    | error failure => exact fun _ => ⟨last, rfl, waiting.fails⟩
    | ok password =>
      intro allocated
      refine ⟨_, waiting.store (derived password rfl) _ _, ?_⟩
      show Obeys _ (if allocated ≠ 0 then _ else _) _ _
      split
      case isTrue failed =>
        exact fun _ => ⟨_, rfl, Admission.exits_one (by rw [decide_eq_false failed]) rfl⟩
      case isFalse succeeded =>
        have ended : some (decide (allocated = 0)) = some true := by
          rw [decide_eq_true (not_not.mp succeeded)]
        exact fun _ => ⟨_, if_pos ended, Admission.exits_zero ended rfl⟩

/-- Whoever runs the tool, and with whatever arguments: the store is called at most once, with the
header password that was derived in this run and no other; and that is derived from the user's name
only if the service file lets this name in, or else from the password that was typed, after the
authentication has accepted it for this name. The tool prints a value only if it is the one looked
up, gives back the value's block, exits with 0 exactly if the store was called with success, and
exits with 2 only if nothing but its user's name was asked for. -/
theorem tool_admits :
    (padlockMain strerror argv).Obeys admission {} fun exit last => last.Exits exit := by
  unfold padlockMain
  intro name
  refine ⟨{ user := name.map effectiveUser }, rfl, ?_⟩
  cases name with
  | none => exact fun _ => ⟨{}, rfl, Admission.Waiting.fails ⟨rfl, rfl⟩⟩
  | some username =>
    show Obeys _ (match argv[1]? with | none => _ | some command => _) _ _
    split
    · exact obeys_refuseUsage _
    · split
      · exact obeys_allocateCommand strerror username argv
      · split
        · exact obeys_setCommand strerror username argv
        · split
          · exact obeys_getCommand strerror username argv
          · exact obeys_refuseUsage _

end Admitted

end Padlock
