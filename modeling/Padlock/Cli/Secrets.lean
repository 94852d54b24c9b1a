/-
This file is about the passwords that stand in the buffers of the process, about
the terminal on which one of them is typed, and about the handle of PAM. A
watcher keeps note of all three. It objects to a line that is read with the echo
on where the echo could have been turned off, to terminal attributes other than
the old ones with the echo off and the old ones, to anything reported or printed
while a password is in its buffer, to a second handle in one process or one ended
with another result than that of the authentication, to a derivation from a
password that has not been accepted, and to one from a name that the service file
does not let in.

However the process ends, no password that was accepted or derived is left in
its buffer, the handle has been ended, and the terminal is as it was found unless
it refused to be set back.
-/

import Padlock.Library.Watcher
import Padlock.Cli.Process

namespace Padlock

open Interaction Program

/-! ### The note -/

/-- How the terminal stands: as it was found; with its attributes known; with the echo off and these
attributes to be set again; with the echo as it was because it could not be turned off; or with the
echo left off because the old attributes were refused. -/
inductive Screen where
  | found
  | known (terminal : Terminal)
  | muted (terminal : Terminal)
  | bare
  | stuck (terminal : Terminal)
  deriving DecidableEq

/-- The name the process works under, and whether the service file lets that name in. -/
structure Learned where
  user : Option CString := none
  passwordless : Bool := false

/-- What the process has in hand: what it has learned about its user; the password accepted by
`prompt_password`, as long as it is not cleared; whether PAM was ever started; its handle and the
result of its authentication; the password that was accepted last; and the header password, as long
as it is not cleared. -/
structure Secrets where
  learned : Learned := {}
  screen : Screen := .found
  typed : Option CString := none
  started : Bool := false
  handle : Option (Option Int) := none
  accepted : Option CString := none
  headerPassword : Option CString := none

/-- The terminal is not between two settings. -/
def Screen.settled : Screen → Bool
  | .known _ | .muted _ => false
  | _ => true

namespace Secrets

/-- No password is in its buffer, nothing is open, and the terminal is settled. -/
structure Cleared (note : Secrets) : Prop where
  settled : note.screen.settled = true
  typed : note.typed = none
  handle : note.handle = none
  headerPassword : note.headerPassword = none

instance (note : Secrets) : Decidable note.Cleared :=
  decidable_of_iff (note.screen.settled = true ∧ note.typed = none ∧ note.handle = none ∧
    note.headerPassword = none)
    ⟨fun ⟨settled, typed, handle, headerPassword⟩ => ⟨settled, typed, handle, headerPassword⟩,
      fun cleared => ⟨cleared.settled, cleared.typed, cleared.handle, cleared.headerPassword⟩⟩

/-- The note with the header password in its buffer, if there is one, and nothing else in hand. -/
structure Holds (note : Secrets) (password : Option CString) : Prop where
  settled : note.screen.settled = true
  typed : note.typed = none
  handle : note.handle = none
  headerPassword : note.headerPassword = password

/-- The call of the store is given the header password that was derived. -/
theorem Holds.trusts {note : Secrets} {password : CString}
    (holds : note.Holds (some password)) :
    note.typed = none ∧ note.headerPassword = some password :=
  ⟨holds.typed, holds.headerPassword⟩

theorem Holds.cleared {note : Secrets} {password : Option CString}
    (holds : note.Holds password) : Cleared { note with headerPassword := none } :=
  ⟨holds.settled, holds.typed, holds.handle, rfl⟩

end Secrets

namespace Process

/-- The password on a line, if there is one. -/
def passwordOf (line : List UInt8) : Option CString :=
  if lineText line = [] then none else some ⟨lineText line, nul_not_mem_lineText line⟩

/-- The rules. -/
def discretion : Watcher ProcessRequest ProcessResponse Secrets
  | .main .getpwuid, name, note => some { note with learned := { user := name.map effectiveUser } }
  | .main (.tool (.getenv _)), _, note => some note
  | .main (.tool (.cli .openService)), service, note =>
    note.learned.user.map fun user =>
      { note with learned := { user := some user, passwordless := letsIn service user } }
  | .main (.tool (.cli (.promptPassword _))), _, _ => none
  | .main (.tool (.cli (.authenticateWithPam _ _))), _, _ => none
  | .main (.tool (.cli (.deriveUserHeaderPassword user))), derived, note =>
    if note.Cleared ∧ note.learned.user = some user ∧ note.learned.passwordless then
      some { note with headerPassword := derived.toOption }
    else none
  | .main (.tool (.cli (.deriveHeaderPassword password))), derived, note =>
    if note.handle = none ∧ note.typed = some password ∧ note.accepted = some password then
      some { note with headerPassword := derived.toOption }
    else none
  | .main (.tool (.padlockAllocate _ _ password)), _, note
  | .main (.padlockSet _ password _ _), _, note
  | .main (.padlockGet _ password _), _, note =>
    if note.typed = none ∧ note.headerPassword = some password then some note else none
  | .main (.tool .usage), _, note
  | .main (.tool (.complain _)), _, note
  | .main (.tool (.reportFailure _ _)), _, note
  | .main (.tool (.print _)), _, note
  | .main (.writeValue _), _, note
  | .main .padlockFree, _, note => if note.Cleared then some note else none
  | .showPrompt _, _, note => if note.Cleared then some note else none
  | .tcgetattr, terminal, note =>
    if note.screen = .found then some { note with screen := terminal.elim .bare .known } else none
  | .tcsetattr terminal, taken, note =>
    match note.screen with
    | .known old =>
      if terminal = { old with echo := false } then
        some { note with screen := if taken then .muted old else .bare }
      else none
    | .muted old =>
      if terminal = old then some { note with screen := if taken then .found else .stuck old }
      else none
    | _ => none
  | .fgets _, line, note =>
    match note.screen with
    | .muted _ | .bare => some { note with typed := line.bind passwordOf }
    | _ => none
  | .endLine, _, note => if note.screen.settled then some note else none
  | .errno, _, note => some note
  | .setErrno _, _, note => some note
  | .pamStart service user conversation, code, note =>
    if service = ascii "padlock" ∧ note.learned.user = some user ∧ note.screen.settled ∧
        note.started = false ∧ note.typed.isSome ∧ conversation = note.typed then
      some { note with
        started := true
        handle := if code = pamSuccess then some none else none }
    else none
  | .pamAuthenticate, code, note =>
    if note.handle = some none then some { note with handle := some (some code) } else none
  | .pamStrerror _, _, note => some note
  | .pamEnd code, _, note =>
    if note.handle = some (some code) then
      some { note with
        handle := none
        accepted := if code = pamSuccess then note.typed else none }
    else none
  | .secureZero .loginPassword, _, note => some { note with typed := none }
  | .secureZero .headerPassword, _, note => some { note with headerPassword := none }

theorem passwordOf_ne_nil {line : List UInt8} {password : CString}
    (read : passwordOf line = some password) : password.bytes ≠ [] := by
  unfold passwordOf at read
  split at read
  · cases read
  next text =>
    rw [← Option.some.inj read]
    exact text

section Discreet

variable {learned : Learned}

/-! ### The terminal -/

theorem obeys_muteTerminal :
    muteTerminal.Obeys discretion { learned } fun changed last =>
      last = { learned, screen := changed.elim .bare .muted } := by
  intro terminal
  refine ⟨{ learned, screen := terminal.elim .bare .known }, rfl, ?_⟩
  cases terminal with
  | none => rfl
  | some old =>
    intro changed
    refine ⟨{ learned, screen := if changed then .muted old else .bare }, if_pos rfl, ?_⟩
    cases changed <;> rfl

/-- After the line is read, the terminal is set back. -/
theorem obeys_restore (changed : Option Terminal) (typed : Option CString) :
    (restore changed).Obeys discretion { learned, screen := changed.elim .bare .muted, typed }
      fun _ last => ∃ screen, last = { learned, screen, typed } ∧ screen.settled = true := by
  cases changed with
  | none => exact ⟨.bare, rfl, rfl⟩
  | some old =>
    intro taken
    refine ⟨{ learned, screen := if taken then .found else .stuck old, typed }, if_pos rfl, ?_⟩
    cases taken
    · exact ⟨.stuck old, rfl, rfl⟩
    · exact ⟨.found, rfl, rfl⟩

theorem obeys_promptPassword (prompt : List UInt8) :
    (promptPassword prompt).Obeys discretion { learned } fun typed last =>
      (∀ password, typed = some password → password.bytes ≠ []) ∧
        ∃ screen, last = { learned, screen, typed } ∧ screen.settled = true := by
  intro response
  refine ⟨{ learned }, rfl, obeys_muteTerminal.bind ?_⟩
  rintro changed last rfl
  intro line
  refine ⟨{ learned, screen := changed.elim .bare .muted, typed := line.bind passwordOf }, ?_, ?_⟩
  · cases changed <;> rfl
  refine (obeys_restore changed (line.bind passwordOf)).bind ?_
  rintro response last ⟨screen, rfl, settled⟩
  intro response
  refine ⟨{ learned, screen, typed := line.bind passwordOf }, if_pos settled, ?_⟩
  cases line with
  | none =>
    refine ⟨fun password typed => ?_, screen, rfl, settled⟩
    cases typed
  | some line => exact ⟨fun password typed => passwordOf_ne_nil typed, screen, rfl, settled⟩

/-! ### PAM -/

theorem obeys_copyPamMessage (code : Int) (note : Secrets) :
    (copyPamMessage code).Obeys discretion note fun _ last => last = note := by
  intro message
  refine ⟨note, rfl, ?_⟩
  rcases message with _ | _ | _ <;> rfl

/-- The handle is ended with the result of the authentication, and it decides what is returned. -/
theorem obeys_endPam (result : Int) (reason : List UInt8) (screen : Screen) (password : CString) :
    (endPam result reason).Obeys discretion
      { learned, screen, typed := some password, started := true, handle := some (some result) }
      fun failure last =>
        last = { learned
                 screen
                 typed := some password
                 started := true
                 accepted := if failure.isNone then some password else none } := by
  intro response
  refine ⟨{ learned
            screen
            typed := some password
            started := true
            accepted := if result = pamSuccess then some password else none }, if_pos rfl, ?_⟩
  show Obeys _ (if result = pamSuccess then _ else _) _ _
  split
  · rfl
  · exact fun response => ⟨_, rfl, rfl⟩

theorem obeys_converse {username : CString} (named : learned.user = some username)
    (password : CString) {screen : Screen} (settled : screen.settled = true) :
    (converse username (some password)).Obeys discretion
      { learned, screen, typed := some password } fun failure last =>
        last = { learned
                 screen
                 typed := some password
                 started := true
                 accepted := if failure.isNone then some password else none } := by
  intro started
  refine ⟨{ learned
            screen
            typed := some password
            started := true
            handle := if started = pamSuccess then some none else none },
    if_pos ⟨rfl, named, settled, rfl, rfl, rfl⟩, ?_⟩
  show Obeys _ (if started ≠ pamSuccess then _ else _) _ _
  by_cases success : started = pamSuccess
  case neg =>
    rw [if_neg success, if_pos success]
    refine fun response => ⟨_, rfl, (obeys_copyPamMessage started _).bind ?_⟩
    rintro reason last rfl
    rfl
  case pos =>
  rw [if_pos success, if_neg (not_not.mpr success)]
  intro result
  refine ⟨{ learned
            screen
            typed := some password
            started := true
            handle := some (some result) }, rfl, ?_⟩
  show Obeys _ (if result ≠ pamSuccess then _ else _) _ _
  split
  · refine (obeys_copyPamMessage result _).bind ?_
    rintro reason last rfl
    exact obeys_endPam result reason screen password
  · exact obeys_endPam result [] screen password

theorem obeys_authenticateWithPam {username password : CString}
    (named : learned.user = some username) (shown : username.bytes ≠ [])
    (nonempty : password.bytes ≠ []) {screen : Screen} (settled : screen.settled = true) :
    (authenticateWithPam (some username) (some password) false).Obeys discretion
      { learned, screen, typed := some password } fun failure last =>
        last = { learned
                 screen
                 typed := some password
                 started := true
                 accepted := if failure.isNone then some password else none } := by
  have user : resolveUser (some username) = pure (some username) := if_neg shown
  unfold authenticateWithPam
  rw [user]
  show Obeys _ (if password.bytes = [] then _ else _) _ _
  rw [if_neg nonempty]
  exact obeys_converse named password settled

/-! ### Deriving -/

/-- A part of the tool that only asks what the watcher ignores. -/
theorem obeys_onTool {Result : Type} {program : Tool Result} {note : Secrets}
    (asks : program.Asks fun asked => ∀ response,
      discretion (.main (.tool asked)) response note = some note) :
    (onTool program).Obeys discretion note fun _ last => last = note := by
  have obeys : program.Obeys (fun asked => discretion (.main (.tool asked))) note
      fun _ last => last = note :=
    asks.obeys fun asked response ignored => ignored response
  refine Obeys.relay ?_ obeys
  intro asked note allowed response
  obtain ⟨later, noted⟩ := allowed response
  exact ⟨later, noted, noted⟩

/-- The check of the service file learns whether the user is let in. -/
theorem obeys_pamService {user : CString} (nonempty : user.bytes ≠ []) :
    (onTool ((pamServiceIsPasswordlessForUser user).relay fun call =>
      request (ToolRequest.cli call))).Obeys discretion { learned := { user := some user } }
      fun answer last => last = { learned := { user := some user, passwordless := answer } } := by
  rw [pamService_eq nonempty]
  exact fun service => ⟨_, rfl, rfl⟩

theorem obeys_resolvePath (argv : List CString) (index : Nat) :
    (onTool (resolvePath argv index)).Obeys discretion { learned }
      fun _ last => last = { learned } := by
  refine obeys_onTool ?_
  unfold resolvePath
  split
  · trivial
  · refine ⟨fun home => rfl, fun home => ⟨fun storeRoot => rfl, fun storeRoot => ?_⟩⟩
    cases storeRoot with
    | none => trivial
    | some root =>
      show Asks _ (if root.bytes = [] then _ else _)
      split <;> trivial

variable (strerror : Nat → List UInt8) (username : CString) (argv : List CString)

theorem obeys_deriveHeaderPassword :
    (deriveHeaderPassword strerror username).Obeys discretion
      { learned := { user := some (effectiveUser username) } } fun result last =>
        Secrets.Holds last result.toOption := by
  have same (derived : Except Nat CString) :
      (derived.mapError (derivationFailure strerror)).toOption = derived.toOption := by
    cases derived <;> rfl
  have shown := effectiveUser_ne_nil username
  unfold deriveHeaderPassword
  refine (obeys_pamService shown).bind ?_
  rintro passwordless last rfl
  cases passwordless with
  | true =>
    intro derived
    refine ⟨{ learned := { user := some (effectiveUser username), passwordless := true }
              headerPassword := derived.toOption }, if_pos ⟨⟨rfl, rfl, rfl, rfl⟩, rfl, rfl⟩, ?_⟩
    exact ⟨rfl, rfl, rfl, (same derived).symm⟩
  | false =>
  refine (obeys_promptPassword (promptText (effectiveUser username))).bind ?_
  rintro typed last ⟨nonempty, screen, rfl, settled⟩
  cases typed with
  | none => exact ⟨settled, rfl, rfl, rfl⟩
  | some loginPassword =>
  refine (obeys_authenticateWithPam rfl shown (nonempty loginPassword rfl) settled).bind ?_
  rintro failure last rfl
  cases failure with
  | some failure => exact fun response => ⟨_, rfl, settled, rfl, rfl, rfl⟩
  | none =>
    intro derived
    refine ⟨{ learned := { user := some (effectiveUser username), passwordless := false }
              screen
              typed := some loginPassword
              started := true
              accepted := some loginPassword
              headerPassword := derived.toOption }, if_pos ⟨rfl, rfl, rfl⟩, fun response => ?_⟩
    exact ⟨_, rfl, settled, rfl, rfl, (same derived).symm⟩

theorem obeys_failWith (action reason : List UInt8) {note : Secrets} {password : Option CString}
    (holds : note.Holds password) :
    (failWith action reason).Obeys discretion note fun _ last => last.Cleared := by
  exact fun response => ⟨_, rfl, fun response => ⟨_, if_pos holds.cleared, holds.cleared⟩⟩

/-- It is enough that what follows can be trusted with the header password. -/
theorem obeys_withStore (index : Nat) {next : CString → CString → Process Int}
    (trusted : ∀ path password note, Secrets.Holds note (some password) →
      (next path password).Obeys discretion note fun _ last => last.Cleared) :
    (withStore strerror username argv index next).Obeys discretion
      { learned := { user := some (effectiveUser username) } } fun _ last => last.Cleared := by
  refine (obeys_resolvePath argv index).bind ?_
  rintro path last rfl
  cases path with
  | none => exact fun response => ⟨_, rfl, rfl, rfl, rfl, rfl⟩
  | some path =>
  refine (obeys_deriveHeaderPassword strerror username).bind ?_
  intro derived last holds
  cases derived with
  | error failure => exact obeys_failWith (ascii "authentication") failure.reason holds
  | ok password => exact trusted path password last holds

theorem obeys_refuseUsage :
    refuseUsage.Obeys discretion { learned } fun _ last => last.Cleared :=
  fun _ => ⟨{ learned }, rfl, rfl, rfl, rfl, rfl⟩

theorem obeys_allocateCommand :
    (allocateCommand strerror username argv).Obeys discretion
      { learned := { user := some (effectiveUser username) } } fun _ last => last.Cleared := by
  unfold allocateCommand
  dsimp only
  split
  · exact obeys_refuseUsage
  refine obeys_withStore strerror username argv 3 fun path password note holds => ?_
  intro allocated
  refine ⟨note, if_pos holds.trusts, ?_⟩
  show Obeys _ (if allocated ≠ 0 then _ else _) _ _
  split
  · exact obeys_failWith _ _ holds
  · exact fun response => ⟨_, rfl, fun response => ⟨_, if_pos holds.cleared, holds.cleared⟩⟩

theorem obeys_setCommand :
    (setCommand strerror username argv).Obeys discretion
      { learned := { user := some (effectiveUser username) } } fun _ last => last.Cleared := by
  unfold setCommand
  split
  next key value _ _ =>
    split
    · exact obeys_refuseUsage
    refine obeys_withStore strerror username argv 4 fun path password note holds => ?_
    intro result
    refine ⟨note, if_pos holds.trusts, ?_⟩
    show Obeys _ (if result ≠ 0 then _ else _) _ _
    split
    · exact obeys_failWith _ _ holds
    · exact fun response => ⟨_, rfl, holds.cleared⟩
  · exact obeys_refuseUsage

theorem obeys_getCommand :
    (getCommand strerror username argv).Obeys discretion
      { learned := { user := some (effectiveUser username) } } fun _ last => last.Cleared := by
  unfold getCommand
  split
  next key _ =>
    split
    · exact obeys_refuseUsage
    refine obeys_withStore strerror username argv 3 fun path password note holds => ?_
    intro found
    refine ⟨note, if_pos holds.trusts, ?_⟩
    cases found with
    | none => exact obeys_failWith _ _ holds
    | some found =>
      refine fun response => ⟨_, rfl, fun response => ⟨_, if_pos holds.cleared, ?_⟩⟩
      exact fun response => ⟨_, if_pos holds.cleared, holds.cleared⟩
  · exact obeys_refuseUsage

/-- Whatever the terminal, PAM, the TPM and the store answer, the process gives no cause for an
objection, and when it ends it has nothing left in hand. -/
theorem process_discreet : (padlockMain strerror argv).Obeys discretion {}
    fun _ last => last.Cleared := by
  intro user
  refine ⟨{ learned := { user := user.map effectiveUser } }, rfl, ?_⟩
  cases user with
  | none => exact fun response => ⟨_, rfl, rfl, rfl, rfl, rfl⟩
  | some username =>
  dsimp only
  split
  · exact obeys_refuseUsage
  split
  · exact obeys_allocateCommand strerror username argv
  split
  · exact obeys_setCommand strerror username argv
  split
  · exact obeys_getCommand strerror username argv
  · exact obeys_refuseUsage

end Discreet

end Process

end Padlock
