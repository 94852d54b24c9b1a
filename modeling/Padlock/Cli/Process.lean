/-
This file models the tool as a process: `prompt_password` at the terminal,
`authenticate_with_pam` and its conversation with PAM, and the clearing of the
two buffers in which passwords stand. Around that, the branches of `main` are
written once more with the clearing in its places.

Where the clearing is left out again, the process is the tool with its prompt and
its authentication spelled out.
-/

import Padlock.Cli.Tool

namespace Padlock

open Interaction Program

/-! ### Requests -/

/-- `struct termios`: the flag `ECHO` of `c_lflag`, and everything else. -/
structure Terminal where
  echo : Bool
  others : Nat
  deriving DecidableEq

/-- The buffers that are cleared. -/
inductive PasswordBuffer where
  | loginPassword
  | headerPassword

/-- What the process asks beside what the tool asks. -/
inductive ProcessRequest where
  | main (asked : MainRequest)
  /-- `fprintf` to the standard error and `fflush` -/
  | showPrompt (prompt : List UInt8)
  | tcgetattr
  | tcsetattr (terminal : Terminal)
  /-- `fgets` from the standard input into a buffer of that size -/
  | fgets (size : Nat)
  /-- `fputc('\n', stderr)` -/
  | endLine
  | errno
  | setErrno (errno : Nat)
  /-- The conversation answers with a password, or not at all. -/
  | pamStart (service : List UInt8) (username : CString) (conversation : Option CString)
  | pamAuthenticate
  | pamStrerror (code : Int)
  | pamEnd (code : Int)
  /-- `secure_zero` -/
  | secureZero (buffer : PasswordBuffer)

abbrev ProcessResponse : ProcessRequest → Type
  | .main asked => MainResponse asked
  | .showPrompt _ => Unit
  | .tcgetattr => Option Terminal
  | .tcsetattr _ => Bool
  | .fgets _ => Option (List UInt8)
  | .endLine => Unit
  | .errno => Nat
  | .setErrno _ => Unit
  | .pamStart _ _ _ => Int
  | .pamAuthenticate => Int
  | .pamStrerror _ => Option (List UInt8)
  | .pamEnd _ => Unit
  | .secureZero _ => Unit

abbrev Process (Result : Type) := Program ProcessRequest ProcessResponse Result

namespace Process

abbrev say (asked : ProcessRequest) : Process (ProcessResponse asked) := request asked

/-! ### The terminal -/

/-- The password on a line that was read: up to the first NUL, without the newline. -/
def lineText (line : List UInt8) : List UInt8 :=
  if (cString line).getLast? = some newline then (cString line).dropLast else cString line

theorem nul_not_mem_lineText (line : List UInt8) : 0 ∉ lineText line := by
  have shown : ∀ byte ∈ cString line, byte ≠ 0 := by
    intro byte member
    simpa using List.mem_takeWhile_imp member
  unfold lineText
  split
  · exact fun member => shown 0 (List.dropLast_subset _ member) rfl
  · exact fun member => shown 0 member rfl

/-- Where the old attributes were changed, they are set again. -/
def restore (changed : Option Terminal) : Process Unit :=
  match changed with
  | none => pure ()
  | some terminal => do
    let _ : Bool ← say (.tcsetattr terminal)

/-- Turn off the echo of the terminal, if there is one: the attributes to set again. -/
def muteTerminal : Process (Option Terminal) := do
  let terminal : Option Terminal ← say .tcgetattr
  match terminal with
  | none => return none
  | some old => do
    let changed : Bool ← say (.tcsetattr { old with echo := false })
    return if changed then some old else none

/-- `prompt_password`, with a buffer of 512 bytes. -/
def promptPassword (prompt : List UInt8) : Process (Option CString) := do
  say (.showPrompt prompt)
  let changed ← muteTerminal
  let line : Option (List UInt8) ← say (.fgets 512)
  restore changed
  say .endLine
  match line with
  | none => return none
  | some line =>
    return if lineText line = [] then none else some ⟨lineText line, nul_not_mem_lineText line⟩

/-! ### PAM -/

def pamSuccess : Int := 0

/-- The size of `auth_error`. -/
def reasonSize : Nat := 256

/-- `copy_message` into that buffer. -/
def copyMessage (message : List UInt8) : List UInt8 := message.take (reasonSize - 1)

/-- `copy_pam_message` into that buffer. -/
def copyPamMessage (code : Int) : Process (List UInt8) := do
  let message : Option (List UInt8) ← say (.pamStrerror code)
  match message with
  | none | some [] => return copyMessage (ascii "PAM " ++ ascii (toString code))
  | some message =>
    return copyMessage (ascii "PAM " ++ ascii (toString code) ++ ascii ": " ++ message)

/-- The name of `authenticate_with_pam`: the one given, or that of the current user. -/
def resolveUser (username : Option CString) : Process (Option CString) :=
  match username with
  | some given => if given.bytes = [] then say (.main .getpwuid) else pure (some given)
  | none => say (.main .getpwuid)

/-- From `pam_end` on. -/
def endPam (result : Int) (reason : List UInt8) : Process (Option Failure) := do
  say (.pamEnd result)
  if result = pamSuccess then
    return none
  say (.setErrno eacces)
  return some ⟨eacces, reason⟩

/-- From `pam_start` on. -/
def converse (username : CString) (conversation : Option CString) :
    Process (Option Failure) := do
  let started : Int ← say (.pamStart (ascii "padlock") username conversation)
  if started ≠ pamSuccess then
    say (.setErrno eacces)
    let reason ← copyPamMessage started
    return some ⟨eacces, reason⟩
  let result : Int ← say .pamAuthenticate
  let reason ← if result ≠ pamSuccess then copyPamMessage result else pure []
  endPam result reason

def einval : Nat := 22

/-- `authenticate_with_pam`: the failure, where it returned -1. -/
def authenticateWithPam (username password : Option CString) (noPrompt : Bool) :
    Process (Option Failure) := do
  match ← resolveUser username with
  | none =>
    let errno : Nat ← say .errno
    return some ⟨errno, copyMessage (ascii "could not resolve current user")⟩
  | some username =>
    if noPrompt then converse username none
    else
      match password with
      | none =>
        say (.setErrno einval)
        return some ⟨einval, copyMessage (ascii "empty password")⟩
      | some password =>
        if password.bytes = [] then
          say (.setErrno einval)
          return some ⟨einval, copyMessage (ascii "empty password")⟩
        else converse username (some password)

/-! ### Spelling the tool out -/

/-- The prompt and the authentication are spelled out; all else is asked as it is. -/
def serve : (asked : MainRequest) → Process (MainResponse asked)
  | .tool (.cli (.promptPassword prompt)) => promptPassword prompt
  | .tool (.cli (.authenticateWithPam username password)) =>
    authenticateWithPam (some username) (some password) false
  | asked => say (.main asked)

/-- A part of the tool that neither prompts nor authenticates. -/
def onTool {Result : Type} (program : Tool Result) : Process Result :=
  program.relay fun asked => say (.main (.tool asked))

section Commands

variable (strerror : Nat → List UInt8) (username : CString) (argv : List CString)

/-- `derive_header_password`, with the clearing of `login_password`. -/
def deriveHeaderPassword : Process (Except Failure CString) := do
  let user := effectiveUser username
  let passwordless ← onTool ((pamServiceIsPasswordlessForUser user).relay fun call =>
    request (ToolRequest.cli call))
  if passwordless then
    let derived : Except Nat CString ← say (.main (.tool (.cli (.deriveUserHeaderPassword user))))
    return derived.mapError (derivationFailure strerror)
  else
    match ← promptPassword (promptText user) with
    | none => return .error ⟨eio, ascii "could not read password"⟩
    | some loginPassword =>
      match ← authenticateWithPam (some user) (some loginPassword) false with
      | some failure =>
        say (.secureZero .loginPassword)
        return .error failure
      | none =>
        let derived : Except Nat CString ←
          say (.main (.tool (.cli (.deriveHeaderPassword loginPassword))))
        say (.secureZero .loginPassword)
        return derived.mapError (derivationFailure strerror)

/-- `secure_zero(header_password, ..); report_failure(action); return 1;` -/
def failWith (action reason : List UInt8) : Process Int := do
  say (.secureZero .headerPassword)
  say (.main (.tool (.reportFailure action reason)))
  return 1

/-- What the branches of `main` have in common: the path, then the header password, and then their
own call. -/
def withStore (index : Nat) (next : CString → CString → Process Int) : Process Int := do
  match ← onTool (resolvePath argv index) with
  | none =>
    say (.main (.tool (.complain (ascii "padlock: could not resolve store path"))))
    return 1
  | some path =>
    match ← deriveHeaderPassword strerror username with
    | .error failure => failWith (ascii "authentication") failure.reason
    | .ok headerPassword => next path headerPassword

def refuseUsage : Process Int := do
  say (.main (.tool .usage))
  return 2

def allocateCommand : Process Int :=
  let (parsed, size) := padlockParseSize argv[2]? (some 0)
  if argv.length < 3 ∨ argv.length > 4 ∨ parsed ≠ 0 then refuseUsage
  else withStore strerror username argv 3 fun path headerPassword => do
    let allocated : Int ← say (.main (.tool (.padlockAllocate path (size.getD 0) headerPassword)))
    if allocated ≠ 0 then failWith (ascii "allocation") []
    else
      say (.secureZero .headerPassword)
      say (.main (.tool (.print (ascii "allocated " ++ path.bytes))))
      return 0

def setCommand : Process Int :=
  match argv[2]?, argv[3]? with
  | some key, some value =>
    if argv.length > 5 then refuseUsage
    else withStore strerror username argv 4 fun path headerPassword => do
      let result : Int ← say (.main (.padlockSet path headerPassword key (argumentValue value)))
      if result ≠ 0 then failWith (ascii "set") []
      else
        say (.secureZero .headerPassword)
        return 0
  | _, _ => refuseUsage

def getCommand : Process Int :=
  match argv[2]? with
  | some key =>
    if argv.length > 4 then refuseUsage
    else withStore strerror username argv 3 fun path headerPassword => do
      let found : Option Found ← say (.main (.padlockGet path headerPassword key))
      match found with
      | none => failWith (ascii "lookup") []
      | some found =>
        say (.secureZero .headerPassword)
        say (.main (.writeValue (found.value ++ [newline])))
        say (.main .padlockFree)
        return 0
  | none => refuseUsage

end Commands

/-- `main`. -/
def padlockMain (strerror : Nat → List UInt8) (argv : List CString) : Process Int := do
  let username : Option CString ← say (.main .getpwuid)
  match username with
  | none =>
    say (.main (.tool (.complain (ascii "padlock: could not resolve current user"))))
    return 1
  | some username =>
    match argv[1]? with
    | none => refuseUsage
    | some command =>
      if command.bytes = ascii "allocate" then allocateCommand strerror username argv
      else if command.bytes = ascii "set" then setCommand strerror username argv
      else if command.bytes = ascii "get" then getCommand strerror username argv
      else refuseUsage

/-! ### The tool in the process -/

/-- Everything but the clearing. -/
def hide : (asked : ProcessRequest) → Process (ProcessResponse asked)
  | .secureZero _ => pure ()
  | asked => say asked

def Kept : ProcessRequest → Prop
  | .secureZero _ => False
  | _ => True

theorem hide_of_kept (asked : ProcessRequest) (kept : Kept asked) : hide asked = say asked := by
  cases asked with
  | secureZero buffer => cases kept
  | _ => rfl

theorem asks_restore (changed : Option Terminal) : (restore changed).Asks Kept := by
  cases changed with
  | none => trivial
  | some terminal => exact ⟨trivial, fun _ => trivial⟩

theorem asks_muteTerminal : muteTerminal.Asks Kept := by
  refine ⟨trivial, fun terminal => ?_⟩
  cases terminal with
  | none => trivial
  | some old => exact ⟨trivial, fun _ => trivial⟩

theorem asks_promptPassword (prompt : List UInt8) : (promptPassword prompt).Asks Kept := by
  refine ⟨trivial, fun _ => asks_muteTerminal.bind fun changed => ⟨trivial, fun line => ?_⟩⟩
  refine (asks_restore changed).bind fun _ => ⟨trivial, fun _ => ?_⟩
  cases line <;> trivial

theorem asks_copyPamMessage (code : Int) : (copyPamMessage code).Asks Kept := by
  refine ⟨trivial, fun message => ?_⟩
  rcases message with _ | _ | _ <;> trivial

theorem asks_endPam (result : Int) (reason : List UInt8) : (endPam result reason).Asks Kept := by
  refine ⟨trivial, fun _ => ?_⟩
  show Asks _ (if result = pamSuccess then _ else _)
  split
  · trivial
  · exact ⟨trivial, fun _ => trivial⟩

theorem asks_converse (username : CString) (conversation : Option CString) :
    (converse username conversation).Asks Kept := by
  refine ⟨trivial, fun started => ?_⟩
  show Asks _ (if started ≠ pamSuccess then _ else _)
  split
  · exact ⟨trivial, fun _ => (asks_copyPamMessage started).bind fun _ => trivial⟩
  refine ⟨trivial, fun result => ?_⟩
  show Asks _ (if result ≠ pamSuccess then _ else _)
  split
  · exact (asks_copyPamMessage result).bind fun reason => asks_endPam result reason
  · exact asks_endPam result []

theorem asks_authenticateWithPam (username password : CString) :
    (authenticateWithPam (some username) (some password) false).Asks Kept := by
  have user : (resolveUser (some username)).Asks Kept := by
    unfold resolveUser
    dsimp only
    split
    · exact ⟨trivial, fun _ => trivial⟩
    · trivial
  refine user.bind fun resolved => ?_
  cases resolved with
  | none => exact ⟨trivial, fun _ => trivial⟩
  | some user =>
    show Asks _ (if password.bytes = [] then _ else _)
    split
    · exact ⟨trivial, fun _ => trivial⟩
    · exact asks_converse user (some password)

theorem asks_onTool {Result : Type} (program : Tool Result) : (onTool program).Asks Kept := by
  refine Asks.relay ?_ (asks_trivial program)
  intro asked _
  exact ⟨trivial, fun _ => trivial⟩

theorem hide_onTool {Result : Type} (program : Tool Result) :
    (onTool program).relay hide = onTool program :=
  (asks_onTool program).relay_self hide_of_kept

theorem serve_pamService (user : CString) :
    (pamServiceIsPasswordlessForUser user).relay (fun call => serve (.tool (.cli call))) =
      onTool ((pamServiceIsPasswordlessForUser user).relay fun call =>
        request (ToolRequest.cli call)) := by
  unfold pamServiceIsPasswordlessForUser
  split
  · rfl
  · rw [onTool, relay_relay]
    show Program.ask _ _ = Program.ask _ _
    congr 1
    funext service
    cases service with
    | none => rfl
    | some file =>
      dsimp only [done_bind, Program.bind]
      split <;> rfl

theorem hide_deriveHeaderPassword (strerror : Nat → List UInt8) (username : CString) :
    (deriveHeaderPassword strerror username).relay hide =
      (Padlock.deriveHeaderPassword strerror username).relay fun call =>
        serve (.tool (.cli call)) := by
  unfold deriveHeaderPassword Padlock.deriveHeaderPassword
  rw [relay_bind, hide_onTool, ← serve_pamService]
  dsimp only
  rw [← effectiveUser, relay_bind]
  congr 1
  funext passwordless
  cases passwordless with
  | true => rfl
  | false =>
    rw [if_neg Bool.false_ne_true, if_neg Bool.false_ne_true, relay_bind,
      (asks_promptPassword _).relay_self hide_of_kept]
    show (promptPassword _ >>= _) = (promptPassword _ >>= _)
    congr 1
    funext typed
    cases typed with
    | none => rfl
    | some loginPassword =>
      show (authenticateWithPam (some (effectiveUser username)) (some loginPassword) false >>=
        _).relay hide = (authenticateWithPam (some (effectiveUser username)) (some loginPassword)
          false >>= _)
      rw [relay_bind, (asks_authenticateWithPam _ _).relay_self hide_of_kept]
      congr 1
      funext failure
      cases failure <;> rfl

/-- The part of the tool that comes before the call of the store, in the process. -/
theorem serve_derivation (strerror : Nat → List UInt8) (username : CString) :
    ((Padlock.deriveHeaderPassword strerror username).relay fun call =>
      request (ToolRequest.cli call)).relay (fun asked => serve (.tool asked)) =
        (deriveHeaderPassword strerror username).relay hide := by
  rw [relay_relay, hide_deriveHeaderPassword]
  congr 1
  funext call
  exact relay_request _ _

theorem serve_resolvePath (argv : List CString) (index : Nat) :
    (resolvePath argv index).relay (fun asked => serve (.tool asked)) =
      onTool (resolvePath argv index) := by
  have asks : (resolvePath argv index).Asks fun asked =>
      serve (.tool asked) = say (.main (.tool asked)) := by
    unfold resolvePath
    split
    · trivial
    · refine ⟨rfl, fun home => ⟨rfl, fun storeRoot => ?_⟩⟩
      cases storeRoot with
      | none => trivial
      | some root =>
        show Asks _ (if root.bytes = [] then _ else _)
        split <;> trivial
  exact asks.relay_congr fun asked itself => itself

/-- What follows `prepare`: it ends with its error, or goes on with what it has found. -/
def afterPrepare (next : CString → CString → Process Int) :
    Except Int (CString × CString) → Process Int
  | .error code => pure code
  | .ok (path, headerPassword) => next path headerPassword

theorem hide_withStore (strerror : Nat → List UInt8) (username : CString) (argv : List CString)
    (index : Nat) (next : CString → CString → Process Int) :
    (withStore strerror username argv index next).relay hide =
      ((prepare strerror username argv index).relay (fun asked => serve (.tool asked)) >>=
        afterPrepare fun path headerPassword => (next path headerPassword).relay hide) := by
  unfold withStore prepare
  rw [relay_bind, hide_onTool, relay_bind, serve_resolvePath, bind_assoc]
  congr 1
  funext path
  cases path with
  | none => rfl
  | some path =>
    dsimp only
    rw [relay_bind, relay_bind, serve_derivation, bind_assoc]
    congr 1
    funext derived
    cases derived <;> rfl

/-! ### The commands -/

section Commands

variable (strerror : Nat → List UInt8) (username : CString) (argv : List CString)

theorem serve_onMain {Result : Type} (program : Tool Result) :
    (onMain program).relay serve = program.relay fun asked => serve (.tool asked) := by
  rw [onMain, relay_relay]
  congr 1
  funext asked
  exact relay_request serve _

theorem hide_setCommand : (setCommand strerror username argv).relay hide =
    (Padlock.setCommand strerror username argv).relay serve := by
  unfold setCommand Padlock.setCommand
  cases argv[2]? with
  | none => rfl
  | some key =>
  cases argv[3]? with
  | none => rfl
  | some value =>
  dsimp only
  split
  · rfl
  · rw [hide_withStore, relay_bind, serve_onMain]
    congr 1
    funext prepared
    cases prepared with
    | error code => rfl
    | ok found =>
      obtain ⟨path, headerPassword⟩ := found
      show Program.ask _ _ = Program.ask _ _
      congr 1
      funext result
      dsimp only [Program.bind]
      split <;> rfl

theorem hide_getCommand : (getCommand strerror username argv).relay hide =
    (Padlock.getCommand strerror username argv).relay serve := by
  unfold getCommand Padlock.getCommand
  cases argv[2]? with
  | none => rfl
  | some key =>
  dsimp only
  split
  · rfl
  · rw [hide_withStore, relay_bind, serve_onMain]
    congr 1
    funext prepared
    cases prepared with
    | error code => rfl
    | ok found =>
      obtain ⟨path, headerPassword⟩ := found
      show Program.ask _ _ = Program.ask _ _
      congr 1
      funext found
      cases found <;> rfl

theorem hide_allocateCommand : (allocateCommand strerror username argv).relay hide =
    (onMain (Padlock.allocateCommand strerror username argv)).relay serve := by
  rw [serve_onMain]
  unfold allocateCommand Padlock.allocateCommand
  dsimp only
  split
  · rfl
  · rw [hide_withStore, prepare, relay_bind, relay_bind, bind_assoc]
    congr 1
    funext path
    cases path with
    | none => rfl
    | some path =>
    dsimp only
    rw [relay_bind, relay_bind, bind_assoc]
    congr 1
    funext derived
    cases derived with
    | error failure => rfl
    | ok headerPassword =>
      show Program.ask _ _ = Program.ask _ _
      congr 1
      funext result
      dsimp only [Program.bind]
      split <;> rfl

end Commands

/-- Without the clearing, the process is the tool with its prompt and its authentication spelled
out. -/
theorem hide_padlockMain (strerror : Nat → List UInt8) (argv : List CString) :
    (padlockMain strerror argv).relay hide = (Padlock.padlockMain strerror argv).relay serve := by
  show Program.ask _ _ = Program.ask _ _
  congr 1
  funext username
  cases username with
  | none => rfl
  | some username =>
    dsimp only [Program.bind, done_bind]
    cases argv[1]? with
    | none => rfl
    | some command =>
      dsimp only
      split
      · exact hide_allocateCommand strerror username argv
      split
      · exact hide_setCommand strerror username argv
      split
      · exact hide_getCommand strerror username argv
      · rfl

end Process

end Padlock
