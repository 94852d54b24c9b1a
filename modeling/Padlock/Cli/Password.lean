/-
This file models how the command line tool comes by a header password, and asks
when it may do so without the user's password.

The tool skips the prompt and the authentication when the service file of the
authentication library lets this user in by name alone. It reads that file
itself, in pieces of at most 511 bytes, and every piece that is not blank and
not a comment has to be the one rule it knows. The check only ever rejects:
nothing is asked of a file that holds no rule at all, a piece ends at its first
NUL, and a line longer than a piece is compared piece by piece. What the check
says of the lines of the file, and on which files it says more than it should,
is stated at the end.
-/

import Padlock.Library.Lines
import Padlock.Library.Program
import Padlock.Store.Format

namespace Padlock

open Interaction Program

/-! ### The service file -/

/-- The bytes of an ASCII text. -/
def ascii (text : String) : List UInt8 :=
  text.toList.map fun character => UInt8.ofNat character.toNat

def newline : UInt8 := 0x0a

def commentMark : UInt8 := 0x23

/-- `isspace` of the C locale: the space, and the tabulators and line ends. -/
def isSpace (byte : UInt8) : Bool := byte = 0x20 ∨ (0x09 ≤ byte ∧ byte ≤ 0x0d)

/-- The string that stands at the start of a buffer. -/
def cString (buffer : List UInt8) : List UInt8 := buffer.takeWhile (· ≠ 0)

/-- What `fgets` puts into the 512 bytes of `line` at most, before its NUL. -/
def lineRoom : Nat := 511

/-- `sizeof(expected)`. -/
def expectedSize : Nat := 384

/-- The one rule that stands for a service without a password. -/
def expectedRule (username : CString) : List UInt8 :=
  ascii "auth required pam_succeed_if.so user = " ++ username.bytes

theorem nul_not_mem_expectedRule (username : CString) : 0 ∉ expectedRule username := by
  rw [expectedRule, List.mem_append, not_or]
  exact ⟨by decide, username.nulFree⟩

/-- The loop over the service file: a line that is neither blank nor a comment has to be the
expected rule. -/
def linesPass (expected : List UInt8) (file : List UInt8) : Bool :=
  match _read : Lines.next newline lineRoom file with
  | none => true
  | some (line, rest) =>
    let start := Lines.trim isSpace (cString line)
    if start = [] ∨ start.head? = some commentMark then linesPass expected rest
    else if start ≠ expected then false
    else linesPass expected rest
termination_by file.length
decreasing_by all_goals exact Lines.next_shorter _read

/-! ### Calls of the tool -/

/-- What a failed call leaves in `errno` and in the buffer for the reason. -/
structure Failure where
  errno : Nat
  reason : List UInt8

def eio : Nat := 5

def eacces : Nat := 13

/-- The calls that `derive_header_password` makes. -/
inductive CliCall where
  | openService
  | promptPassword (prompt : List UInt8)
  | authenticateWithPam (username password : CString)
  | deriveUserHeaderPassword (username : CString)
  | deriveHeaderPassword (loginPassword : CString)

/-- How each call may end: with the bytes of the file, with the password typed, with the failure
of the authentication if it fails, with the header password or an `errno`. -/
abbrev CliReply : CliCall → Type
  | .openService => Option (List UInt8)
  | .promptPassword _ => Option CString
  | .authenticateWithPam _ _ => Option Failure
  | .deriveUserHeaderPassword _ => Except Nat CString
  | .deriveHeaderPassword _ => Except Nat CString

abbrev Cli (Result : Type) := Program CliCall CliReply Result

def openService : Cli (Option (List UInt8)) := request CliCall.openService

def promptPassword (prompt : List UInt8) : Cli (Option CString) :=
  request (CliCall.promptPassword prompt)

def authenticateWithPam (username password : CString) : Cli (Option Failure) :=
  request (CliCall.authenticateWithPam username password)

def padlockDeriveUserHeaderPassword (username : CString) : Cli (Except Nat CString) :=
  request (CliCall.deriveUserHeaderPassword username)

def padlockDeriveHeaderPassword (loginPassword : CString) : Cli (Except Nat CString) :=
  request (CliCall.deriveHeaderPassword loginPassword)

/-- Whether the service file lets `username` in without a password. A file that cannot be opened
does not. -/
def pamServiceIsPasswordlessForUser (username : CString) : Cli Bool :=
  if username.bytes = [] then .done false
  else do
    match ← openService with
    | none => return false
    | some file =>
      if (expectedRule username).length ≥ expectedSize then return false
      return linesPass (expectedRule username) file

/-- The failure that a failed derivation is reported as. -/
def derivationFailure (strerror : Nat → List UInt8) (errno : Nat) : Failure :=
  if errno = eacces then ⟨errno, ascii "TPM access denied while deriving header password"⟩
  else if errno ≠ 0 then
    ⟨errno, (ascii "header password derivation failed: " ++ strerror errno).take 127⟩
  else ⟨eio, ascii "header password derivation failed"⟩

/-- The name used when there is none. -/
def defaultUser : CString := ⟨ascii "user", by decide⟩

/-- The text of the prompt, cut to the 128 bytes of `prompt`. -/
def promptText (username : CString) : List UInt8 :=
  (ascii "Enter the password for '" ++ username.bytes ++ ascii "': ").take 127

/-- `derive_header_password`. The branches for `no_prompt` behind the early return are not
reached and are left out. -/
def deriveHeaderPassword (strerror : Nat → List UInt8) (username : CString) :
    Cli (Except Failure CString) := do
  let username := if username.bytes = [] then defaultUser else username
  if ← pamServiceIsPasswordlessForUser username then
    let derived ← padlockDeriveUserHeaderPassword username
    return derived.mapError (derivationFailure strerror)
  match ← promptPassword (promptText username) with
  | none => return .error ⟨eio, ascii "could not read password"⟩
  | some loginPassword =>
    match ← authenticateWithPam username loginPassword with
    | some failure => return .error failure
    | none =>
      let derived ← padlockDeriveHeaderPassword loginPassword
      return derived.mapError (derivationFailure strerror)

/-! ### The pieces of the file -/

section Pieces

variable {expected : List UInt8}

/-- A text that, trimmed, is neither blank nor a comment. -/
def IsRule (text : List UInt8) : Prop :=
  Lines.trim isSpace text ≠ [] ∧ (Lines.trim isSpace text).head? ≠ some commentMark

instance (text : List UInt8) : Decidable (IsRule text) :=
  inferInstanceAs (Decidable (_ ∧ _))

/-- What the loop lets pass: no rule before the first NUL, or the expected one. -/
def LetPass (expected text : List UInt8) : Prop :=
  IsRule (cString text) → Lines.trim isSpace (cString text) = expected

theorem linesPass_iff (file : List UInt8) :
    linesPass expected file = true ↔
      ∀ piece ∈ Lines.pieces newline lineRoom file, LetPass expected piece := by
  rw [linesPass]
  split
  case h_1 ended =>
    rw [Lines.pieces_of_none ended]
    simp
  case h_2 line rest read =>
    have shorter := Lines.next_shorter read
    rw [Lines.pieces_of_some read, List.forall_mem_cons, ← linesPass_iff rest]
    dsimp only
    split
    case isTrue silent =>
      have passes : LetPass expected line := fun rule =>
        absurd silent (not_or.mpr rule)
      exact ⟨fun later => ⟨passes, later⟩, fun both => both.2⟩
    case isFalse speaks =>
      have rule : IsRule (cString line) := not_or.mp speaks
      by_cases same : Lines.trim isSpace (cString line) = expected
      · rw [if_neg (not_not.mpr same)]
        exact ⟨fun later => ⟨fun _ => same, later⟩, fun both => both.2⟩
      · rw [if_pos same]
        exact ⟨fun passed => absurd passed Bool.false_ne_true,
          fun both => absurd (both.1 rule) same⟩
termination_by file.length

theorem trim_cString_append_newline (text : List UInt8) :
    Lines.trim isSpace (cString (text ++ [newline])) = Lines.trim isSpace (cString text) := by
  unfold cString
  rw [List.takeWhile_append]
  split
  case isTrue whole =>
    have plain : text.takeWhile (· ≠ 0) = text := (List.takeWhile_prefix _).eq_of_length whole
    have ends : [newline].takeWhile (· ≠ 0) = [newline] := by decide
    rw [ends, plain]
    exact Lines.trim_append_space (by decide) text
  case isFalse => rfl

/-- The loop passes exactly the files all of whose lines pass in chunks of what the buffer
holds. -/
theorem linesPass_iff_chunks (file : List UInt8) :
    linesPass expected file = true ↔
      ∀ line ∈ file.splitOn newline, ∀ chunk ∈ Lines.chunks lineRoom line,
        LetPass expected chunk := by
  have trailing : ∀ text, LetPass expected (text ++ [newline]) ↔ LetPass expected text := by
    intro text
    unfold LetPass IsRule
    rw [trim_cString_append_newline]
  have blank : LetPass expected [] := fun rule => absurd rfl rule.1
  rw [linesPass_iff, Lines.forall_pieces (by decide) trailing blank]

/-- On a line that is read whole the loop means the line. -/
theorem LetPass.line {line : List UInt8} (passes : ∀ chunk ∈ Lines.chunks lineRoom line,
      LetPass expected chunk) (rule : IsRule line) (plain : 0 ∉ line)
    (fits : line.length ≤ lineRoom) : Lines.trim isSpace line = expected := by
  have shown : line ≠ [] := by
    rintro rfl
    exact rule.1 rfl
  have whole : cString line = line := by
    refine List.takeWhile_eq_self_iff.mpr fun byte member => ?_
    rw [decide_eq_true_eq]
    rintro rfl
    exact plain member
  rw [Lines.chunks_of_fits shown fits, List.forall_mem_singleton, LetPass, whole] at passes
  exact passes rule

end Pieces

/-! ### Skipping the authentication -/

/-- The lines of a file that say something. -/
def ruleLines (file : List UInt8) : List (List UInt8) :=
  (file.splitOn newline).filter fun line => IsRule line

/-- The file holds a rule, and no rule but the one for this user. -/
def ExplicitRule (file : List UInt8) (username : CString) : Prop :=
  ruleLines file ≠ [] ∧
    ∀ line ∈ ruleLines file, Lines.trim isSpace line = expectedRule username

/-- Surroundings with this service file, which may fail to open, and in which every other call
may end as it likes. The state keeps the calls made. -/
def recording (file : List UInt8) : Surroundings CliCall CliReply (List CliCall)
  | .openService, calls, opened, later =>
    (opened = none ∨ opened = some file) ∧ later = calls ++ [.openService]
  | .promptPassword prompt, calls, _, later => later = calls ++ [.promptPassword prompt]
  | .authenticateWithPam username password, calls, _, later =>
    later = calls ++ [.authenticateWithPam username password]
  | .deriveUserHeaderPassword username, calls, _, later =>
    later = calls ++ [.deriveUserHeaderPassword username]
  | .deriveHeaderPassword loginPassword, calls, _, later =>
    later = calls ++ [.deriveHeaderPassword loginPassword]

/-- The calls that ask something of the user. -/
def CliCall.AsksUser : CliCall → Prop
  | .promptPassword _ | .authenticateWithPam _ _ => True
  | _ => False

/-- The tool can end up with a header password and have asked nothing of the user. -/
def SkipsAuthentication (strerror : Nat → List UInt8) (file : List UInt8) (username : CString) :
    Prop :=
  ∃ password calls,
    Exec (recording file) (deriveHeaderPassword strerror username) [] (.ok password) calls ∧
      ∀ call ∈ calls, ¬ call.AsksUser

section Skipping

variable {strerror : Nat → List UInt8} {file : List UInt8} {username : CString}

/-- Opening the service is all that the check asks, and what it answers is decided by the file
when the file opens. -/
theorem exec_pamServiceIsPasswordlessForUser (named : username.bytes ≠ [])
    {calls later : List CliCall} {answer : Bool} :
    Exec (recording file) (pamServiceIsPasswordlessForUser username) calls answer later ↔
      (answer = false ∨ answer = (decide ((expectedRule username).length < expectedSize) &&
        linesPass (expectedRule username) file)) ∧ later = calls ++ [.openService] := by
  unfold pamServiceIsPasswordlessForUser
  rw [if_neg named, exec_bind]
  constructor
  · rintro ⟨opened, middle, asked, rest⟩
    obtain ⟨rfl | rfl, rfl⟩ := exec_request.mp asked
    · obtain ⟨rfl, rfl⟩ := exec_done.mp rest
      exact ⟨.inl rfl, rfl⟩
    · dsimp only at rest
      split at rest
      case isTrue long =>
        obtain ⟨rfl, rfl⟩ := exec_done.mp rest
        exact ⟨.inl rfl, rfl⟩
      case isFalse short =>
        obtain ⟨rfl, rfl⟩ := exec_done.mp rest
        rw [decide_eq_true (Nat.not_le.mp short), Bool.true_and]
        exact ⟨.inr rfl, rfl⟩
  · rintro ⟨rfl | rfl, rfl⟩
    · exact ⟨none, _, exec_request.mpr ⟨.inl rfl, rfl⟩, exec_done.mpr ⟨rfl, rfl⟩⟩
    · refine ⟨some file, _, exec_request.mpr ⟨.inr rfl, rfl⟩, ?_⟩
      dsimp only
      split
      case isTrue long =>
        rw [decide_eq_false (Nat.not_lt.mpr long), Bool.false_and]
        exact exec_done.mpr ⟨rfl, rfl⟩
      case isFalse short =>
        rw [decide_eq_true (Nat.not_le.mp short), Bool.true_and]
        exact exec_done.mpr ⟨rfl, rfl⟩

/-- The calls made so far are kept. -/
theorem recording_keeps {call : CliCall} {calls later : List CliCall} {reply : CliReply call}
    (answered : recording file call calls reply later) : later = calls ++ [call] := by
  cases call with
  | openService => exact answered.2
  | promptPassword prompt => exact answered
  | authenticateWithPam username password => exact answered
  | deriveUserHeaderPassword username => exact answered
  | deriveHeaderPassword loginPassword => exact answered

theorem exec_recording_keeps {Result : Type} {program : Cli Result} {calls later : List CliCall}
    {result : Result} (ran : Exec (recording file) program calls result later) :
    ∀ call ∈ calls, call ∈ later := by
  induction ran with
  | done result state => exact fun call member => member
  | ask answered rest inductionHypothesis =>
    intro call member
    rw [recording_keeps answered] at inductionHypothesis
    exact inductionHypothesis call (List.mem_append_left _ member)

/-- The user is left alone exactly when the rule fits its buffer and the loop passes the file. -/
theorem skipsAuthentication_iff (named : username.bytes ≠ []) :
    SkipsAuthentication strerror file username ↔
      (expectedRule username).length < expectedSize ∧
        linesPass (expectedRule username) file = true := by
  unfold SkipsAuthentication deriveHeaderPassword
  simp only [if_neg named, exec_bind, exec_pamServiceIsPasswordlessForUser named]
  constructor
  · rintro ⟨password, calls, ⟨skipped, first, ⟨decided, rfl⟩, ran⟩, alone⟩
    cases skipped with
    | true => simpa using decided
    | false =>
      -- The prompt comes first, and stays among the calls.
      obtain ⟨typed, second, asked, rest⟩ := exec_bind.mp ran
      obtain rfl : second = _ := exec_request.mp asked
      have kept := exec_recording_keeps rest (.promptPassword (promptText username)) (by simp)
      exact absurd trivial (alone _ kept)
  · rintro ⟨fits, pass⟩
    refine ⟨defaultUser, [.openService, .deriveUserHeaderPassword username],
      ⟨true, _, ⟨.inr (by simp [fits, pass]), rfl⟩, ?_⟩, by simp [CliCall.AsksUser]⟩
    rw [if_pos rfl, exec_bind]
    exact ⟨.ok defaultUser, _, exec_request.mpr rfl, exec_done.mpr ⟨rfl, rfl⟩⟩

/-- When does the tool skip the authentication only for a file with an explicit rule for this
user? Exactly when the rule is too long to be looked for; or some chunk of some line is, up to its
first NUL, a rule for something else; or the file does hold a rule line, none with a NUL in it,
and every rule line too long to be read at once is the expected rule. -/
theorem skips_only_with_rule_iff (strerror : Nat → List UInt8) (file : List UInt8)
    (username : CString) (named : username.bytes ≠ []) :
    (SkipsAuthentication strerror file username → ExplicitRule file username) ↔
      expectedSize ≤ (expectedRule username).length ∨
      (∃ line ∈ file.splitOn newline, ∃ chunk ∈ Lines.chunks lineRoom line,
        IsRule (cString chunk) ∧
          Lines.trim isSpace (cString chunk) ≠ expectedRule username) ∨
      (ruleLines file ≠ [] ∧ ∀ line ∈ ruleLines file, 0 ∉ line ∧
        (lineRoom < line.length → Lines.trim isSpace line = expectedRule username)) := by
  rw [skipsAuthentication_iff named, linesPass_iff_chunks]
  constructor
  · intro explicit
    refine or_iff_not_imp_left.mpr fun short => or_iff_not_imp_left.mpr fun passes => ?_
    have rules := explicit ⟨Nat.not_le.mp short, fun line member chunk cut rule =>
      not_not.mp fun other => passes ⟨line, member, chunk, cut, rule, other⟩⟩
    refine ⟨rules.1, fun line member => ⟨fun nul => ?_, fun _ => rules.2 line member⟩⟩
    have kept := Lines.mem_trim_of_not_space nul (by decide : ¬ isSpace 0)
    rw [rules.2 line member] at kept
    exact nul_not_mem_expectedRule username kept
  · rintro (long | ⟨line, member, chunk, cut, rule, other⟩ | ⟨some, rules⟩) ⟨short, passes⟩
    · omega
    · exact absurd (passes line member chunk cut rule) other
    · refine ⟨some, fun line member => ?_⟩
      obtain ⟨plain, wide⟩ := rules line member
      obtain ⟨among, rule⟩ := List.mem_filter.mp member
      rcases Nat.lt_or_ge lineRoom line.length with long | fits
      · exact wide long
      · exact LetPass.line (passes line among) (of_decide_eq_true rule) plain fits

end Skipping

/-- A user with a one-letter name. -/
def sampleUser : CString := ⟨ascii "a", by decide⟩

/-- The file that the installer writes for a user without a password is such a file. -/
theorem skips_only_with_rule_installed :
    ruleLines (expectedRule sampleUser ++ [newline]) = [expectedRule sampleUser] ∧
      (SkipsAuthentication (fun _ => []) (expectedRule sampleUser ++ [newline]) sampleUser →
        ExplicitRule (expectedRule sampleUser ++ [newline]) sampleUser) := by
  have rules : ruleLines (expectedRule sampleUser ++ [newline]) = [expectedRule sampleUser] := by
    decide
  refine ⟨rules, (skips_only_with_rule_iff _ _ _ (by decide)).mpr (.inr (.inr ?_))⟩
  rw [rules]
  refine ⟨List.cons_ne_nil _ _, ?_⟩
  rw [List.forall_mem_singleton]
  exact ⟨by decide, fun long => absurd long (by decide)⟩

/-- An empty service file lets everyone skip the authentication, with no rule in it. -/
theorem empty_service_skips :
    ¬ (SkipsAuthentication (fun _ => []) [] sampleUser → ExplicitRule [] sampleUser) := by
  have skips : SkipsAuthentication (fun _ => []) [] sampleUser := by
    refine (skipsAuthentication_iff (by decide)).mpr ⟨by decide, ?_⟩
    rw [linesPass_iff_chunks]
    simp
  exact fun only => (only skips).1 (by decide)

end Padlock
