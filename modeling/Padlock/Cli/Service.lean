/-
This file is about the service file from its writer to its reader. The installer
writes it, for one user without a password or for everyone with one; the tool
reads it, line by line through its buffer, to see whether it has to ask for a
password. What the writer means is what the reader takes from it: the tool asks
everyone but the one user the file was written for.
-/

import Padlock.Cli.Tool

namespace Padlock

open Interaction Program

/-! ### The installer -/

section Writing

-- The bytes that the locale of the shell counts as [:alnum:].
variable (alnum : UInt8 → Bool)

/-- `validate_user_name`. -/
def validateUserName (name : List UInt8) : Bool :=
  decide (name ≠ []) && name.all fun byte => alnum byte || decide (byte ∈ ascii "_.@-")

/-- The service file with a password. -/
def pamUnixService : List UInt8 :=
  ascii "auth required pam_unix.so" ++ [newline] ++
    (ascii "account required pam_unix.so" ++ [newline])

/-- `write_pam_service`: what is written to `PAM_SERVICE`; `none` is `exit 1`. -/
def writePamService (authNoPrompt : Bool) (targetUser : CString) : Option (List UInt8) :=
  if authNoPrompt then
    if validateUserName alnum targetUser.bytes then
      some (ascii "auth required pam_succeed_if.so user = " ++ targetUser.bytes ++ [newline])
    else none
  else some pamUnixService

end Writing

/-! ### Reading the file back -/

theorem cString_eq_self {text : List UInt8} (plain : 0 ∉ text) : cString text = text := by
  refine List.takeWhile_eq_self_iff.mpr fun byte member => ?_
  rw [decide_eq_true_eq]
  rintro rfl
  exact plain member

/-- A line that starts and ends with something visible is compared as it is. -/
theorem letPass_iff {expected : List UInt8} {item : UInt8} {rest : List UInt8}
    (plain : 0 ∉ item :: rest) (starts : ¬ isSpace item) (speaks : item ≠ commentMark)
    (ends : ∀ something, ¬ isSpace ((item :: rest).getLast something)) :
    LetPass expected (item :: rest) ↔ item :: rest = expected := by
  have trimmed : Lines.trim isSpace (cString (item :: rest)) = item :: rest := by
    rw [cString_eq_self plain]
    exact Lines.trim_eq_self starts ends
  have rule : IsRule (cString (item :: rest)) := by
    rw [IsRule, trimmed]
    exact ⟨List.cons_ne_nil _ _, fun head => speaks (Option.some.inj head)⟩
  rw [LetPass, trimmed]
  exact ⟨fun passes => passes rule, fun same _ => same⟩

/-! ### A file for one user -/

section OneUser

variable {alnum : UInt8 → Bool} {target : CString}

theorem visible_of_valid (visible : ∀ byte, alnum byte = true → ¬ isSpace byte) {name : List UInt8}
    (valid : validateUserName alnum name = true) :
    name ≠ [] ∧ ∀ byte ∈ name, ¬ isSpace byte := by
  rw [validateUserName, Bool.and_eq_true, decide_eq_true_eq, List.all_eq_true] at valid
  refine ⟨valid.1, fun byte member => ?_⟩
  have special : (ascii "_.@-").all (fun byte => !isSpace byte) = true := by decide
  rcases Bool.or_eq_true_iff.mp (valid.2 byte member) with letter | mark
  · exact visible byte letter
  · have shown := List.all_eq_true.mp special byte (of_decide_eq_true mark)
    rw [Bool.not_eq_true'] at shown
    rw [shown]
    exact Bool.false_ne_true

/-- What stands before the name. -/
theorem length_rulePrefix :
    (ascii "auth required pam_succeed_if.so user = ").length = 39 := by decide

theorem rulePrefix_cons : ∃ rest,
    ascii "auth required pam_succeed_if.so user = " = 0x61 :: rest :=
  ⟨_, rfl⟩

/-- The first part of the rule that the buffer of the reader takes is compared as it is. -/
theorem letPass_rule_iff (something : target.bytes ≠ [])
    (visible : ∀ byte ∈ target.bytes, ¬ isSpace byte) (expected : List UInt8) :
    LetPass expected ((expectedRule target).take lineRoom) ↔
      (expectedRule target).take lineRoom = expected := by
  have room : lineRoom - 39 ≠ 0 := by decide
  have whole : (expectedRule target).take lineRoom =
      ascii "auth required pam_succeed_if.so user = " ++ target.bytes.take (lineRoom - 39) := by
    rw [expectedRule, List.take_append, length_rulePrefix, List.take_of_length_le]
    rw [length_rulePrefix]
    decide
  have plain : 0 ∉ (expectedRule target).take lineRoom := fun member =>
    nul_not_mem_expectedRule target (List.mem_of_mem_take member)
  have named : target.bytes.take (lineRoom - 39) ≠ [] := by
    rw [Ne, List.take_eq_nil_iff, not_or]
    exact ⟨room, something⟩
  obtain ⟨rest, starts⟩ := rulePrefix_cons
  rw [whole, starts, List.cons_append] at plain ⊢
  refine letPass_iff plain (by decide) (by decide) fun nonempty => ?_
  have last : (0x61 :: (rest ++ target.bytes.take (lineRoom - 39))).getLast nonempty =
      (target.bytes.take (lineRoom - 39)).getLast named := by
    simp only [← List.cons_append]
    exact List.getLast_append_of_ne_nil _ named
  rw [last]
  exact visible _ (List.mem_of_mem_take (List.getLast_mem named))

/-- A user is let in by the one rule there is just when it is the user's, and not too long to be
looked for. -/
theorem linesPass_rule_iff (something : target.bytes ≠ [])
    (visible : ∀ byte ∈ target.bytes, ¬ isSpace byte) {user : CString}
    (fits : (expectedRule user).length < expectedSize) :
    linesPass (expectedRule user) (expectedRule target ++ [newline]) = true ↔ user = target := by
  have plain : newline ∉ expectedRule target := by
    rw [expectedRule, List.mem_append, not_or]
    exact ⟨by decide, fun member => visible newline member (by decide)⟩
  have shown : expectedRule target ≠ [] := by
    obtain ⟨rest, starts⟩ := rulePrefix_cons
    rw [expectedRule, starts]
    exact List.cons_ne_nil _ _
  have room : expectedSize ≤ lineRoom := by decide
  have lines : (expectedRule target ++ [newline]).splitOn newline = [expectedRule target, []] := by
    rw [List.splitOn_append_cons_self_of_not_mem plain, List.splitOn_nil]
  have first : LetPass (expectedRule user) ((expectedRule target).take lineRoom) ↔
      (expectedRule target).take lineRoom = expectedRule user :=
    letPass_rule_iff something visible (expectedRule user)
  rw [linesPass_iff_chunks, lines, List.forall_mem_cons, List.forall_mem_singleton,
    Lines.chunks_nil]
  constructor
  · rintro ⟨passes, -⟩
    rw [Lines.chunks_of_long (by decide) shown, List.forall_mem_cons] at passes
    have same := first.mp passes.1
    have length := congrArg List.length same
    rw [List.length_take] at length
    rw [List.take_of_length_le (by omega)] at same
    have bytes : target.bytes = user.bytes := List.append_cancel_left same
    cases user
    cases target
    cases bytes
    rfl
  · rintro rfl
    have whole : (expectedRule user).take lineRoom = expectedRule user :=
      List.take_of_length_le (by omega)
    rw [whole] at first
    rw [Lines.chunks_of_fits shown (by omega), List.forall_mem_singleton]
    exact ⟨first.mpr rfl, fun chunk member => absurd member List.not_mem_nil⟩

end OneUser

/-! ### A file with a password -/

theorem pamUnix_cons : ∃ rest, ascii "auth required pam_unix.so" = 0x61 :: rest := ⟨_, rfl⟩

/-- Nobody is let in without a password. -/
theorem linesPass_pamUnixService (user : CString) :
    linesPass (expectedRule user) pamUnixService ≠ true := by
  have plain : newline ∉ ascii "auth required pam_unix.so" := by decide
  have length : (ascii "auth required pam_unix.so").length = 25 := by decide
  have fits : (ascii "auth required pam_unix.so").length ≤ lineRoom := by
    rw [length]
    decide
  have shown : ascii "auth required pam_unix.so" ≠ [] := by
    intro nothing
    rw [nothing] at length
    cases length
  rw [pamUnixService, List.append_assoc, Ne, linesPass_iff_chunks, List.singleton_append,
    List.splitOn_append_cons_self_of_not_mem plain, List.forall_mem_cons,
    Lines.chunks_of_fits shown fits, List.forall_mem_singleton]
  rintro ⟨passes, -⟩
  have last : (ascii "auth required pam_unix.so").getLast? = some 0x6f := by decide
  have nulFree : 0 ∉ ascii "auth required pam_unix.so" := by decide
  obtain ⟨rest, starts⟩ := pamUnix_cons
  rw [starts] at passes last nulFree length
  have ends (nonempty : 0x61 :: rest ≠ []) : ¬ isSpace ((0x61 :: rest).getLast nonempty) := by
    rw [List.getLast?_eq_some_getLast nonempty] at last
    rw [Option.some.inj last]
    decide
  have same := (letPass_iff nulFree (by decide) (by decide) ends).mp passes
  rw [same, expectedRule, List.length_append, length_rulePrefix] at length
  omega

/-! ### What the tool makes of it -/

/-- An empty name is the default user's. -/
theorem skips_effectiveUser (strerror : Nat → List UInt8) (file : List UInt8) (username : CString) :
    SkipsAuthentication strerror file username ↔
      SkipsAuthentication strerror file (effectiveUser username) := by
  have same : deriveHeaderPassword strerror username =
      deriveHeaderPassword strerror (effectiveUser username) := by
    unfold effectiveUser
    split
    next unnamed =>
      unfold deriveHeaderPassword
      rw [if_pos unnamed]
      rfl
    · rfl
  unfold SkipsAuthentication
  rw [same]

/-- With the file that the installer has written, the tool gets to a header password and asks
nothing of the user just for the user that the file was written for without a password, and only
where that user's rule is not too long to be looked for. -/
theorem installed_service_skips_iff (strerror : Nat → List UInt8) (alnum : UInt8 → Bool)
    (visible : ∀ byte, alnum byte = true → ¬ isSpace byte) (authNoPrompt : Bool) (target : CString)
    (file : List UInt8) (written : writePamService alnum authNoPrompt target = some file)
    (username : CString) :
    SkipsAuthentication strerror file username ↔
      authNoPrompt = true ∧ effectiveUser username = target ∧
        (expectedRule target).length < expectedSize := by
  rw [skips_effectiveUser, skipsAuthentication_iff (effectiveUser_ne_nil username)]
  cases authNoPrompt with
  | false =>
    obtain rfl := Option.some.inj written
    constructor
    · rintro ⟨-, passes⟩
      exact absurd passes (linesPass_pamUnixService _)
    · rintro ⟨noPrompt, -⟩
      cases noPrompt
  | true =>
    rw [writePamService, if_pos rfl] at written
    split at written
    next valid =>
      obtain ⟨something, shown⟩ := visible_of_valid visible valid
      obtain rfl := Option.some.inj written
      constructor
      · rintro ⟨fits, passes⟩
        have same := (linesPass_rule_iff something shown fits).mp passes
        rw [same] at fits
        exact ⟨rfl, same, fits⟩
      · rintro ⟨-, same, fits⟩
        rw [same]
        exact ⟨fits, (linesPass_rule_iff something shown fits).mpr rfl⟩
    · cases written

/-- Small letters, which every locale counts. -/
def sampleAlnum (byte : UInt8) : Bool := decide (0x61 ≤ byte ∧ byte ≤ 0x7a)

theorem sampleAlnum_visible (byte : UInt8) (letter : sampleAlnum byte = true) :
    ¬ isSpace byte := by
  rw [sampleAlnum, decide_eq_true_eq] at letter
  have above : 0x61 ≤ byte.toNat := UInt8.le_iff_toNat_le.mp letter.1
  intro space
  rw [isSpace, decide_eq_true_eq] at space
  rcases space with rfl | ⟨-, below⟩
  · exact absurd above (by decide)
  · have low : byte.toNat ≤ 0x0d := UInt8.le_iff_toNat_le.mp below
    omega

theorem sampleUser_written :
    writePamService sampleAlnum true sampleUser = some (expectedRule sampleUser ++ [newline]) :=
  if_pos (by decide)

/-- The user with a one-letter name is let in by the file for that name. -/
theorem installed_service_skips_sample :
    SkipsAuthentication (fun _ => []) (expectedRule sampleUser ++ [newline]) sampleUser :=
  (installed_service_skips_iff (fun _ => []) sampleAlnum sampleAlnum_visible true sampleUser _
    sampleUser_written sampleUser).mpr ⟨rfl, rfl, by decide⟩

end Padlock
