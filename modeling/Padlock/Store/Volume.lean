/-
This file is about a disk with many stores. A store call opens the file at its
path, so its requests go to that file alone; a call on a path without a file
fails before it asks anything else. A disk so stands for a vault: for each path
a size and a log, or nothing. What a library call does to the disk is what it
does to one log of the vault.
-/

import Padlock.Store.AllOrNothing
import Padlock.Store.Holdings
import Padlock.Store.Log

namespace Padlock

open Interaction KeyValueLog

/-! ### Store calls on a disk -/

/-- Streams on a disk where nothing fails but the opening of a file that is not there. A file is
known by how its path is spelled, so this is a disk on which no two of the paths in use lead to one
file. -/
def serveDisk : Server Request Response Disk
  | .fopen path _, disk =>
    match disk.files path with
    | some _ => (true, { disk with stream := some (path, 0) })
    | none => (false, disk)
  | .fclose, disk => (true, { disk with stream := none })
  | .seekRead offset count, disk =>
    match disk.stream.bind fun place => disk.files place.1 with
    | some file => (Span.read offset count file.bytes, disk)
    | none => ([], disk)
  | .seekWrite offset data, disk =>
    match disk.stream with
    | some (path, position) =>
      match disk.files path with
      | some file =>
        let (written, next) := serveFile (.write offset data) file
        (written, { files := Function.update disk.files path (some next)
                    stream := some (path, position) })
      | none => (0, disk)
    | none => (0, disk)
  | .malloc _, disk => (true, disk)
  | .free _, disk => ((), disk)

/-- Streams on one file, when nothing fails. -/
def serveStdio : Server Request Response File
  | .fopen _ _, file => (true, file)
  | .fclose, file => (true, file)
  | .seekRead offset count, file => serveFile (.read offset count) file
  | .seekWrite offset data, file => serveFile (.write offset data) file
  | .malloc _, file => (true, file)
  | .free _, file => ((), file)

theorem runOn_eq_run {Result : Type} (program : Stdio Result) (file : File) :
    runOn program file = program.run serveStdio file := by
  induction program generalizing file with
  | done result => rfl
  | ask asked next inductionHypothesis =>
    cases asked <;> exact inductionHypothesis _ _
  | wrong => rfl

section OneFile

variable {Result : Type} {path : CString} {before : CString → Option File}

/-- A disk on which the file at a path is this one, and its stream is open if the account says
so. -/
structure Disk.At (path : CString) (before : CString → Option File) (held : Holdings) (file : File)
    (disk : Disk) : Prop where
  files : disk.files = Function.update before path (some file)
  stream : held.stream ≠ none → ∃ position, disk.stream = some (path, position)

theorem Disk.At.file {held : Holdings} {file : File} {disk : Disk}
    (present : disk.At path before held file) : disk.files path = some file := by
  rw [present.files, Function.update_self]

/-- As long as the account allows what is asked, the disk answers as the one file does. -/
theorem Disk.At.step (asked : Request) {held later : Holdings} {file : File} {disk : Disk}
    (present : disk.At path before held file)
    (noted : account (some path) asked (serveStdio asked file).1 held = some later) :
    (serveStdio asked file).1 = (serveDisk asked disk).1 ∧
      (serveDisk asked disk).2.At path before later (serveStdio asked file).2 := by
  cases asked with
  | fopen asked inMode =>
    obtain ⟨⟨-, same⟩, ⟨⟩⟩ := Option.ite_none_right_eq_some.mp noted
    obtain rfl : asked = path := Option.some.inj same
    simp only [serveDisk, serveStdio, present.file]
    exact ⟨trivial, present.files, fun _ => ⟨0, rfl⟩⟩
  | fclose =>
    obtain ⟨-, ⟨⟩⟩ := Option.ite_none_right_eq_some.mp noted
    exact ⟨rfl, present.files, fun opened => absurd rfl opened⟩
  | seekRead offset count =>
    obtain ⟨opened, ⟨⟩⟩ := Option.ite_none_right_eq_some.mp noted
    obtain ⟨position, stream⟩ := present.stream opened
    simp only [serveDisk, serveStdio, serveFile, stream, Option.bind_some, present.file]
    exact ⟨trivial, present⟩
  | seekWrite offset data =>
    obtain ⟨opened, ⟨⟩⟩ := Option.ite_none_right_eq_some.mp noted
    obtain ⟨position, stream⟩ := present.stream (by rw [opened]; exact Option.some_ne_none _)
    simp only [serveDisk, serveStdio, stream, present.file]
    refine ⟨trivial, ?_, fun _ => ⟨position, rfl⟩⟩
    show Function.update disk.files path _ = _
    rw [present.files, Function.update_idem]
  | malloc size =>
    obtain rfl := Option.some.inj noted
    exact ⟨rfl, present.files, present.stream⟩
  | free block =>
    obtain ⟨-, ⟨⟩⟩ := Option.ite_none_right_eq_some.mp noted
    exact ⟨rfl, present.files, present.stream⟩

/-- A call that keeps to its account does to a disk what it does to the file at its path, and leaves
the other files alone. -/
theorem run_serveDisk {program : Stdio Result} {suits : Result → Holdings → Prop}
    (obeys : program.Obeys (account (some path)) Holdings.none suits) {disk : Disk}
    {file final : File} {result : Result} (held : disk.files path = some file)
    (ran : runOn program file = some (result, final)) :
    ∃ after, program.run serveDisk disk = some (result, after) ∧
      after.files = Function.update disk.files path (some final) := by
  have start : disk.At path disk.files Holdings.none file :=
    ⟨by rw [← held, Function.update_eq_self], fun opened => absurd rfl opened⟩
  rw [runOn_eq_run] at ran
  obtain ⟨last, after, ranDisk, -, present⟩ := obeys.run_alike
    (fun asked note later file disk present noted => present.step asked noted) start ran
  exact ⟨after, ranDisk, present.files⟩

end OneFile

/-! ### The vault -/

/-- For each path the size and the log of its store, if there is one. -/
abbrev Vault := CString → Option (Nat × List Entry)

/-- What a call returns where there is no store. -/
def Call.refusal : Call → Output
  | .set _ _ => .set (-1)
  | .get _ => .get none

/-- A call on the store at a path. -/
def Vault.call (vault : Vault) (path : CString) (call : Call) : Output × Vault :=
  match vault path with
  | none => (call.refusal, vault)
  | some (size, log) =>
    ((logStep size log call).1,
      Function.update vault path (some (size, (logStep size log call).2)))

/-- A disk holds the stores of a vault, all under one password, at the places of interest. Other
places may hold anything. -/
structure Represents (ssl : OpenSsl) (password : CString) (places : Set CString) (disk : Disk)
    (vault : Vault) : Prop where
  missing : ∀ path ∈ places, vault path = none → disk.files path = none
  stored : ∀ path ∈ places, ∀ size log, vault path = some (size, log) →
    ∃ file, disk.files path = some file ∧ Stored ssl password size file log

section Vault

variable {ssl : OpenSsl} {path password : CString} {places : Set CString} {disk after : Disk}
  {vault : Vault}

/-- A store put at one place. -/
theorem Represents.update (represents : Represents ssl password places disk vault) {size : Nat}
    {log : List Entry} {file : File} (held : after.files path = some file)
    (others : ∀ other, other ≠ path → after.files other = disk.files other)
    (stored : Stored ssl password size file log) :
    Represents ssl password places after (Function.update vault path (some (size, log))) := by
  constructor
  · intro place member empty
    by_cases same : place = path
    · rw [same, Function.update_self] at empty
      cases empty
    · rw [Function.update_of_ne same] at empty
      rw [others place same]
      exact represents.missing place member empty
  · intro place member otherSize otherLog present
    by_cases same : place = path
    · subst same
      rw [Function.update_self] at present
      cases present
      exact ⟨file, held, stored⟩
    · rw [Function.update_of_ne same] at present
      rw [others place same]
      exact represents.stored place member otherSize otherLog present

/-- A disk with the same files holds the same stores. -/
theorem Represents.same (represents : Represents ssl password places disk vault)
    (files : after.files = disk.files) : Represents ssl password places after vault := by
  constructor
  · rw [files]
    exact represents.missing
  · rw [files]
    exact represents.stored

/-- Where there is no file a call ends as soon as it cannot open it. -/
theorem run_call_missing (call : Call) (missing : disk.files path = none) :
    (call.program ssl path password).run serveDisk disk = some (call.refusal, disk) := by
  have unopened (mode : OpenMode) : serveDisk (.fopen path mode) disk = (false, disk) := by
    rw [serveDisk, missing]
  cases call with
  | set key value =>
    rw [Call.program, Program.run_bind]
    unfold callSet padlockSet
    dsimp only
    split
    · rfl
    · rw [Program.request_bind, Program.run_ask, unopened]
      rfl
  | get key =>
    rw [Call.program, Program.run_bind]
    unfold callGet padlockGet
    dsimp only
    rw [if_neg (by decide), Program.request_bind, Program.run_ask, unopened]
    rfl

/-- A call on a disk does what it does on the vault. -/
theorem Represents.call (lawful : ssl.Lawful)
    (represents : Represents ssl password places disk vault) (member : path ∈ places) (call : Call)
    (small : call.Small) :
    ∃ after, (call.program ssl path password).run serveDisk disk =
        some ((vault.call path call).1, after) ∧
      Represents ssl password places after (vault.call path call).2 := by
  unfold Vault.call
  cases known : vault path with
  | none =>
    exact ⟨disk, run_call_missing call (represents.missing path member known), represents⟩
  | some store =>
    obtain ⟨size, log⟩ := store
    obtain ⟨file, held, stored⟩ := represents.stored path member size log known
    obtain ⟨final, ran, grown⟩ := stored.step lawful call small
    obtain ⟨after, ranDisk, files⟩ := run_serveDisk (obeys_call ssl path password rfl call) held ran
    refine ⟨after, ranDisk, represents.update ?_ (fun other different => ?_) grown⟩
    · rw [files, Function.update_self]
    · rw [files, Function.update_of_ne different]

/-- An allocation changes nothing, or puts an empty store at its path. -/
theorem Represents.allocate (cbc : ssl.CbcInverts)
    (represents : Represents ssl password places disk vault) {size : UInt64} {result : Int}
    (execution : Program.Exec answersRemoving
      (padlockAllocate ssl (some path) size (some password)) disk result after) :
    (result = -1 ∧ Represents ssl password places after vault) ∨
      (result = 0 ∧ 8192 ≤ size.toNat ∧ Represents ssl password places after
        (Function.update vault path (some (size.toNat, [])))) := by
  obtain ⟨rfl, rfl⟩ | ⟨temporary, finish, left, enough, free, filling, cleaning, rfl⟩ :=
    exec_padlockAllocate (fun _ _ _ _ answered => answers_of_removing answered) execution
  · exact .inl ⟨rfl, represents⟩
  obtain ⟨failed, beside⟩ | ⟨returned, others⟩ := ensures_allocateStore ssl path size password free
    (.created disk temporary) finish left filling
  · exact .inl ⟨failed,
      represents.same (ensures_allocateCleanUp failed free beside () after cleaning)⟩
  · obtain ⟨noFile, noFd, file, held, fresh⟩ :=
      exec_allocateStore cbc enough (.created disk temporary) filling returned
    obtain rfl := exec_allocateCleanUp noFile noFd returned cleaning
    obtain ⟨header, rest, xtsKey, layout, secret⟩ := fresh.store
    exact .inr ⟨returned, enough,
      represents.update held others ⟨header, [], rest, xtsKey, layout, secret, .nil _⟩⟩

end Vault

end Padlock
