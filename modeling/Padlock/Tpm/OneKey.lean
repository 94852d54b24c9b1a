/-
This file is about runs of calls for the helper key, from any two files and with
any step of any call failing: once a call has delivered a key, both files are
there, a call that finds both of them does not write, and so every later key is
read from the same files. Before the first key is delivered the files may be
made and left in any state.
-/

import Padlock.Tpm.StandIn

namespace Padlock

section Runs

variable {Public Private : Type}

/-- The outcomes of a call on these files when a file is readable exactly if it is there. -/
def Outcomes.onReadable (outcomes : Outcomes Public Private) (files : BlobFiles) :
    Outcomes Public Private :=
  { outcomes with access := ⟨files.publicBlob.isSome, files.privateBlob.isSome⟩ }

/-- One call, as a step of a run. -/
def ensureStep (tpm : Tpm Public Private) (files : BlobFiles)
    (outcomes : Outcomes Public Private) : Option (Bytes padlockTpmKeySize) × BlobFiles :=
  padlockTpmEnsureSealedKey tpm (outcomes.onReadable files) files

variable {tpm : Tpm Public Private} {files : BlobFiles} {key : Bytes padlockTpmKeySize}

/-- Files that hold a key stay as they are. -/
theorem ensureStep_of_holds (holds : files.Holds tpm key) (outcomes : Outcomes Public Private) :
    (ensureStep tpm files outcomes).2 = files := by
  obtain ⟨publicFile, privateFile, -, -, -, rfl, -⟩ := holds
  have nothing : (outcomes.onReadable ⟨some publicFile, some privateFile⟩).created = none := by
    simp [Outcomes.created, Outcomes.onReadable]
  rcases ensureSealedKey_of_not_created nothing with result | result
  · exact congrArg Prod.snd result
  · exact congrArg Prod.snd result

/-- On files that hold a key, no other is delivered. -/
theorem delivered_of_holds (holds : files.Holds tpm key) (calls : List (Outcomes Public Private)) :
    ∀ delivered ∈ (Machine.run (ensureStep tpm) files calls).1,
      ∀ other, delivered = some other → other = key := by
  have steps : ∀ state outcomes, BlobFiles.Holds tpm state key →
      (∀ other, (ensureStep tpm state outcomes).1 = some other → other = key) ∧
        BlobFiles.Holds tpm (ensureStep tpm state outcomes).2 key := by
    intro state outcomes held
    have same := ensureStep_of_holds held outcomes
    refine ⟨fun other delivered => ?_, same.symm ▸ held⟩
    have again : (ensureStep tpm state outcomes).2.Holds tpm other := holds_of_delivered delivered
    rw [same] at again
    exact again.unique held
  exact Machine.forall_run (ensureStep tpm) steps holds calls

/-- Whatever the files are at first and whatever fails in the calls, any two keys delivered in
one run are the same key. -/
theorem delivered_keys_agree (tpm : Tpm Public Private) (files : BlobFiles)
    (calls : List (Outcomes Public Private)) (first second : Bytes padlockTpmKeySize)
    (firstDelivered : some first ∈ (Machine.run (ensureStep tpm) files calls).1)
    (secondDelivered : some second ∈ (Machine.run (ensureStep tpm) files calls).1) :
    first = second := by
  induction calls generalizing files with
  | nil => exact absurd firstDelivered List.not_mem_nil
  | cons outcomes rest inductionHypothesis =>
    rw [Machine.run, List.mem_cons] at firstDelivered secondDelivered
    rcases result : (ensureStep tpm files outcomes).1 with _ | key
    · rw [result] at firstDelivered secondDelivered
      exact inductionHypothesis _ (firstDelivered.resolve_left (Option.some_ne_none _))
        (secondDelivered.resolve_left (Option.some_ne_none _))
    · -- The first key of the run: everything after it is read from the same files.
      rw [result] at firstDelivered secondDelivered
      have later := delivered_of_holds (holds_of_delivered result) rest
      have isKey : ∀ other, some other = some key ∨
          some other ∈ (Machine.run (ensureStep tpm) (ensureStep tpm files outcomes).2 rest).1 →
            other = key := by
        rintro other (here | after)
        · exact Option.some.inj here
        · exact later _ after other rfl
      rw [isKey first firstDelivered, isKey second secondDelivered]

end Runs

/-! ### A run -/

/-- A file operation in which nothing fails. -/
def smoothWriting : Writing := ⟨true, 4096, 4096⟩

def smoothReading : Reading := ⟨true, true, true, true, true⟩

def smoothConnecting : Connecting := ⟨true, true, true⟩

def smoothUnsealing : Unsealing :=
  ⟨⟨true, true⟩, ⟨true, true⟩, smoothReading, smoothReading, true, true, true, true, true, true⟩

/-- Creation with this serial number, in which nothing fails. -/
def smoothCreating (serial : UInt8) : Creating UInt8 StandInPrivate :=
  ⟨true, true, true, fun secret => some (serial, ⟨serial, secret⟩), ⟨true, true⟩, smoothWriting,
    smoothWriting⟩

/-- 32 times the same byte. -/
def uniformKey (byte : UInt8) : Bytes padlockTpmKeySize :=
  ⟨List.replicate padlockTpmKeySize byte, List.length_replicate⟩

/-- A call in which nothing fails, on files that are not there. The byte is the serial number of
the object it makes and fills the key it draws. -/
def smoothOutcomes (byte : UInt8) : Outcomes UInt8 StandInPrivate :=
  ⟨true, true, ⟨false, false⟩, some (uniformKey byte), smoothConnecting, smoothCreating byte,
    smoothConnecting, smoothUnsealing⟩

/-- Three calls: in the first one the private file does not open for writing, and it leaves an
empty public file; in the others nothing fails. -/
def sampleCalls : List (Outcomes UInt8 StandInPrivate) :=
  [{ smoothOutcomes 1 with creating := { smoothCreating 1 with opens := ⟨true, false⟩ } },
    smoothOutcomes 2, smoothOutcomes 3]

/-- The second call creates the pair, and the third, which would draw another key, delivers the
same. -/
theorem delivered_keys_agree_sample :
    ∃ third, (Machine.run (ensureStep standInTpm) BlobFiles.absent sampleCalls).1 =
        [none, some (uniformKey 2), some third] ∧ uniformKey 2 = third := by
  have ran : (Machine.run (ensureStep standInTpm) BlobFiles.absent sampleCalls).1 =
      [none, some (uniformKey 2), some (uniformKey 2)] := by
    decide
  refine ⟨uniformKey 2, ran,
    delivered_keys_agree standInTpm BlobFiles.absent sampleCalls _ _ ?_ ?_⟩
  · rw [ran]
    exact List.mem_cons_of_mem _ List.mem_cons_self
  · rw [ran]
    exact List.mem_cons_of_mem _ (List.mem_cons_of_mem _ List.mem_cons_self)

end Padlock
