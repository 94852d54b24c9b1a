/-
This file asks what a failed call for the helper key leaves behind, when it finds
no files or a complete pair. It should leave what it found, or the whole of the
pair it made; a call in which nothing fails would then succeed.

It does so exactly when it does not get as far as opening the files for writing,
or neither file opens, or both open and both parts of the new pair reach them in
full, and then either there was nothing to lose or nothing fails after that.
Opening the files empties them before anything is written, the two are written
one after the other, and what is lost when they are closed is not noticed.
-/

import Padlock.Tpm.OneKey

namespace Padlock

section Failing

variable {Object Public Private : Type}

/-! ### What should be left -/

/-- The promises about the marshalling of both parts. -/
structure Tpm.Lawful (tpm : Tpm Public Private) : Prop where
  publicArea : tpm.publicArea.Lawful
  privateArea : tpm.privateArea.Lawful

/-- What the TPM creates from a secret unseals to it. -/
def Outcomes.Seals (tpm : Tpm Public Private) (outcomes : Outcomes Public Private) : Prop :=
  ∀ secret outPublic outPrivate, outcomes.creating.create secret = some (outPublic, outPrivate) →
    tpm.unsealPair outPublic outPrivate = some secret.toList

/-- The files hold a complete pair. -/
def BlobFiles.Complete (tpm : Tpm Public Private) (files : BlobFiles) : Prop :=
  ∃ key, files.Holds tpm key

/-- The files are the whole of the pair that this call created. -/
def BlobFiles.CreatedBy (tpm : Tpm Public Private) (outcomes : Outcomes Public Private)
    (files : BlobFiles) : Prop :=
  ∃ outPublic outPrivate publicFile privateFile,
    outcomes.created = some (outPublic, outPrivate) ∧
      tpm.publicArea.marshal outPublic = some publicFile ∧
      tpm.privateArea.marshal outPrivate = some privateFile ∧
      files = ⟨some publicFile, some privateFile⟩

/-- A blob of these bytes is written and reaches its file in full. -/
structure Writing.Lands (writing : Writing) (bytes : List UInt8) : Prop where
  allocated : writing.allocated = true
  accepted : bytes.length ≤ writing.accepted
  kept : bytes.length ≤ writing.kept

/-- Both files open for writing, and both parts of the pair reach them in full. -/
structure Creating.Lands (tpm : Tpm Public Private) (steps : Creating Public Private)
    (outPublic : Public) (outPrivate : Private) (publicFile privateFile : List UInt8) :
    Prop where
  opens : steps.opens = ⟨true, true⟩
  publicWritten : tpm.publicArea.marshal outPublic = some publicFile
  privateWritten : tpm.privateArea.marshal outPrivate = some privateFile
  publicLands : steps.publicWrite.Lands publicFile
  allocated : steps.privateWrite.allocated = true
  kept : privateFile.length ≤ steps.privateWrite.kept

/-- Nothing fails in creating a pair. -/
def Outcomes.NoneFailsCreating (tpm : Tpm Public Private) (outcomes : Outcomes Public Private) :
    Prop :=
  padlockTpmConnect outcomes.connectToCreate = true ∧
    ∃ outPublic outPrivate publicFile privateFile,
      outcomes.randomKey.bind outcomes.creating.made = some (outPublic, outPrivate) ∧
        outcomes.creating.Lands tpm outPublic outPrivate publicFile privateFile ∧
        privateFile.length ≤ outcomes.creating.privateWrite.accepted

/-- Nothing fails in a call on these files. -/
structure Outcomes.NoneFails (tpm : Tpm Public Private) (outcomes : Outcomes Public Private)
    (files : BlobFiles) : Prop where
  paths : outcomes.paths = true
  directory : outcomes.directory = true
  access : outcomes.access = ⟨files.publicBlob.isSome, files.privateBlob.isSome⟩
  creating : (!outcomes.access.publicBlob || !outcomes.access.privateBlob) = true →
    outcomes.NoneFailsCreating tpm
  connected : padlockTpmConnect outcomes.connectToUnseal = true
  unsealing : outcomes.unsealing.NoneFails

/-- What a failed call should leave: a complete pair that was there before, unchanged; of no
files, no files or the whole of one new pair; and files on which a call succeeds when nothing
fails in it. -/
structure KeepsSealed (tpm : Tpm Public Private) (outcomes : Outcomes Public Private)
    (before after : BlobFiles) : Prop where
  unchanged : before.Complete tpm → after = before
  whole : before = BlobFiles.absent → after = BlobFiles.absent ∨ after.CreatedBy tpm outcomes
  again : ∀ later : Outcomes Public Private, later.NoneFails tpm after → later.Seals tpm →
    (padlockTpmEnsureSealedKey tpm later after).1.isSome = true

/-! ### Writing one blob -/

section Blob

variable {marshaller : Marshaller Object} {writing : Writing} {blob : Object} {bytes : List UInt8}

theorem writeBlob_file (written : marshaller.marshal blob = some bytes)
    (allocated : writing.allocated = true) (kept : bytes.length ≤ writing.kept) :
    (padlockTpmWriteBlob marshaller writing blob).2 = bytes := by
  simp [padlockTpmWriteBlob, allocated, written, List.take_of_length_le kept]

theorem writeBlob_reports (written : marshaller.marshal blob = some bytes)
    (allocated : writing.allocated = true) :
    (padlockTpmWriteBlob marshaller writing blob).1 = true ↔ bytes.length ≤ writing.accepted := by
  simp [padlockTpmWriteBlob, allocated, written]

/-- A file that was written and holds an object holds all that was to be written. -/
theorem lands_of_holds (lawful : marshaller.Lawful) {other : Object}
    (holds : marshaller.Holds (padlockTpmWriteBlob marshaller writing blob).2 other) :
    ∃ bytes, marshaller.marshal blob = some bytes ∧ writing.allocated = true ∧
      bytes.length ≤ writing.kept := by
  unfold padlockTpmWriteBlob at holds
  split at holds
  case isTrue => exact absurd rfl holds.shown
  case isFalse allocated =>
    split at holds
    case h_1 => exact absurd rfl holds.shown
    case h_2 bytes written =>
      refine ⟨bytes, written, by simpa using allocated, ?_⟩
      exact Nat.not_lt.mp fun short => lawful.refuses blob bytes _ other written short holds

end Blob

/-! ### Writing the pair -/

section Pair

variable {tpm : Tpm Public Private} {outcomes : Outcomes Public Private}
  {steps : Creating Public Private} {outPublic : Public} {outPrivate : Private}
  {files : BlobFiles} {publicFile privateFile : List UInt8}

/-- Both files, once both parts of the pair have reached them. -/
theorem Creating.Lands.filesAfter
    (lands : steps.Lands tpm outPublic outPrivate publicFile privateFile) :
    (writeSealedPair tpm steps outPublic outPrivate files).2 =
      ⟨some publicFile, some privateFile⟩ := by
  have reports := (writeBlob_reports lands.publicWritten lands.publicLands.allocated).mpr
    lands.publicLands.accepted
  have publicKept := writeBlob_file lands.publicWritten lands.publicLands.allocated
    lands.publicLands.kept
  have privateKept := writeBlob_file lands.privateWritten lands.allocated lands.kept
  simp [writeSealedPair, lands.opens, reports, publicKept, privateKept]

theorem Creating.Lands.reports
    (lands : steps.Lands tpm outPublic outPrivate publicFile privateFile) :
    (writeSealedPair tpm steps outPublic outPrivate files).1 = true ↔
      privateFile.length ≤ steps.privateWrite.accepted := by
  have reports := (writeBlob_reports lands.publicWritten lands.publicLands.allocated).mpr
    lands.publicLands.accepted
  rw [← writeBlob_reports lands.privateWritten lands.allocated]
  simp [writeSealedPair, lands.opens, reports]

/-- Files that did not open are what they were. -/
theorem writeSealedPair_unopened (opens : steps.opens = ⟨false, false⟩) :
    writeSealedPair tpm steps outPublic outPrivate files = (false, files) := by
  simp [writeSealedPair, opens, openForWriting]

/-- Each file is one whole object, whether or not the two belong together. -/
def BlobFiles.Whole (tpm : Tpm Public Private) (files : BlobFiles) : Prop :=
  ∃ publicFile privateFile sealPublic sealPrivate, files = ⟨some publicFile, some privateFile⟩ ∧
    tpm.publicArea.Holds publicFile sealPublic ∧ tpm.privateArea.Holds privateFile sealPrivate

theorem BlobFiles.Holds.whole {key : Bytes padlockTpmKeySize} (holds : files.Holds tpm key) :
    files.Whole tpm := by
  obtain ⟨publicFile, privateFile, sealPublic, sealPrivate, -, same, holdsPublic, holdsPrivate,
    -⟩ := holds
  exact ⟨publicFile, privateFile, sealPublic, sealPrivate, same, holdsPublic, holdsPrivate⟩

theorem BlobFiles.CreatedBy.whole (lawful : tpm.Lawful) (created : files.CreatedBy tpm outcomes) :
    files.Whole tpm := by
  obtain ⟨outPublic, outPrivate, publicFile, privateFile, -, publicWritten, privateWritten,
    same⟩ := created
  exact ⟨publicFile, privateFile, outPublic, outPrivate, same,
    lawful.publicArea.holds _ _ publicWritten, lawful.privateArea.holds _ _ privateWritten⟩

/-- The files are whole after the writes only if they did not open, or all was written. -/
theorem lands_of_whole (lawful : tpm.Lawful)
    (whole : (writeSealedPair tpm steps outPublic outPrivate files).2.Whole tpm) :
    steps.opens = ⟨false, false⟩ ∨
      ∃ publicFile privateFile,
        steps.Lands tpm outPublic outPrivate publicFile privateFile := by
  obtain ⟨publicFile, privateFile, sealPublic, sealPrivate, same, holdsPublic, holdsPrivate⟩ :=
    whole
  have publicShown : publicFile ≠ [] := fun empty => holdsPublic.shown (by rw [empty]; rfl)
  have privateShown : privateFile ≠ [] := fun empty => holdsPrivate.shown (by rw [empty]; rfl)
  rcases opens : steps.opens with ⟨_ | _, _ | _⟩
  · exact .inl rfl
  · -- Only the private file opened, and is empty.
    obtain ⟨-, empty⟩ : files.publicBlob = some publicFile ∧ privateFile = [] := by
      simpa [writeSealedPair, opens, openForWriting] using same
    exact absurd empty privateShown
  · obtain ⟨empty, -⟩ : publicFile = [] ∧ files.privateBlob = some privateFile := by
      simpa [writeSealedPair, opens, openForWriting] using same
    exact absurd empty publicShown
  · rcases reports : (padlockTpmWriteBlob tpm.publicArea steps.publicWrite outPublic).1
    · -- The public part failed, and the private file stays empty.
      obtain ⟨-, empty⟩ : (padlockTpmWriteBlob tpm.publicArea steps.publicWrite outPublic).2 =
          publicFile ∧ privateFile = [] := by
        simpa [writeSealedPair, opens, reports] using same
      exact absurd empty privateShown
    · obtain ⟨rfl, rfl⟩ : (padlockTpmWriteBlob tpm.publicArea steps.publicWrite outPublic).2 =
          publicFile ∧
          (padlockTpmWriteBlob tpm.privateArea steps.privateWrite outPrivate).2 = privateFile := by
        simpa [writeSealedPair, opens, reports] using same
      obtain ⟨publicBytes, publicWritten, publicAllocated, publicKept⟩ :=
        lands_of_holds lawful.publicArea holdsPublic
      obtain ⟨privateBytes, privateWritten, privateAllocated, privateKept⟩ :=
        lands_of_holds lawful.privateArea holdsPrivate
      have accepted := (writeBlob_reports publicWritten publicAllocated).mp reports
      exact .inr ⟨publicBytes, privateBytes, opens, publicWritten, privateWritten,
        ⟨publicAllocated, accepted, publicKept⟩, privateAllocated, privateKept⟩

/-- The pair that a call creates holds the key it drew. -/
theorem Creating.Lands.holds (lawful : tpm.Lawful) (sealing : outcomes.Seals tpm)
    (created : outcomes.randomKey.bind outcomes.creating.made = some (outPublic, outPrivate))
    (lands : outcomes.creating.Lands tpm outPublic outPrivate publicFile privateFile) :
    ∃ key, BlobFiles.Holds tpm ⟨some publicFile, some privateFile⟩ key := by
  obtain ⟨randomKey, drawn, made⟩ := Option.bind_eq_some_iff.mp created
  unfold Creating.made at made
  split_ifs at made
  have long : padlockTpmKeySize ≤ randomKey.toList.length := randomKey.lengthEq.ge
  exact ⟨_, publicFile, privateFile, outPublic, outPrivate, randomKey.toList, rfl,
    lawful.publicArea.holds _ _ lands.publicWritten,
    lawful.privateArea.holds _ _ lands.privateWritten, sealing _ _ _ made, dif_pos long⟩

theorem Outcomes.made_of_created (created : outcomes.created = some (outPublic, outPrivate)) :
    outcomes.randomKey.bind outcomes.creating.made = some (outPublic, outPrivate) := by
  unfold Outcomes.created at created
  split_ifs at created
  exact created

/-- A call in which nothing fails delivers a key, from no files and from a complete pair. -/
theorem delivers_of_noneFails (lawful : tpm.Lawful)
    (start : files = BlobFiles.absent ∨ files.Complete tpm) (sealing : outcomes.Seals tpm)
    (smooth : outcomes.NoneFails tpm files) :
    (padlockTpmEnsureSealedKey tpm outcomes files).1.isSome = true := by
  rcases start with rfl | ⟨key, holds⟩
  · -- There is nothing to read: the pair is created.
    have unreadable : (!outcomes.access.publicBlob || !outcomes.access.privateBlob) = true := by
      rw [smooth.access]
      rfl
    obtain ⟨connected, outPublic, outPrivate, publicFile, privateFile, made, lands, accepted⟩ :=
      smooth.creating unreadable
    have created : outcomes.created = some (outPublic, outPrivate) := by
      rw [Outcomes.created, if_pos ⟨smooth.paths, smooth.directory, unreadable, connected⟩, made]
    obtain ⟨key, holds⟩ := lands.holds lawful sealing made
    rw [ensureSealedKey_of_created created, if_pos (lands.reports.mpr accepted), lands.filesAfter,
      unsealKey_eq_some.mpr ⟨smooth.connected, smooth.unsealing, holds⟩]
    rfl
  · have access : outcomes.access = ⟨true, true⟩ := by
      obtain ⟨publicFile, privateFile, -, -, -, rfl, -⟩ := holds
      exact smooth.access
    rw [ensureSealedKey_of_access smooth.paths smooth.directory access,
      unsealKey_eq_some.mpr ⟨smooth.connected, smooth.unsealing, holds⟩]
    rfl

end Pair

/-! ### What is left -/

section Left

variable {tpm : Tpm Public Private} {outcomes : Outcomes Public Private} {files : BlobFiles}

theorem BlobFiles.not_complete_absent : ¬ BlobFiles.absent.Complete tpm := by
  rintro ⟨key, publicFile, privateFile, -, -, -, same, -⟩
  cases same

theorem keepsSealed_of_same (lawful : tpm.Lawful)
    (start : files = BlobFiles.absent ∨ files.Complete tpm) :
    KeepsSealed tpm outcomes files files where
  unchanged _ := rfl
  whole absent := .inl absent
  again _ smooth sealing := delivers_of_noneFails lawful start sealing smooth

theorem keepsSealed_of_created {publicFile privateFile : List UInt8} {outPublic : Public}
    {outPrivate : Private} (lawful : tpm.Lawful) (sealing : outcomes.Seals tpm)
    (created : outcomes.created = some (outPublic, outPrivate))
    (lands : outcomes.creating.Lands tpm outPublic outPrivate publicFile privateFile) :
    KeepsSealed tpm outcomes BlobFiles.absent ⟨some publicFile, some privateFile⟩ where
  unchanged complete := absurd complete BlobFiles.not_complete_absent
  whole _ := .inr ⟨outPublic, outPrivate, publicFile, privateFile, created, lands.publicWritten,
    lands.privateWritten, rfl⟩
  again _ smooth laterSealing :=
    delivers_of_noneFails lawful
      (.inr (lands.holds lawful sealing (Outcomes.made_of_created created))) laterSealing smooth

/-- Files that a call got to write are absent afterwards only if they did not open. -/
theorem unopened_of_absent {steps : Creating Public Private} {outPublic : Public}
    {outPrivate : Private}
    (absent : (writeSealedPair tpm steps outPublic outPrivate files).2 = BlobFiles.absent) :
    steps.opens = ⟨false, false⟩ := by
  rcases opens : steps.opens with ⟨_ | _, _ | _⟩
  · rfl
  · simp [writeSealedPair, opens, openForWriting, BlobFiles.absent] at absent
  · simp [writeSealedPair, opens, openForWriting, BlobFiles.absent] at absent
  · rcases reports : (padlockTpmWriteBlob tpm.publicArea steps.publicWrite outPublic).1 <;>
      simp [writeSealedPair, opens, reports, BlobFiles.absent] at absent

/-- A call that writes a pair and, if it fails, leaves what it should, does not open the files or
writes all of the pair, over nothing or over itself where it then fails. -/
theorem lands_of_keeps (lawful : tpm.Lawful)
    (start : files = BlobFiles.absent ∨ files.Complete tpm) {outPublic : Public}
    {outPrivate : Private} {written : Bool × BlobFiles}
    (wrote : written = writeSealedPair tpm outcomes.creating outPublic outPrivate files)
    (keeps : (if written.1 then unsealKey tpm outcomes written.2 else none) = none →
      KeepsSealed tpm outcomes files written.2) :
    outcomes.creating.opens = ⟨false, false⟩ ∨
      ∃ publicFile privateFile,
        outcomes.creating.Lands tpm outPublic outPrivate publicFile privateFile ∧
        (files = BlobFiles.absent ∨ files = ⟨some publicFile, some privateFile⟩ ∨
          privateFile.length ≤ outcomes.creating.privateWrite.accepted ∧
            padlockTpmConnect outcomes.connectToUnseal = true ∧
            outcomes.unsealing.NoneFails) := by
  have writes : written.2.Whole tpm → _ := fun whole => lands_of_whole lawful (wrote ▸ whole)
  rcases result : (if written.1 then unsealKey tpm outcomes written.2 else none) with _ | key
  · have left := keeps result
    rcases start with absent | complete
    · rcases left.whole absent with stays | made
      · exact .inl (unopened_of_absent (wrote ▸ stays))
      · refine (writes (made.whole lawful)).imp_right ?_
        rintro ⟨publicFile, privateFile, lands⟩
        exact ⟨publicFile, privateFile, lands, .inl absent⟩
    · have same := left.unchanged complete
      obtain ⟨key, holds⟩ := complete
      refine (writes (same.symm ▸ holds.whole)).imp_right ?_
      rintro ⟨publicFile, privateFile, lands⟩
      rw [wrote, lands.filesAfter] at same
      exact ⟨publicFile, privateFile, lands, .inr (.inl same.symm)⟩
  · split_ifs at result with reported
    obtain ⟨connected, smooth, holds⟩ := unsealKey_eq_some.mp result
    refine (writes holds.whole).imp_right ?_
    rintro ⟨publicFile, privateFile, lands⟩
    rw [wrote] at reported
    exact ⟨publicFile, privateFile, lands,
      .inr (.inr ⟨lands.reports.mp reported, connected, smooth⟩)⟩

/-- When does a failed call leave what it should, if it found no files or a complete pair? Exactly
when it does not get to open the files for writing, or neither opens, or both open and both parts
of the new pair reach them in full, and then either there was nothing before, or there was this
very pair, or nothing fails after that. -/
theorem failed_call_keeps_sealed_iff (tpm : Tpm Public Private) (lawful : tpm.Lawful)
    (outcomes : Outcomes Public Private) (sealing : outcomes.Seals tpm) (files : BlobFiles)
    (start : files = BlobFiles.absent ∨ files.Complete tpm) :
    ((padlockTpmEnsureSealedKey tpm outcomes files).1 = none →
        KeepsSealed tpm outcomes files (padlockTpmEnsureSealedKey tpm outcomes files).2) ↔
      ∀ outPublic outPrivate, outcomes.created = some (outPublic, outPrivate) →
        outcomes.creating.opens = ⟨false, false⟩ ∨
          ∃ publicFile privateFile,
            outcomes.creating.Lands tpm outPublic outPrivate publicFile privateFile ∧
            (files = BlobFiles.absent ∨ files = ⟨some publicFile, some privateFile⟩ ∨
              privateFile.length ≤ outcomes.creating.privateWrite.accepted ∧
                padlockTpmConnect outcomes.connectToUnseal = true ∧
                outcomes.unsealing.NoneFails) := by
  constructor
  · intro keeps outPublic outPrivate created
    rw [ensureSealedKey_of_created created] at keeps
    exact lands_of_keeps lawful start rfl keeps
  · intro condition failed
    rcases created : outcomes.created with _ | ⟨outPublic, outPrivate⟩
    · rcases ensureSealedKey_of_not_created created with result | result
      · rw [result]
        exact keepsSealed_of_same lawful start
      · rw [result]
        exact keepsSealed_of_same lawful start
    · rw [ensureSealedKey_of_created created] at failed ⊢
      rcases condition outPublic outPrivate created with unopened | ⟨publicFile, privateFile, lands,
        rest⟩
      · rw [writeSealedPair_unopened unopened]
        exact keepsSealed_of_same lawful start
      · rw [lands.filesAfter] at failed ⊢
        rcases rest with rfl | rfl | ⟨accepted, connected, smooth⟩
        · exact keepsSealed_of_created lawful sealing created lands
        · exact keepsSealed_of_same lawful start
        · -- Nothing fails after the writes, so the call does not fail.
          obtain ⟨key, holds⟩ := lands.holds lawful sealing (Outcomes.made_of_created created)
          rw [if_pos (lands.reports.mpr accepted),
            unsealKey_eq_some.mpr ⟨connected, smooth, holds⟩] at failed
          cases failed

end Left

end Failing

theorem standInTpm_lawful : standInTpm.Lawful :=
  ⟨standInPublicArea_lawful, standInPrivateArea_lawful⟩

/-- What the stand-in creates from a secret unseals to it. -/
theorem smoothCreating_seals (outcomes : Outcomes UInt8 StandInPrivate) {byte : UInt8}
    (create : outcomes.creating.create = (smoothCreating byte).create) :
    outcomes.Seals standInTpm := by
  intro secret outPublic outPrivate made
  rw [create] at made
  obtain ⟨rfl, rfl⟩ := Prod.mk.inj (Option.some.inj made)
  exact if_pos rfl

/-- A call that creates the pair and then cannot reach the TPM again. -/
def unreachedOutcomes : Outcomes UInt8 StandInPrivate :=
  { smoothOutcomes 1 with connectToUnseal := ⟨false, false, true⟩ }

/-- It fails, and leaves the whole pair. -/
theorem failed_call_keeps_sealed_unreached :
    (padlockTpmEnsureSealedKey standInTpm unreachedOutcomes BlobFiles.absent).1 = none ∧
      KeepsSealed standInTpm unreachedOutcomes BlobFiles.absent
        (padlockTpmEnsureSealedKey standInTpm unreachedOutcomes BlobFiles.absent).2 := by
  have failed :
      (padlockTpmEnsureSealedKey standInTpm unreachedOutcomes BlobFiles.absent).1 = none := by
    decide
  refine ⟨failed, (failed_call_keeps_sealed_iff standInTpm standInTpm_lawful unreachedOutcomes
    (smoothCreating_seals _ rfl) _ (.inl rfl)).mpr (fun outPublic outPrivate created => ?_) failed⟩
  obtain ⟨rfl, rfl⟩ := Prod.mk.inj (Option.some.inj created)
  exact .inr ⟨_, _, ⟨rfl, rfl, rfl, ⟨rfl, by decide, by decide⟩, rfl, by decide⟩, .inl rfl⟩

/-- A call whose write of the private part fails, as on a full disk. -/
def fullDiskOutcomes : Outcomes UInt8 StandInPrivate :=
  { smoothOutcomes 1 with creating := { smoothCreating 1 with privateWrite := ⟨true, 0, 0⟩ } }

/-- It finds no files, fails, and leaves a public part with an empty private file. -/
theorem half_created_pair_left :
    ¬ ((padlockTpmEnsureSealedKey standInTpm fullDiskOutcomes BlobFiles.absent).1 = none →
      KeepsSealed standInTpm fullDiskOutcomes BlobFiles.absent
        (padlockTpmEnsureSealedKey standInTpm fullDiskOutcomes BlobFiles.absent).2) := by
  have left : padlockTpmEnsureSealedKey standInTpm fullDiskOutcomes BlobFiles.absent =
      (none, ⟨some [0, 1, 1], some []⟩) := by
    decide
  rw [left]
  intro keeps
  rcases (keeps rfl).whole rfl with absent | created
  · cases absent
  · obtain ⟨publicFile, privateFile, _, _, same, -, holds⟩ := created.whole standInTpm_lawful
    obtain ⟨-, empty⟩ : publicFile = [0, 1, 1] ∧ privateFile = [] := by
      simpa [eq_comm] using same
    exact holds.shown (by rw [empty]; rfl)

end Padlock
