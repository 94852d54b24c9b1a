/-
This file models how the library comes by its helper key: 32 random bytes,
sealed by the TPM under its owner's primary key, and kept as two files, the
public and the private part of the sealed object.

The key is created when one of the two files cannot be read. Both files are then
opened for writing, which empties them, and only after that are they written,
one after the other. Every step may fail, and how each of them ends is an
argument of the model (`Outcomes`); the files afterwards and the key are its
result.

The TPM and the library that marshals its objects are not part of the sources.
They are a parameter (`Tpm`): how objects are written as bytes, and what the pair
of a public and a private part unseals to.
-/

import Padlock.Library.Machine
import Padlock.Store.Format

namespace Padlock

/-! ### The two halves of a sealed object -/

/-- Something for each of the two files. -/
structure Halves (Item : Type) where
  publicBlob : Item
  privateBlob : Item
  deriving DecidableEq

/-- What stands in the two files; `none` for a file that is not there. -/
abbrev BlobFiles := Halves (Option (List UInt8))

/-- Neither file is there. -/
def BlobFiles.absent : BlobFiles := ⟨none, none⟩

/-- How objects of one kind are written as bytes. Reading tells how many bytes it used. -/
structure Marshaller (Object : Type) where
  size : Nat
  marshal : Object → Option (List UInt8)
  unmarshal : List UInt8 → Option (Object × Nat)

/-- The TPM with a fixed owner seed: the primary key is always the same, and what a pair of
parts unseals to, if it does, depends on the pair only. -/
structure Tpm (Public Private : Type) where
  publicArea : Marshaller Public
  privateArea : Marshaller Private
  unsealPair : Public → Private → Option (List UInt8)

def padlockTpmKeySize : Nat := 32

/-! ### Blob files -/

/-- How writing one blob ends: whether the buffer is allocated, how many bytes `fwrite` reports,
and how many bytes have reached the file once it is closed. -/
structure Writing where
  allocated : Bool
  accepted : Nat
  kept : Nat

/-- How reading one blob ends: the two seeks and the position between them, the allocation and
the read. -/
structure Reading where
  soughtEnd : Bool
  told : Bool
  soughtStart : Bool
  allocated : Bool
  delivered : Bool

section Blobs

variable {Object : Type}

/-- Write an object to a file just emptied: whether that was reported as done, and what the file
holds after it is closed. -/
def padlockTpmWriteBlob (marshaller : Marshaller Object) (writing : Writing) (blob : Object) :
    Bool × List UInt8 :=
  if !writing.allocated then (false, [])
  else match marshaller.marshal blob with
    | none => (false, [])
    | some bytes =>
      let written := min writing.accepted bytes.length
      (written = bytes.length, bytes.take writing.kept)

/-- Read an object from a file: the whole file has to be one object. -/
def padlockTpmReadBlob (marshaller : Marshaller Object) (reading : Reading)
    (file : List UInt8) : Option Object :=
  if !reading.soughtEnd then none
  else if !reading.told then none
  else if file.length = 0 ∨ marshaller.size < file.length then none
  else if !reading.soughtStart then none
  else if !reading.allocated then none
  else if !reading.delivered then none
  else match marshaller.unmarshal file with
    | none => none
    | some (blob, offset) => if offset ≠ file.length then none else some blob

variable {Public Private : Type}

abbrev padlockTpmWritePublicBlob (tpm : Tpm Public Private) :
    Writing → Public → Bool × List UInt8 :=
  padlockTpmWriteBlob tpm.publicArea

abbrev padlockTpmWritePrivateBlob (tpm : Tpm Public Private) :
    Writing → Private → Bool × List UInt8 :=
  padlockTpmWriteBlob tpm.privateArea

abbrev padlockTpmReadPublicBlob (tpm : Tpm Public Private) :
    Reading → List UInt8 → Option Public :=
  padlockTpmReadBlob tpm.publicArea

abbrev padlockTpmReadPrivateBlob (tpm : Tpm Public Private) :
    Reading → List UInt8 → Option Private :=
  padlockTpmReadBlob tpm.privateArea

end Blobs

/-! ### Creating and unsealing -/

section Sealing

variable {Public Private : Type}

/-- How `padlock_tpm_connect` ends: the two devices that are tried, and the session. -/
structure Connecting where
  resourceManager : Bool
  device : Bool
  initialized : Bool

def padlockTpmConnect (connecting : Connecting) : Bool :=
  (connecting.resourceManager || connecting.device) && connecting.initialized

/-- How the steps of `padlock_tpm_create_sealed_secret` end. -/
structure Creating (Public Private : Type) where
  ownerAuth : Bool
  primary : Bool
  primaryAuth : Bool
  create : Bytes padlockTpmKeySize → Option (Public × Private)
  opens : Halves Bool
  publicWrite : Writing
  privateWrite : Writing

/-- Opening a file for writing leaves it empty; a file that does not open stays as it is. -/
def openForWriting (opens : Bool) (file : Option (List UInt8)) : Option (List UInt8) :=
  if opens then some [] else file

/-- The files of a new pair, from the opens on: whether both were reported as written, and what
is in them afterwards. Both files are opened before either result is looked at. -/
def writeSealedPair (tpm : Tpm Public Private) (steps : Creating Public Private)
    (outPublic : Public) (outPrivate : Private) (files : BlobFiles) : Bool × BlobFiles :=
  if !steps.opens.publicBlob || !steps.opens.privateBlob then
    (false, ⟨openForWriting steps.opens.publicBlob files.publicBlob,
      openForWriting steps.opens.privateBlob files.privateBlob⟩)
  else
    let publicBlob := padlockTpmWritePublicBlob tpm steps.publicWrite outPublic
    if !publicBlob.1 then (false, ⟨some publicBlob.2, some []⟩)
    else
      let privateBlob := padlockTpmWritePrivateBlob tpm steps.privateWrite outPrivate
      (privateBlob.1, ⟨some publicBlob.2, some privateBlob.2⟩)

/-- `padlock_tpm_create_sealed_secret`: whether it returned 0, and the files afterwards. -/
def padlockTpmCreateSealedSecret (tpm : Tpm Public Private) (steps : Creating Public Private)
    (secret : Bytes padlockTpmKeySize) (files : BlobFiles) : Bool × BlobFiles :=
  if !steps.ownerAuth then (false, files)
  else if !steps.primary then (false, files)
  else if !steps.primaryAuth then (false, files)
  else match steps.create secret with
    | none => (false, files)
    | some (outPublic, outPrivate) => writeSealedPair tpm steps outPublic outPrivate files

/-- How the steps of `padlock_tpm_unseal_secret` end. -/
structure Unsealing where
  opens : Halves Bool
  allocated : Halves Bool
  publicRead : Reading
  privateRead : Reading
  ownerAuth : Bool
  primary : Bool
  primaryAuth : Bool
  loaded : Bool
  loadedAuth : Bool
  unsealed : Bool

/-- The first 32 bytes of what was unsealed, which has to have that many. -/
def sealedKey (secret : List UInt8) : Option (Bytes padlockTpmKeySize) :=
  if long : padlockTpmKeySize ≤ secret.length then
    some ⟨secret.take padlockTpmKeySize, List.length_take_of_le long⟩
  else none

/-- Opening a file for reading; only a file that is there opens. -/
def openForReading (opens : Bool) (file : Option (List UInt8)) : Option (List UInt8) :=
  if opens then file else none

/-- `padlock_tpm_unseal_secret`: the key, or nothing where it returned -1. -/
def padlockTpmUnsealSecret (tpm : Tpm Public Private) (steps : Unsealing) (files : BlobFiles) :
    Option (Bytes padlockTpmKeySize) := do
  let publicFile ← openForReading steps.opens.publicBlob files.publicBlob
  let privateFile ← openForReading steps.opens.privateBlob files.privateBlob
  guard (steps.allocated.publicBlob && steps.allocated.privateBlob)
  let sealPublic ← padlockTpmReadPublicBlob tpm steps.publicRead publicFile
  let sealPrivate ← padlockTpmReadPrivateBlob tpm steps.privateRead privateFile
  guard steps.ownerAuth
  guard steps.primary
  guard steps.primaryAuth
  guard steps.loaded
  guard steps.loadedAuth
  guard steps.unsealed
  let secret ← tpm.unsealPair sealPublic sealPrivate
  sealedKey secret

/-- How every step of one call of `padlock_tpm_ensure_sealed_key` ends. -/
structure Outcomes (Public Private : Type) where
  paths : Bool
  directory : Bool
  access : Halves Bool
  randomKey : Option (Bytes padlockTpmKeySize)
  connectToCreate : Connecting
  creating : Creating Public Private
  connectToUnseal : Connecting
  unsealing : Unsealing

/-- The last part of the call: connect, and unseal what is in the files. -/
def unsealKey (tpm : Tpm Public Private) (outcomes : Outcomes Public Private)
    (files : BlobFiles) : Option (Bytes padlockTpmKeySize) :=
  if !padlockTpmConnect outcomes.connectToUnseal then none
  else padlockTpmUnsealSecret tpm outcomes.unsealing files

/-- `padlock_tpm_ensure_sealed_key`: the key, or nothing where it returned -1, and the files
afterwards. -/
def padlockTpmEnsureSealedKey (tpm : Tpm Public Private) (outcomes : Outcomes Public Private)
    (files : BlobFiles) : Option (Bytes padlockTpmKeySize) × BlobFiles :=
  if !outcomes.paths then (none, files)
  else if !outcomes.directory then (none, files)
  else if !outcomes.access.publicBlob || !outcomes.access.privateBlob then
    match outcomes.randomKey with
    | none => (none, files)
    | some randomKey =>
      if !padlockTpmConnect outcomes.connectToCreate then (none, files)
      else
        let created := padlockTpmCreateSealedSecret tpm outcomes.creating randomKey files
        if !created.1 then (none, created.2)
        else (unsealKey tpm outcomes created.2, created.2)
  else (unsealKey tpm outcomes files, files)

end Sealing

/-! ### What the files hold -/

section Holding

variable {Object Public Private : Type} {tpm : Tpm Public Private}

/-- A file is one whole object. -/
structure Marshaller.Holds (marshaller : Marshaller Object) (file : List UInt8) (blob : Object) :
    Prop where
  shown : file.length ≠ 0
  fits : file.length ≤ marshaller.size
  reads : marshaller.unmarshal file = some (blob, file.length)

/-- What the library that marshals objects promises: what it writes reads back, and what is cut
off is refused. -/
structure Marshaller.Lawful (marshaller : Marshaller Object) : Prop where
  holds : ∀ blob bytes, marshaller.marshal blob = some bytes → marshaller.Holds bytes blob
  refuses : ∀ blob bytes count other, marshaller.marshal blob = some bytes →
    count < bytes.length → ¬ marshaller.Holds (bytes.take count) other

/-- No step of reading a blob fails. -/
def Reading.NoneFails (reading : Reading) : Prop :=
  reading.soughtEnd ∧ reading.told ∧ reading.soughtStart ∧ reading.allocated ∧ reading.delivered

theorem padlockTpmReadBlob_eq_some {marshaller : Marshaller Object} {reading : Reading}
    {file : List UInt8} {blob : Object} :
    padlockTpmReadBlob marshaller reading file = some blob ↔
      reading.NoneFails ∧ marshaller.Holds file blob := by
  unfold padlockTpmReadBlob Reading.NoneFails
  constructor
  · intro read
    split_ifs at read with sought told outside start allocated delivered
    rw [not_or] at outside
    split at read
    case h_1 => cases read
    case h_2 decoded offset used =>
      split_ifs at read with whole
      obtain rfl := Option.some.inj read
      rw [not_not] at whole
      rw [whole] at used
      simp only [Bool.not_eq_true', Bool.not_eq_false] at sought told start allocated delivered
      exact ⟨⟨sought, told, start, allocated, delivered⟩,
        ⟨outside.1, Nat.not_lt.mp outside.2, used⟩⟩
  · rintro ⟨⟨sought, told, start, allocated, delivered⟩, shown, fits, reads⟩
    have inside : ¬ (file.length = 0 ∨ marshaller.size < file.length) :=
      not_or.mpr ⟨shown, Nat.not_lt.mpr fits⟩
    rw [sought, told, start, allocated, delivered, if_neg inside, reads]
    simp

/-- The two files hold a pair that unseals to this key. -/
def BlobFiles.Holds (tpm : Tpm Public Private) (files : BlobFiles)
    (key : Bytes padlockTpmKeySize) : Prop :=
  ∃ publicFile privateFile sealPublic sealPrivate secret,
    files = ⟨some publicFile, some privateFile⟩ ∧
      tpm.publicArea.Holds publicFile sealPublic ∧ tpm.privateArea.Holds privateFile sealPrivate ∧
      tpm.unsealPair sealPublic sealPrivate = some secret ∧ sealedKey secret = some key

/-- No step of unsealing fails. -/
def Unsealing.NoneFails (steps : Unsealing) : Prop :=
  steps.opens = ⟨true, true⟩ ∧ steps.allocated = ⟨true, true⟩ ∧
    steps.publicRead.NoneFails ∧ steps.privateRead.NoneFails ∧ steps.ownerAuth ∧ steps.primary ∧
    steps.primaryAuth ∧ steps.loaded ∧ steps.loadedAuth ∧ steps.unsealed

theorem openForReading_eq_some {opens : Bool} {file : Option (List UInt8)} {bytes : List UInt8} :
    openForReading opens file = some bytes ↔ opens = true ∧ file = some bytes := by
  cases opens <;> simp [openForReading]

theorem padlockTpmUnsealSecret_eq_some {steps : Unsealing} {files : BlobFiles}
    {key : Bytes padlockTpmKeySize} :
    padlockTpmUnsealSecret tpm steps files = some key ↔
      steps.NoneFails ∧ files.Holds tpm key := by
  obtain ⟨⟨publicOpens, privateOpens⟩, ⟨publicAllocated, privateAllocated⟩, publicRead, privateRead,
    ownerAuth, primary, primaryAuth, loaded, loadedAuth, unsealed⟩ := steps
  obtain ⟨publicBlob, privateBlob⟩ := files
  simp only [padlockTpmUnsealSecret, Unsealing.NoneFails, BlobFiles.Holds, Option.bind_eq_bind,
    Option.bind_eq_some_iff, openForReading_eq_some, padlockTpmReadBlob_eq_some,
    Option.guard_eq_some', Halves.mk.injEq, Bool.and_eq_true]
  constructor
  · rintro ⟨publicFile, ⟨publicOpen, publicHeld⟩, privateFile, ⟨privateOpen, privateHeld⟩, -,
      allocated, sealPublic, ⟨publicNone, holdsPublic⟩, sealPrivate, ⟨privateNone, holdsPrivate⟩,
      -, owner, -, under, -, auth, -, load, -, loadAuth, -, opened, secret, pair, key⟩
    exact ⟨⟨⟨publicOpen, privateOpen⟩, allocated, publicNone, privateNone, owner, under, auth, load,
      loadAuth, opened⟩, publicFile, privateFile, sealPublic, sealPrivate, secret,
      ⟨publicHeld, privateHeld⟩, holdsPublic, holdsPrivate, pair, key⟩
  · rintro ⟨⟨⟨publicOpen, privateOpen⟩, allocated, publicNone, privateNone, owner, under, auth,
      load, loadAuth, opened⟩, publicFile, privateFile, sealPublic, sealPrivate, secret,
      ⟨publicHeld, privateHeld⟩, holdsPublic, holdsPrivate, pair, key⟩
    exact ⟨publicFile, ⟨publicOpen, publicHeld⟩, privateFile, ⟨privateOpen, privateHeld⟩, (),
      allocated, sealPublic, ⟨publicNone, holdsPublic⟩, sealPrivate, ⟨privateNone, holdsPrivate⟩,
      (), owner, (), under, (), auth, (), load, (), loadAuth, (), opened, secret, pair, key⟩

theorem unsealKey_eq_some {outcomes : Outcomes Public Private} {files : BlobFiles}
    {key : Bytes padlockTpmKeySize} :
    unsealKey tpm outcomes files = some key ↔
      padlockTpmConnect outcomes.connectToUnseal = true ∧ outcomes.unsealing.NoneFails ∧
        files.Holds tpm key := by
  unfold unsealKey
  rw [← padlockTpmUnsealSecret_eq_some]
  cases padlockTpmConnect outcomes.connectToUnseal <;> simp

/-- The files hold one key at most. -/
theorem BlobFiles.Holds.unique {files : BlobFiles} {first second : Bytes padlockTpmKeySize}
    (holds : files.Holds tpm first) (again : files.Holds tpm second) : first = second := by
  obtain ⟨publicFile, privateFile, sealPublic, sealPrivate, secret, rfl, holdsPublic,
    holdsPrivate, pair, key⟩ := holds
  obtain ⟨_, _, _, _, _, same, holdsPublic', holdsPrivate', pair', key'⟩ := again
  obtain ⟨rfl, rfl⟩ : _ ∧ _ := by simpa using same
  have samePublic := holdsPublic.reads.symm.trans holdsPublic'.reads
  have samePrivate := holdsPrivate.reads.symm.trans holdsPrivate'.reads
  obtain ⟨rfl, -⟩ := Prod.mk.inj (Option.some.inj samePublic)
  obtain ⟨rfl, -⟩ := Prod.mk.inj (Option.some.inj samePrivate)
  obtain rfl := Option.some.inj (pair.symm.trans pair')
  exact Option.some.inj (key.symm.trans key')

/-! ### The call, step by step -/

/-- The pair that the TPM makes, where no step before that fails. -/
def Creating.made (steps : Creating Public Private) (secret : Bytes padlockTpmKeySize) :
    Option (Public × Private) :=
  if steps.ownerAuth ∧ steps.primary ∧ steps.primaryAuth then steps.create secret else none

/-- The pair that is to be written, where the call gets as far as opening the files for
writing. -/
def Outcomes.created (outcomes : Outcomes Public Private) : Option (Public × Private) :=
  if outcomes.paths ∧ outcomes.directory ∧
      (!outcomes.access.publicBlob || !outcomes.access.privateBlob) ∧
      padlockTpmConnect outcomes.connectToCreate then
    outcomes.randomKey.bind outcomes.creating.made
  else none

theorem createSealedSecret_eq (steps : Creating Public Private)
    (secret : Bytes padlockTpmKeySize) (files : BlobFiles) :
    padlockTpmCreateSealedSecret tpm steps secret files =
      match steps.made secret with
      | none => (false, files)
      | some (outPublic, outPrivate) => writeSealedPair tpm steps outPublic outPrivate files := by
  unfold padlockTpmCreateSealedSecret Creating.made
  rcases steps.ownerAuth <;> rcases steps.primary <;> rcases steps.primaryAuth <;> simp

section Call

variable {outcomes : Outcomes Public Private} {files : BlobFiles}

/-- With both files readable and no trouble before that, the call only unseals. -/
theorem ensureSealedKey_of_access (paths : outcomes.paths = true)
    (directory : outcomes.directory = true) (access : outcomes.access = ⟨true, true⟩) :
    padlockTpmEnsureSealedKey tpm outcomes files = (unsealKey tpm outcomes files, files) := by
  simp [padlockTpmEnsureSealedKey, paths, directory, access]

/-- Where the call gets to writing a pair, it unseals what it wrote. -/
theorem ensureSealedKey_of_created {outPublic : Public} {outPrivate : Private}
    (created : outcomes.created = some (outPublic, outPrivate)) :
    padlockTpmEnsureSealedKey tpm outcomes files =
      (if (writeSealedPair tpm outcomes.creating outPublic outPrivate files).1 then
        unsealKey tpm outcomes
          (writeSealedPair tpm outcomes.creating outPublic outPrivate files).2
        else none, (writeSealedPair tpm outcomes.creating outPublic outPrivate files).2) := by
  unfold Outcomes.created at created
  split_ifs at created with reached
  obtain ⟨paths, directory, unreadable, connected⟩ := reached
  obtain ⟨randomKey, drawn, made⟩ := Option.bind_eq_some_iff.mp created
  simp only [padlockTpmEnsureSealedKey, paths, directory, unreadable, connected, drawn,
    createSealedSecret_eq, made, Bool.not_true, Bool.false_eq_true, if_false, if_true]
  cases (writeSealedPair tpm outcomes.creating outPublic outPrivate files).1 <;> rfl

/-- Where it does not, the files stay as they are. -/
theorem ensureSealedKey_of_not_created (nothing : outcomes.created = none) :
    padlockTpmEnsureSealedKey tpm outcomes files = (none, files) ∨
      padlockTpmEnsureSealedKey tpm outcomes files = (unsealKey tpm outcomes files, files) := by
  unfold padlockTpmEnsureSealedKey
  by_cases paths : outcomes.paths = true
  case neg => exact .inl (by simp [paths])
  by_cases directory : outcomes.directory = true
  case neg => exact .inl (by simp [directory])
  rw [if_neg (by simp [paths]), if_neg (by simp [directory])]
  by_cases unreadable : (!outcomes.access.publicBlob || !outcomes.access.privateBlob) = true
  case neg => exact .inr (if_neg unreadable)
  rw [if_pos unreadable]
  left
  by_cases connected : padlockTpmConnect outcomes.connectToCreate = true
  case neg => cases outcomes.randomKey <;> simp [connected]
  rw [Outcomes.created, if_pos ⟨paths, directory, unreadable, connected⟩] at nothing
  rcases drawn : outcomes.randomKey with _ | randomKey
  · rfl
  · rw [drawn, Option.bind_some] at nothing
    simp only [connected, createSealedSecret_eq, nothing, Bool.not_true, Bool.not_false,
      Bool.false_eq_true, if_false, if_true]

/-- A call that delivers a key leaves files that hold it. -/
theorem holds_of_delivered {key : Bytes padlockTpmKeySize}
    (delivered : (padlockTpmEnsureSealedKey tpm outcomes files).1 = some key) :
    (padlockTpmEnsureSealedKey tpm outcomes files).2.Holds tpm key := by
  rcases created : outcomes.created with _ | ⟨outPublic, outPrivate⟩
  · rcases ensureSealedKey_of_not_created created with result | result
    · rw [result] at delivered
      cases delivered
    · rw [result] at delivered ⊢
      exact (unsealKey_eq_some.mp delivered).2.2
  · rw [ensureSealedKey_of_created created] at delivered ⊢
    split_ifs at delivered
    exact (unsealKey_eq_some.mp delivered).2.2

end Call

end Holding

end Padlock
