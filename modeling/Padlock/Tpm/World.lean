/-
This file runs the programs of the helper key in surroundings that may fail at
every request but one: a file that is there is readable. The surroundings keep
the two files, what was written to a stream and has not reached its file yet, and
the object that is loaded into the TPM.

In them, a call for the key does what the model with outcomes says, for some
outcomes: that model, and with it all that is proved about its runs, is a view of
these programs.
-/

import Padlock.Tpm.Conversation
import Padlock.Tpm.OneKey

namespace Padlock

open Interaction Program

/-! ### The surroundings -/

/-- The path of each of the two files. -/
def TpmPaths.path (paths : TpmPaths) : Half → CString
  | .publicBlob => paths.publicPath
  | .privateBlob => paths.privatePath

def Halves.get {Item : Type} (halves : Halves Item) : Half → Item
  | .publicBlob => halves.publicBlob
  | .privateBlob => halves.privateBlob

def Halves.set {Item : Type} (halves : Halves Item) (item : Item) : Half → Halves Item
  | .publicBlob => { halves with publicBlob := item }
  | .privateBlob => { halves with privateBlob := item }

/-- An open stream: its position, and what has been written to it. -/
structure BlobStream where
  position : Nat
  pending : List UInt8

/-- The files, the streams on them and the loaded object. -/
structure TpmWorld (Public Private : Type) where
  files : BlobFiles
  streams : Halves (Option BlobStream)
  loaded : Option (Public × Private)

namespace TpmWorld

variable {Public Private : Type}

def setStream (world : TpmWorld Public Private) (half : Half) (stream : Option BlobStream) :
    TpmWorld Public Private :=
  { world with streams := world.streams.set stream half }

def setFile (world : TpmWorld Public Private) (half : Half) (file : Option (List UInt8)) :
    TpmWorld Public Private :=
  { world with files := world.files.set file half }

def seek (world : TpmWorld Public Private) (half : Half) (position : Nat) :
    TpmWorld Public Private :=
  world.setStream half ((world.streams.get half).map fun stream => { stream with position })

/-- Data is kept with the stream until it is closed. -/
def append (world : TpmWorld Public Private) (half : Half) (data : List UInt8) :
    TpmWorld Public Private :=
  world.setStream half ((world.streams.get half).map fun stream =>
    { stream with pending := stream.pending ++ data })

/-- Closing a stream brings some of what was written to the file, and perhaps not all. -/
def close (world : TpmWorld Public Private) (half : Half) (kept : Nat) : TpmWorld Public Private :=
  match world.streams.get half with
  | none => world
  | some stream => (world.setFile half ((world.files.get half).map
      (· ++ stream.pending.take kept))).setStream half none

theorem get_setStream (world : TpmWorld Public Private) (half : Half)
    (stream : Option BlobStream) : (world.setStream half stream).streams.get half = stream := by
  cases half <;> rfl

theorem seek_setStream (world : TpmWorld Public Private) (half : Half) (stream : BlobStream)
    (position : Nat) :
    (world.setStream half (some stream)).seek half position =
      world.setStream half (some { stream with position }) := by
  cases half <;> rfl

theorem append_nil (world : TpmWorld Public Private) (half : Half) :
    world.append half [] = world := by
  obtain ⟨files, ⟨publicStream, privateStream⟩, loaded⟩ := world
  cases half with
  | publicBlob => cases publicStream <;> simp [append, setStream, Halves.get, Halves.set]
  | privateBlob => cases privateStream <;> simp [append, setStream, Halves.get, Halves.set]

/-- No stream is open. -/
def Quiet (world : TpmWorld Public Private) : Prop := world.streams = ⟨none, none⟩

/-- The world between two calls. -/
def resting (files : BlobFiles) : TpmWorld Public Private := ⟨files, ⟨none, none⟩, none⟩

theorem streams_close_public (world : TpmWorld Public Private) (kept : Nat) :
    (world.close .publicBlob kept).streams.privateBlob = world.streams.privateBlob := by
  obtain ⟨files, ⟨publicStream, privateStream⟩, loaded⟩ := world
  cases publicStream <;> rfl

/-- Closing a stream to which nothing was written changes no file. -/
theorem files_close {world : TpmWorld Public Private} {half : Half}
    (nothing : ∀ stream, world.streams.get half = some stream → stream.pending = [])
    (kept : Nat) : (world.close half kept).files = world.files := by
  unfold close
  split
  · rfl
  case h_2 stream opened =>
    rw [nothing stream opened, List.take_nil]
    cases half <;> simp [setFile, setStream, Halves.get, Halves.set]

theorem quiet_close (world : TpmWorld Public Private) (publicKept privateKept : Nat) :
    ((world.close .publicBlob publicKept).close .privateBlob privateKept).Quiet := by
  obtain ⟨files, ⟨publicStream, privateStream⟩, loaded⟩ := world
  cases publicStream <;> cases privateStream <;> rfl

end TpmWorld

section Surroundings

variable {Public Private : Type} (tpm : Tpm Public Private)
  (hmac : Bytes padlockTpmKeySize → List UInt8 → List UInt8) (home : Option CString)

/-- What the surroundings may answer. `access` says of each of the two files whether it is there: it
is assumed that a file that is there may be read. Every other request may fail; what is answered
otherwise is as the files are, as the TPM unseals, and the keyed digest. -/
def tpmAnswers : Surroundings (TpmRequest Public Private) TpmResponse (TpmWorld Public Private)
  | .getenvHome, world, value, next => value = home ∧ next = world
  | .access path, world, readable, next =>
    next = world ∧ ∀ paths half, padlockTpmPaths home = some paths → path = paths.path half →
      readable = (world.files.get half).isSome
  | .load sealPrivate sealPublic, world, loaded, next =>
    next = if loaded then { world with loaded := some (sealPublic, sealPrivate) } else world
  | .esysUnseal, world, unsealed, next =>
    next = world ∧ ∀ secret, unsealed = some secret → ∃ sealPublic sealPrivate,
      world.loaded = some (sealPublic, sealPrivate) ∧
        tpm.unsealPair sealPublic sealPrivate = some secret
  | .flushContext .loaded, world, _, next => next = { world with loaded := none }
  | .fopen half path mode, world, opened, next =>
    ∀ paths, padlockTpmPaths home = some paths → path = paths.path half →
      if opened then
        match mode with
        | .read => world.files.get half ≠ none ∧ next = world.setStream half (some ⟨0, []⟩)
        | .write => next = (world.setFile half (some [])).setStream half (some ⟨0, []⟩)
      else next = world
  | .fclose half, world, _, next => ∃ kept, next = world.close half kept
  | .fwrite half data, world, count, next => next = world.append half (data.take count.val)
  | .seekEnd half, world, sought, next =>
    next = if sought then world.seek half ((world.files.get half).getD []).length else world
  | .ftell half, world, told, next =>
    next = world ∧ ∀ position, told = some position →
      (world.streams.get half).map BlobStream.position = some position
  | .seekStart half, world, sought, next => next = if sought then world.seek half 0 else world
  | .fread half count, world, read, next =>
    next = world ∧ ∀ bytes, read = some bytes → ∃ stream content,
      world.streams.get half = some stream ∧ world.files.get half = some content ∧
        bytes.toList = (content.drop stream.position).take count
  | .hmac key text, world, digest, next =>
    next = world ∧ (digest = none ∨ digest = some (hmac key text))
  | _, world, _, next => next = world

end Surroundings

namespace TpmTalk

section Runs

variable {Public Private Object : Type} {tpm : Tpm Public Private}
  {hmac : Bytes padlockTpmKeySize → List UInt8 → List UInt8} {home : Option CString}

variable (tpm hmac home) in
/-- A condition on how a program ends in these surroundings. -/
abbrev EndsWith {Result : Type} (program : TpmTalk Public Private Result)
    (world : TpmWorld Public Private) (condition : Result → TpmWorld Public Private → Prop) :
    Prop :=
  Ensures (tpmAnswers tpm hmac home) program world condition

/-! ### Requests that leave the files alone -/

/-- Requests that change neither the files nor the streams. -/
def Still : TpmRequest Public Private → Prop
  | .fopen _ _ _ | .fclose _ | .fwrite _ _ | .seekEnd _ | .seekStart _ => False
  | _ => True

/-- The files and the streams are the same. -/
structure SameFiles (world final : TpmWorld Public Private) : Prop where
  files : final.files = world.files
  streams : final.streams = world.streams

theorem sameFiles_of_still {asked : TpmRequest Public Private} {response : TpmResponse asked}
    {world next : TpmWorld Public Private} (still : Still asked)
    (answered : tpmAnswers tpm hmac home asked world response next) : SameFiles world next := by
  have unchanged : next = world → SameFiles world next := by
    rintro rfl
    exact ⟨rfl, rfl⟩
  cases asked
  case fopen => cases still
  case fclose => cases still
  case fwrite => cases still
  case seekEnd => cases still
  case seekStart => cases still
  case getenvHome => exact unchanged answered.2
  case access => exact unchanged answered.1
  case esysUnseal => exact unchanged answered.1
  case ftell => exact unchanged answered.1
  case fread => exact unchanged answered.1
  case hmac => exact unchanged answered.1
  case load sealPrivate sealPublic =>
    obtain rfl : next = if response then _ else _ := answered
    cases response <;> exact ⟨rfl, rfl⟩
  case flushContext handle =>
    cases handle with
    | owner => exact unchanged answered
    | primary => exact unchanged answered
    | loaded =>
      obtain rfl : next = _ := answered
      exact ⟨rfl, rfl⟩
  all_goals exact unchanged answered

theorem ends_of_still {Result : Type} {program : TpmTalk Public Private Result}
    (asks : program.Asks Still) (world : TpmWorld Public Private) :
    EndsWith tpm hmac home program world fun _ final => SameFiles world final := by
  refine Asks.ensures ?_ asks ⟨rfl, rfl⟩
  intro asked state response next still same answered
  have step := sameFiles_of_still still answered
  exact ⟨step.files.trans same.files, step.streams.trans same.streams⟩

theorem asks_padlockTpmConnect : (padlockTpmConnect : TpmTalk Public Private Bool).Asks Still := by
  have session (tcti : Bool) : (openSession tcti : TpmTalk Public Private Bool).Asks Still := by
    cases tcti with
    | false => exact ⟨trivial, fun response => trivial⟩
    | true =>
      refine ⟨trivial, fun initialized => ?_⟩
      cases initialized with
      | true => trivial
      | false => exact ⟨trivial, fun response => ⟨trivial, fun response => trivial⟩⟩
  refine ⟨trivial, fun managed => ?_⟩
  cases managed with
  | true => exact session true
  | false => exact ⟨trivial, session⟩

theorem asks_padlockTpmDisconnect :
    (padlockTpmDisconnect : TpmTalk Public Private Unit).Asks Still :=
  ⟨trivial, fun _ => ⟨trivial, fun _ => trivial⟩⟩

theorem asks_freeObjects (handed : Bool) (objects : List EsysObject) :
    (freeObjects handed objects : TpmTalk Public Private Unit).Asks Still := by
  induction objects with
  | nil => trivial
  | cons object rest inductionHypothesis =>
    cases handed with
    | false => exact inductionHypothesis
    | true => exact ⟨trivial, fun response => inductionHypothesis⟩

theorem asks_flushHandle (live : Bool) (handle : TpmHandle) :
    (flushHandle live handle : TpmTalk Public Private Unit).Asks Still := by
  cases live with
  | false => trivial
  | true => exact ⟨trivial, fun response => trivial⟩

theorem asks_freeSealBlock (granted : Bool) (block : TpmBlock) :
    (freeSealBlock granted block : TpmTalk Public Private Unit).Asks Still := by
  cases granted with
  | false => trivial
  | true => exact ⟨trivial, fun response => trivial⟩

/-! ### Blob files -/

theorem ends_giveBack {Result : Type} (result : Result) (world : TpmWorld Public Private) :
    EndsWith tpm hmac home (giveBack result) world fun returned final =>
      returned = result ∧ final = world := by
  refine ensures_request.mpr ?_
  rintro response middle rfl
  refine ensures_request.mpr ?_
  rintro response middle rfl
  exact ensures_done.mpr ⟨rfl, rfl⟩

/-- What writing a blob leaves with the stream, and how that comes out when it is closed. -/
theorem ends_padlockTpmWriteBlob (marshaller : Marshaller Object) (half : Half) (blob : Object)
    (world : TpmWorld Public Private) :
    EndsWith tpm hmac home (padlockTpmWriteBlob marshaller half blob) world fun written final =>
      ∃ pending, final = world.append half pending ∧ ∀ kept, ∃ writing,
        Padlock.padlockTpmWriteBlob marshaller writing blob = (written, pending.take kept) := by
  refine ensures_request.mpr ?_
  rintro granted middle rfl
  cases granted with
  | false =>
    refine ensures_done.mpr ⟨[], (TpmWorld.append_nil middle half).symm, fun kept => ?_⟩
    exact ⟨⟨false, 0, 0⟩, by rw [List.take_nil]; rfl⟩
  | true =>
    cases marshalled : marshaller.marshal blob with
    | none =>
      refine (ends_giveBack false middle).imp ?_
      rintro _ _ ⟨rfl, rfl⟩
      refine ⟨[], (TpmWorld.append_nil _ half).symm, fun kept => ⟨⟨true, 0, 0⟩, ?_⟩⟩
      rw [Padlock.padlockTpmWriteBlob, marshalled, List.take_nil]
      rfl
    | some bytes =>
      refine ensures_request.mpr ?_
      rintro count later rfl
      refine (ends_giveBack _ _).imp ?_
      rintro _ _ ⟨rfl, rfl⟩
      refine ⟨bytes.take count.val, rfl, fun kept => ⟨⟨true, count.val, min kept count.val⟩, ?_⟩⟩
      have most : min count.val bytes.length = count.val :=
        Nat.min_eq_left (Nat.lt_succ_iff.mp count.isLt)
      rw [Padlock.padlockTpmWriteBlob, marshalled, List.take_take]
      show (decide (min count.val bytes.length = bytes.length), _) = _
      rw [most]

/-- A blob is read only from a file that holds it. -/
theorem ends_padlockTpmReadBlob (marshaller : Marshaller Object) (half : Half)
    (world : TpmWorld Public Private) {content : List UInt8} (position : Nat)
    (present : world.files.get half = some content) :
    EndsWith tpm hmac home (padlockTpmReadBlob marshaller half)
      (world.setStream half (some ⟨position, []⟩)) fun blob final =>
        (∃ later, final = world.setStream half (some ⟨later, []⟩)) ∧
          ∀ read, blob = some read → marshaller.Holds content read := by
  have here (place : Nat) : (world.setStream half (some ⟨place, []⟩)).files.get half =
      some content := present
  refine ensures_request.mpr ?_
  rintro soughtEnd middle rfl
  cases soughtEnd with
  | false => exact ensures_done.mpr ⟨⟨position, rfl⟩, nofun⟩
  | true =>
  rw [if_pos rfl, here, Option.getD_some, TpmWorld.seek_setStream]
  refine ensures_request.mpr ?_
  rintro told middle ⟨rfl, tells⟩
  cases told with
  | none => exact ensures_done.mpr ⟨⟨_, rfl⟩, nofun⟩
  | some fileSize =>
  obtain rfl : content.length = fileSize := by
    have position := tells fileSize rfl
    rw [TpmWorld.get_setStream] at position
    exact Option.some.inj position
  show Ensures _ (if content.length = 0 ∨ marshaller.size < content.length then _ else _) _ _
  split
  case isTrue => exact ensures_done.mpr ⟨⟨_, rfl⟩, nofun⟩
  case isFalse inside =>
  refine ensures_request.mpr ?_
  rintro soughtStart middle rfl
  cases soughtStart with
  | false => exact ensures_done.mpr ⟨⟨_, rfl⟩, nofun⟩
  | true =>
  rw [if_pos rfl, TpmWorld.seek_setStream]
  refine ensures_request.mpr ?_
  rintro granted middle rfl
  cases granted with
  | false => exact ensures_done.mpr ⟨⟨_, rfl⟩, nofun⟩
  | true =>
  refine ensures_request.mpr ?_
  rintro delivered middle ⟨rfl, reads⟩
  refine (ends_giveBack _ _).imp ?_
  rintro _ _ ⟨rfl, rfl⟩
  refine ⟨⟨_, rfl⟩, fun read decoded => ?_⟩
  obtain ⟨bytes, given, taken⟩ := Option.bind_eq_some_iff.mp decoded
  obtain ⟨⟨blob, offset⟩, unmarshalled, checked⟩ := Option.bind_eq_some_iff.mp taken
  obtain ⟨_, whole, same⟩ := Option.bind_eq_some_iff.mp checked
  obtain rfl := Option.some.inj same
  rw [Option.guard_eq_some'] at whole
  obtain rfl := whole
  obtain ⟨stream, found, opened, held, contents⟩ := reads bytes given
  rw [TpmWorld.get_setStream] at opened
  obtain rfl := Option.some.inj opened
  obtain rfl := Option.some.inj (held.symm.trans present)
  rw [List.drop_zero, List.take_length] at contents
  rw [contents] at unmarshalled
  rw [not_or] at inside
  exact ⟨inside.1, Nat.not_lt.mp inside.2, unmarshalled⟩

/-! ### Creating -/

theorem ends_closeFile {opened : Bool} (half : Half) {world : TpmWorld Public Private}
    (matching : opened = (world.streams.get half).isSome) :
    EndsWith tpm hmac home (closeFile opened half) world fun _ final =>
      ∃ kept, final = world.close half kept := by
  cases opened with
  | false =>
    have closed : world.streams.get half = none := by
      rw [← Option.not_isSome_iff_eq_none, ← matching]
      exact Bool.false_ne_true
    refine ensures_done.mpr ⟨0, ?_⟩
    rw [TpmWorld.close, closed]
  | true => exact ensures_request.mpr fun response middle answered => ensures_done.mpr answered

/-- The end of a function closes the streams that are open, and does nothing else to the files. -/
theorem ends_closing {Result : Type} {publicFile privateFile : Bool}
    {world : TpmWorld Public Private} {rest : TpmTalk Public Private Result}
    (publicOpen : publicFile = world.streams.publicBlob.isSome)
    (privateOpen : privateFile = world.streams.privateBlob.isSome) (still : rest.Asks Still) :
    EndsWith tpm hmac home (do
      closeFile publicFile .publicBlob
      closeFile privateFile .privateBlob
      rest) world fun _ final => ∃ publicKept privateKept,
        SameFiles ((world.close .publicBlob publicKept).close .privateBlob privateKept) final := by
  refine (ends_closeFile .publicBlob publicOpen).bind ?_
  rintro response middle ⟨publicKept, rfl⟩
  have other := world.streams_close_public publicKept
  refine (ends_closeFile .privateBlob (privateOpen.trans (congrArg _ other.symm))).bind ?_
  rintro response middle ⟨privateKept, rfl⟩
  exact (ends_of_still still _).imp fun response final same => ⟨publicKept, privateKept, same⟩

section Creating

variable {paths : TpmPaths} (found : padlockTpmPaths home = some paths)

/-- The steps of a creation in which the TPM makes a pair. -/
def pairSteps (outPublic : Public) (outPrivate : Private) (opens : Halves Bool)
    (publicWrite privateWrite : Writing) : Creating Public Private :=
  ⟨true, true, true, fun _ => some (outPublic, outPrivate), opens, publicWrite, privateWrite⟩

include found in
theorem ends_writePair (outPublic : Public) (outPrivate : Private)
    {world : TpmWorld Public Private} (quiet : world.Quiet) :
    EndsWith tpm hmac home (writePair tpm paths outPublic outPrivate) world fun finish final =>
      finish.publicFile = final.streams.publicBlob.isSome ∧
        finish.privateFile = final.streams.privateBlob.isSome ∧
        ∀ publicKept privateKept, ∃ opens publicWrite privateWrite,
          writeSealedPair tpm (pairSteps outPublic outPrivate opens publicWrite privateWrite)
              outPublic outPrivate world.files =
            (finish.result, ((final.close .publicBlob publicKept).close .privateBlob
              privateKept).files) := by
  obtain ⟨⟨publicBlob, privateBlob⟩, streams, loaded⟩ := world
  obtain rfl : streams = ⟨none, none⟩ := quiet
  refine ensures_request.mpr fun publicFile middle publicAnswered => ?_
  cases publicFile with
  | false =>
    obtain rfl : middle = _ := publicAnswered paths found rfl
    refine ensures_request.mpr fun privateFile middle privateAnswered => ?_
    cases privateFile with
    | false =>
      obtain rfl : middle = _ := privateAnswered paths found rfl
      refine ensures_done.mpr ⟨rfl, rfl, fun publicKept privateKept => ?_⟩
      exact ⟨⟨false, false⟩, ⟨false, 0, 0⟩, ⟨false, 0, 0⟩, rfl⟩
    | true =>
      obtain rfl : middle = _ := privateAnswered paths found rfl
      refine ensures_done.mpr ⟨rfl, rfl, fun publicKept privateKept => ?_⟩
      refine ⟨⟨false, true⟩, ⟨false, 0, 0⟩, ⟨false, 0, 0⟩, ?_⟩
      show _ = (false, Halves.mk publicBlob (some ([] ++ List.take privateKept [])))
      rw [List.take_nil]
      rfl
  | true =>
    obtain rfl : middle = _ := publicAnswered paths found rfl
    refine ensures_request.mpr fun privateFile middle privateAnswered => ?_
    cases privateFile with
    | false =>
      obtain rfl : middle = _ := privateAnswered paths found rfl
      refine ensures_done.mpr ⟨rfl, rfl, fun publicKept privateKept => ?_⟩
      refine ⟨⟨true, false⟩, ⟨false, 0, 0⟩, ⟨false, 0, 0⟩, ?_⟩
      show _ = (false, Halves.mk (some ([] ++ List.take publicKept [])) privateBlob)
      rw [List.take_nil]
      rfl
    | true =>
      obtain rfl : middle = _ := privateAnswered paths found rfl
      refine (ends_padlockTpmWriteBlob tpm.publicArea .publicBlob outPublic _).bind ?_
      rintro publicWritten middle ⟨publicPending, rfl, publicWrites⟩
      cases publicWritten with
      | false =>
        refine ensures_done.mpr ⟨rfl, rfl, fun publicKept privateKept => ?_⟩
        obtain ⟨publicWrite, writes⟩ := publicWrites publicKept
        refine ⟨⟨true, true⟩, publicWrite, ⟨false, 0, 0⟩, ?_⟩
        show _ = (false, Halves.mk (some ([] ++ ([] ++ publicPending).take publicKept))
          (some ([] ++ List.take privateKept [])))
        rw [List.take_nil]
        simp [writeSealedPair, pairSteps, writes]
      | true =>
        refine (ends_padlockTpmWriteBlob tpm.privateArea .privateBlob outPrivate _).bind ?_
        rintro privateWritten middle ⟨privatePending, rfl, privateWrites⟩
        refine ensures_done.mpr ⟨rfl, rfl, fun publicKept privateKept => ?_⟩
        obtain ⟨publicWrite, publicOut⟩ := publicWrites publicKept
        obtain ⟨privateWrite, privateOut⟩ := privateWrites privateKept
        refine ⟨⟨true, true⟩, publicWrite, privateWrite, ?_⟩
        show _ = (privateWritten, Halves.mk (some ([] ++ ([] ++ publicPending).take publicKept))
          (some ([] ++ ([] ++ privatePending).take privateKept)))
        simp [writeSealedPair, pairSteps, publicOut, privateOut]

/-- The steps of a creation that fails at once. -/
def noSteps : Creating Public Private :=
  ⟨false, false, false, fun _ => none, ⟨false, false⟩, ⟨false, 0, 0⟩, ⟨false, 0, 0⟩⟩

/-- How the steps up to the end of the function leave the streams, and what is in the files once
these are closed. -/
structure CreateEnds (tpm : Tpm Public Private) (secret : Bytes padlockTpmKeySize)
    (world : TpmWorld Public Private) (finish : CreateEnd) (final : TpmWorld Public Private) :
    Prop where
  publicOpen : finish.publicFile = final.streams.publicBlob.isSome
  privateOpen : finish.privateFile = final.streams.privateBlob.isSome
  closed : ∀ publicKept privateKept, ∃ steps,
    Padlock.padlockTpmCreateSealedSecret tpm steps secret world.files =
      (finish.result, ((final.close .publicBlob publicKept).close .privateBlob privateKept).files)

theorem createEnds_of_failed (secret : Bytes padlockTpmKeySize) {world : TpmWorld Public Private}
    (quiet : world.Quiet) (primary : Bool) : CreateEnds tpm secret world { primary } world := by
  obtain ⟨files, streams, loaded⟩ := world
  obtain rfl : streams = ⟨none, none⟩ := quiet
  exact ⟨rfl, rfl, fun publicKept privateKept => ⟨noSteps, rfl⟩⟩

include found in
theorem ends_createSteps (secret : Bytes padlockTpmKeySize) {world : TpmWorld Public Private}
    (quiet : world.Quiet) :
    EndsWith tpm hmac home (createSteps tpm paths secret) world (CreateEnds tpm secret world) := by
  refine ensures_request.mpr ?_
  rintro primary middle rfl
  cases primary with
  | false => exact ensures_done.mpr (createEnds_of_failed secret quiet false)
  | true =>
  refine ensures_request.mpr ?_
  rintro authorized middle rfl
  cases authorized with
  | false => exact ensures_done.mpr (createEnds_of_failed secret quiet true)
  | true =>
  refine ensures_request.mpr ?_
  rintro created middle rfl
  cases created with
  | none => exact ensures_done.mpr (createEnds_of_failed secret quiet true)
  | some pair =>
  refine (ends_writePair found pair.1 pair.2 quiet).imp ?_
  rintro finish final ⟨publicOpen, privateOpen, closed⟩
  refine ⟨publicOpen, privateOpen, fun publicKept privateKept => ?_⟩
  obtain ⟨opens, publicWrite, privateWrite, writes⟩ := closed publicKept privateKept
  exact ⟨pairSteps pair.1 pair.2 opens publicWrite privateWrite, writes⟩

include found in
/-- A creation does to the files what the model with outcomes says, for some outcomes. -/
theorem ends_padlockTpmCreateSealedSecret (secret : Bytes padlockTpmKeySize)
    {world : TpmWorld Public Private} (quiet : world.Quiet) :
    EndsWith tpm hmac home (padlockTpmCreateSealedSecret tpm paths secret) world fun result final =>
      final.Quiet ∧ ∃ steps,
        Padlock.padlockTpmCreateSealedSecret tpm steps secret world.files =
          (result, final.files) := by
  refine ensures_request.mpr ?_
  rintro authorized middle rfl
  cases authorized with
  | false => exact ensures_done.mpr ⟨quiet, noSteps, rfl⟩
  | true =>
  refine (ends_createSteps found secret quiet).bind fun finish middle ended => ?_
  have still : (do
      flushHandle finish.primary .primary
      freeObjects finish.primary primaryObjects
      freeObjects finish.created createdObjects : TpmTalk Public Private Unit).Asks Still :=
    (asks_flushHandle _ _).bind fun _ => (asks_freeObjects _ _).bind fun _ => asks_freeObjects _ _
  refine (ends_closing ended.publicOpen ended.privateOpen still).bind ?_
  rintro response final ⟨publicKept, privateKept, same⟩
  obtain ⟨steps, creates⟩ := ended.closed publicKept privateKept
  rw [← same.files] at creates
  exact ensures_done.mpr
    ⟨same.streams.trans (middle.quiet_close publicKept privateKept), steps, creates⟩

/-! ### Unsealing -/

/-- The files are as before, and nothing has been written to the streams that are open. -/
structure Unwritten (world : TpmWorld Public Private) (finish : UnsealEnd)
    (final : TpmWorld Public Private) : Prop where
  files : final.files = world.files
  publicStream : final.streams.publicBlob.map BlobStream.pending =
    if finish.publicFile then some [] else none
  privateStream : final.streams.privateBlob.map BlobStream.pending =
    if finish.privateFile then some [] else none

theorem Unwritten.publicOpen {world final : TpmWorld Public Private} {finish : UnsealEnd}
    (unwritten : Unwritten world finish final) :
    finish.publicFile = final.streams.publicBlob.isSome := by
  rw [← Option.isSome_map, unwritten.publicStream]
  cases finish.publicFile <;> rfl

theorem Unwritten.privateOpen {world final : TpmWorld Public Private} {finish : UnsealEnd}
    (unwritten : Unwritten world finish final) :
    finish.privateFile = final.streams.privateBlob.isSome := by
  rw [← Option.isSome_map, unwritten.privateStream]
  cases finish.privateFile <;> rfl

/-- Closing such streams changes no file. -/
theorem Unwritten.closed {world final : TpmWorld Public Private} {finish : UnsealEnd}
    (unwritten : Unwritten world finish final) (publicKept privateKept : Nat) :
    ((final.close .publicBlob publicKept).close .privateBlob privateKept).files = world.files := by
  have nothing {opened : Bool} {stream : Option BlobStream}
      (pending : stream.map BlobStream.pending = if opened then some [] else none)
      (found : BlobStream) (is : stream = some found) : found.pending = [] := by
    rw [is] at pending
    cases opened with
    | true => exact Option.some.inj pending
    | false => cases pending
  have publicNothing : ∀ stream, final.streams.get .publicBlob = some stream →
      stream.pending = [] := nothing unwritten.publicStream
  have privateNothing : ∀ stream, (final.close .publicBlob publicKept).streams.get .privateBlob =
      some stream → stream.pending = [] := by
    intro stream opened
    exact nothing unwritten.privateStream stream
      ((final.streams_close_public publicKept).symm.trans opened)
  rw [TpmWorld.files_close privateNothing, TpmWorld.files_close publicNothing, unwritten.files]

/-- A key comes out of the pair that was handed in. -/
theorem ends_unsealLoaded (sealPublic : Public) (sealPrivate : Private) {finish : UnsealEnd}
    (none : finish.key = none) (world : TpmWorld Public Private) :
    EndsWith tpm hmac home (unsealLoaded sealPublic sealPrivate finish) world fun result final =>
      (SameFiles world final ∧ result.publicFile = finish.publicFile ∧
        result.privateFile = finish.privateFile) ∧
      ∀ key, result.key = some key → ∃ secret,
        tpm.unsealPair sealPublic sealPrivate = some secret ∧ sealedKey secret = some key := by
  have noKey (key : Bytes padlockTpmKeySize) : finish.key ≠ some key := by
    rw [none]
    exact nofun
  refine ensures_request.mpr ?_
  rintro ownerAuthorized middle rfl
  cases ownerAuthorized with
  | false => exact ensures_done.mpr ⟨⟨⟨rfl, rfl⟩, rfl, rfl⟩, fun key is => absurd is (noKey key)⟩
  | true =>
  refine ensures_request.mpr ?_
  rintro primary middle rfl
  cases primary with
  | false => exact ensures_done.mpr ⟨⟨⟨rfl, rfl⟩, rfl, rfl⟩, fun key is => absurd is (noKey key)⟩
  | true =>
  refine ensures_request.mpr ?_
  rintro authorized middle rfl
  cases authorized with
  | false => exact ensures_done.mpr ⟨⟨⟨rfl, rfl⟩, rfl, rfl⟩, fun key is => absurd is (noKey key)⟩
  | true =>
  refine ensures_request.mpr ?_
  rintro loaded middle rfl
  cases loaded with
  | false => exact ensures_done.mpr ⟨⟨⟨rfl, rfl⟩, rfl, rfl⟩, fun key is => absurd is (noKey key)⟩
  | true =>
  refine ensures_request.mpr ?_
  rintro loadedAuthorized middle rfl
  cases loadedAuthorized with
  | false => exact ensures_done.mpr ⟨⟨⟨rfl, rfl⟩, rfl, rfl⟩, fun key is => absurd is (noKey key)⟩
  | true =>
  refine ensures_request.mpr ?_
  rintro unsealed middle ⟨rfl, unseals⟩
  cases unsealed with
  | none => exact ensures_done.mpr ⟨⟨⟨rfl, rfl⟩, rfl, rfl⟩, fun key is => absurd is (noKey key)⟩
  | some secret =>
    refine ensures_done.mpr ⟨⟨⟨rfl, rfl⟩, rfl, rfl⟩, fun key is => ?_⟩
    obtain ⟨_, _, held, pair⟩ := unseals secret rfl
    obtain ⟨rfl, rfl⟩ := Prod.mk.inj (Option.some.inj held)
    exact ⟨secret, pair, is⟩

include found in
theorem ends_unsealSteps {world : TpmWorld Public Private} (quiet : world.Quiet) :
    EndsWith tpm hmac home (unsealSteps tpm paths) world fun finish final =>
      Unwritten world finish final ∧
        ∀ key, finish.key = some key → world.files.Holds tpm key := by
  obtain ⟨⟨publicBlob, privateBlob⟩, streams, loaded⟩ := world
  obtain rfl : streams = ⟨none, none⟩ := quiet
  refine ensures_request.mpr fun publicFile middle publicAnswered => ?_
  refine ensures_request.mpr fun privateFile last privateAnswered => ?_
  cases publicFile with
  | false =>
    obtain rfl : middle = _ := publicAnswered paths found rfl
    cases privateFile with
    | false =>
      obtain rfl : last = _ := privateAnswered paths found rfl
      exact ensures_done.mpr ⟨⟨rfl, rfl, rfl⟩, nofun⟩
    | true =>
      obtain ⟨-, rfl⟩ : _ ∧ last = _ := privateAnswered paths found rfl
      exact ensures_done.mpr ⟨⟨rfl, rfl, rfl⟩, nofun⟩
  | true =>
  obtain ⟨publicPresent, rfl⟩ : _ ∧ middle = _ := publicAnswered paths found rfl
  cases privateFile with
  | false =>
    obtain rfl : last = _ := privateAnswered paths found rfl
    exact ensures_done.mpr ⟨⟨rfl, rfl, rfl⟩, nofun⟩
  | true =>
  obtain ⟨privatePresent, rfl⟩ : _ ∧ last = _ := privateAnswered paths found rfl
  obtain ⟨publicFile, rfl⟩ := Option.ne_none_iff_exists'.mp publicPresent
  obtain ⟨privateFile, rfl⟩ := Option.ne_none_iff_exists'.mp privatePresent
  refine ensures_request.mpr ?_
  rintro publicHeld middle rfl
  refine ensures_request.mpr ?_
  rintro privateHeld middle rfl
  cases publicHeld with
  | false => exact ensures_done.mpr ⟨⟨rfl, rfl, rfl⟩, nofun⟩
  | true =>
  cases privateHeld with
  | false => exact ensures_done.mpr ⟨⟨rfl, rfl, rfl⟩, nofun⟩
  | true =>
  refine (ends_padlockTpmReadBlob tpm.publicArea .publicBlob
    ⟨⟨some publicFile, some privateFile⟩, ⟨none, some ⟨0, []⟩⟩, loaded⟩ 0 rfl).bind ?_
  rintro sealPublic middle ⟨⟨publicPlace, rfl⟩, publicHolds⟩
  cases sealPublic with
  | none => exact ensures_done.mpr ⟨⟨rfl, rfl, rfl⟩, nofun⟩
  | some sealPublic =>
  refine (ends_padlockTpmReadBlob tpm.privateArea .privateBlob
    ⟨⟨some publicFile, some privateFile⟩, ⟨some ⟨publicPlace, []⟩, none⟩, loaded⟩ 0 rfl).bind ?_
  rintro sealPrivate middle ⟨⟨privatePlace, rfl⟩, privateHolds⟩
  cases sealPrivate with
  | none => exact ensures_done.mpr ⟨⟨rfl, rfl, rfl⟩, nofun⟩
  | some sealPrivate =>
  refine (ends_unsealLoaded sealPublic sealPrivate rfl _).imp ?_
  rintro finish final ⟨⟨same, publicOpen, privateOpen⟩, keys⟩
  refine ⟨⟨same.files, ?_, ?_⟩, fun key delivered => ?_⟩
  · rw [same.streams, publicOpen]
    rfl
  · rw [same.streams, privateOpen]
    rfl
  · obtain ⟨secret, pair, is⟩ := keys key delivered
    exact ⟨publicFile, privateFile, sealPublic, sealPrivate, secret, rfl,
      publicHolds sealPublic rfl, privateHolds sealPrivate rfl, pair, is⟩

include found in
/-- Unsealing leaves the files alone and delivers only a key that they hold. -/
theorem ends_padlockTpmUnsealSecret {world : TpmWorld Public Private} (quiet : world.Quiet) :
    EndsWith tpm hmac home (padlockTpmUnsealSecret tpm paths) world fun key final =>
      final.Quiet ∧ final.files = world.files ∧
        ∀ delivered, key = some delivered → world.files.Holds tpm delivered := by
  refine (ends_unsealSteps found quiet).bind ?_
  rintro finish middle ⟨unwritten, keys⟩
  have still : (do
      flushHandle finish.primary .primary
      flushHandle finish.loaded .loaded
      freeObjects finish.primary primaryObjects
      freeObjects finish.unsealed [.unsealed]
      freeSealBlock finish.sealPublic .sealPublic
      freeSealBlock finish.sealPrivate .sealPrivate : TpmTalk Public Private Unit).Asks Still :=
    (asks_flushHandle _ _).bind fun _ => (asks_flushHandle _ _).bind fun _ =>
      (asks_freeObjects _ _).bind fun _ => (asks_freeObjects _ _).bind fun _ =>
        (asks_freeSealBlock _ _).bind fun _ => asks_freeSealBlock _ _
  refine (ends_closing unwritten.publicOpen unwritten.privateOpen still).bind ?_
  rintro response final ⟨publicKept, privateKept, same⟩
  exact ensures_done.mpr ⟨same.streams.trans (middle.quiet_close publicKept privateKept),
    same.files.trans (unwritten.closed publicKept privateKept), keys⟩

/-! ### The helper key -/

/-- Where only a key is delivered that the files hold, some outcomes lead to it. -/
theorem exists_unsealing {files : BlobFiles} {key : Option (Bytes padlockTpmKeySize)}
    (keys : ∀ delivered, key = some delivered → files.Holds tpm delivered) :
    ∃ connecting unsealing, ∀ outcomes : Outcomes Public Private,
      outcomes.connectToUnseal = connecting → outcomes.unsealing = unsealing →
        Padlock.unsealKey tpm outcomes files = key := by
  cases key with
  | none =>
    refine ⟨⟨false, false, false⟩, smoothUnsealing, fun outcomes connects unseals => ?_⟩
    rw [Padlock.unsealKey, connects]
    rfl
  | some key =>
    refine ⟨smoothConnecting, smoothUnsealing, fun outcomes connects unseals => ?_⟩
    rw [unsealKey_eq_some, connects, unseals]
    have reading : smoothReading.NoneFails := ⟨rfl, rfl, rfl, rfl, rfl⟩
    exact ⟨rfl, ⟨rfl, rfl, reading, reading, rfl, rfl, rfl, rfl, rfl, rfl⟩, keys key rfl⟩

include found in
theorem ends_unsealKey {world : TpmWorld Public Private} (quiet : world.Quiet) :
    EndsWith tpm hmac home (unsealKey tpm paths) world fun key final =>
      final.Quiet ∧ final.files = world.files ∧
        ∀ delivered, key = some delivered → world.files.Holds tpm delivered := by
  refine (ends_of_still asks_padlockTpmConnect world).bind fun connected middle same => ?_
  have still : middle.Quiet := same.streams.trans quiet
  cases connected with
  | false => exact ensures_done.mpr ⟨still, same.files, nofun⟩
  | true =>
  refine (ends_padlockTpmUnsealSecret found still).bind ?_
  rintro key last ⟨ended, files, keys⟩
  refine (ends_of_still asks_padlockTpmDisconnect last).bind fun response final after => ?_
  rw [same.files] at files keys
  exact ensures_done.mpr ⟨after.streams.trans ended, after.files.trans files, keys⟩

/-- The outcomes of a call that has to create a key, up to that. -/
structure Outcomes.Begins (outcomes : Outcomes Public Private) (randomKey : Option _)
    (connecting : Connecting) (creating : Creating Public Private) : Prop where
  paths : outcomes.paths = true
  directory : outcomes.directory = true
  unreadable : (!outcomes.access.publicBlob || !outcomes.access.privateBlob) = true
  randomKey : outcomes.randomKey = randomKey
  connects : outcomes.connectToCreate = connecting
  creating : outcomes.creating = creating

include found in
theorem ends_createKey {world : TpmWorld Public Private} (quiet : world.Quiet) :
    EndsWith tpm hmac home (createKey tpm paths) world fun result final =>
      final.Quiet ∧ ∃ randomKey connecting creating, ∀ outcomes : Outcomes Public Private,
        Outcomes.Begins outcomes randomKey connecting creating →
          Padlock.padlockTpmEnsureSealedKey tpm outcomes world.files =
            (if result then Padlock.unsealKey tpm outcomes final.files else none, final.files) := by
  refine ensures_request.mpr ?_
  rintro randomKey middle rfl
  cases randomKey with
  | none =>
    refine ensures_done.mpr ⟨quiet, none, smoothConnecting, noSteps, fun outcomes begins => ?_⟩
    simp [Padlock.padlockTpmEnsureSealedKey, begins.paths, begins.directory, begins.unreadable,
      begins.randomKey]
  | some randomKey =>
  refine (ends_of_still asks_padlockTpmConnect middle).bind fun connected last same => ?_
  have still : last.Quiet := same.streams.trans quiet
  cases connected with
  | false =>
    refine ensures_request.mpr ?_
    rintro response final rfl
    refine ensures_done.mpr ⟨still, some randomKey, ⟨false, false, false⟩, noSteps, ?_⟩
    intro outcomes begins
    rw [same.files]
    simp [Padlock.padlockTpmEnsureSealedKey, begins.paths, begins.directory, begins.unreadable,
      begins.randomKey, begins.connects, Padlock.padlockTpmConnect]
  | true =>
  refine (ends_padlockTpmCreateSealedSecret found randomKey still).bind ?_
  rintro result later ⟨ended, creating, creates⟩
  refine ensures_request.mpr ?_
  rintro response after rfl
  refine (ends_of_still asks_padlockTpmDisconnect _).bind fun response final afterwards => ?_
  refine ensures_done.mpr ⟨afterwards.streams.trans ended, some randomKey, smoothConnecting,
    creating, fun outcomes begins => ?_⟩
  rw [same.files] at creates
  rw [afterwards.files]
  simp only [Padlock.padlockTpmEnsureSealedKey, begins.paths, begins.directory, begins.unreadable,
    begins.randomKey, begins.connects, begins.creating, creates]
  cases result <;> rfl

theorem ends_filesReadable (world : TpmWorld Public Private)
    (found : padlockTpmPaths home = some paths) :
    EndsWith tpm hmac home (filesReadable paths) world fun readable final =>
      final = world ∧
        readable = (world.files.publicBlob.isSome && world.files.privateBlob.isSome) := by
  refine ensures_request.mpr ?_
  rintro publicReadable middle ⟨rfl, publicIs⟩
  have publicAnswer := publicIs paths .publicBlob found rfl
  cases publicReadable with
  | false =>
    refine ensures_done.mpr ⟨rfl, ?_⟩
    rw [show middle.files.publicBlob.isSome = false from publicAnswer.symm, Bool.false_and]
  | true =>
    refine ensures_request.mpr ?_
    rintro privateReadable middle ⟨rfl, privateIs⟩
    refine ensures_done.mpr ⟨rfl, ?_⟩
    rw [show middle.files.publicBlob.isSome = true from publicAnswer.symm, Bool.true_and]
    exact privateIs paths .privateBlob found rfl

end Creating

/-- A call for the key does what the model with outcomes says, for some outcomes. -/
theorem ends_padlockTpmEnsureSealedKey {world : TpmWorld Public Private} (quiet : world.Quiet) :
    EndsWith tpm hmac home (padlockTpmEnsureSealedKey tpm) world fun key final =>
      final.Quiet ∧ ∃ outcomes, ensureStep tpm world.files outcomes = (key, final.files) := by
  refine ensures_request.mpr ?_
  rintro value middle ⟨rfl, rfl⟩
  -- outcomes of a call that does not come to the last part
  have fails : ∃ outcomes, ensureStep tpm middle.files outcomes = (none, middle.files) :=
    ⟨⟨false, false, ⟨false, false⟩, none, smoothConnecting, noSteps, smoothConnecting,
      smoothUnsealing⟩, rfl⟩
  cases found : padlockTpmPaths value with
  | none =>
    refine ensures_request.mpr ?_
    rintro response final rfl
    exact ensures_done.mpr ⟨quiet, fails⟩
  | some paths =>
  have still : ((ensureDirectoryTree (some paths.directory)).relay fun asked =>
      request (TpmRequest.system asked) : TpmTalk Public Private Int).Asks Still := by
    refine Asks.relay ?_ (asks_trivial _)
    intro asked _
    exact ⟨trivial, fun _ => trivial⟩
  refine (ends_of_still still middle).bind fun made last same => ?_
  have calm : last.Quiet := same.streams.trans quiet
  rw [← same.files] at fails ⊢
  dsimp only
  split
  · exact ensures_done.mpr ⟨calm, fails⟩
  refine (ends_filesReadable last found).bind ?_
  rintro readable last ⟨rfl, reads⟩
  cases readable with
  | true =>
    refine (ends_unsealKey found calm).imp ?_
    rintro key final ⟨ended, files, keys⟩
    obtain ⟨connecting, unsealing, unseals⟩ := exists_unsealing keys
    obtain ⟨publicThere, privateThere⟩ := Bool.and_eq_true_iff.mp reads.symm
    refine ⟨ended, ⟨true, true, ⟨true, true⟩, none, smoothConnecting, noSteps, connecting,
      unsealing⟩, ?_⟩
    have access : Halves.mk last.files.publicBlob.isSome last.files.privateBlob.isSome =
        ⟨true, true⟩ := by
      rw [publicThere, privateThere]
    rw [ensureStep, ensureSealedKey_of_access rfl rfl access, unseals _ rfl rfl, files]
  | false =>
    have unreadable : (!last.files.publicBlob.isSome || !last.files.privateBlob.isSome) = true := by
      rw [← Bool.not_and, ← reads, Bool.not_false]
    refine (ends_createKey found calm).bind ?_
    rintro ready later ⟨ended, randomKey, connecting, creating, creates⟩
    cases ready with
    | false =>
      refine ensures_done.mpr ⟨ended, ⟨true, true, ⟨false, false⟩, randomKey, connecting, creating,
        smoothConnecting, smoothUnsealing⟩, ?_⟩
      exact creates _ ⟨rfl, rfl, unreadable, rfl, rfl, rfl⟩
    | true =>
      refine (ends_unsealKey found ended).imp ?_
      rintro key final ⟨quietly, files, keys⟩
      obtain ⟨connectsAgain, unsealing, unseals⟩ := exists_unsealing keys
      refine ⟨quietly, ⟨true, true, ⟨false, false⟩, randomKey, connecting, creating,
        connectsAgain, unsealing⟩, ?_⟩
      rw [ensureStep, creates _ ⟨rfl, rfl, unreadable, rfl, rfl, rfl⟩, if_pos rfl,
        unseals _ rfl rfl, files]

end Runs

end TpmTalk

end Padlock
