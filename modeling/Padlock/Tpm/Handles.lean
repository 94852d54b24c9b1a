/-
This file is about what the calls for the helper key hold on the way: the context
of the loader, the session on it, the handles and objects of the session, two
streams, heap blocks, and the key itself. A watcher keeps the account. It
objects to a session without a context, to a handle that is not live or is left
behind when the session ends, to an object used or given back when it is not in
hand, to a primary key from another template, to a secret sealed other than the
one drawn, to a buffer given back uncleared, and to a file read back while the
drawn key is still in memory.

Whatever fails, it has nothing to object to, and in the end everything has been
given back. Only the account of copies of the key is not clean: the template of
the sealed object and the unsealed object are left as they are.
-/

import Padlock.Library.Watcher
import Padlock.Tpm.Conversation

namespace Padlock

open Interaction Program

/-! ### The account -/

/-- Whether an object of the session holds a key in clear. -/
def EsysObject.holdsKey : EsysObject → Bool
  | .unsealed => true
  | _ => false

/-- What is in hand. The buffer is in hand uncleared or cleared; the key drawn is in memory until it
is cleared, and so are the key delivered and the digest. `left` tells whether a copy of a key was
left uncleared where nothing clears it any more. -/
structure TpmHoldings where
  tcti : Bool := false
  esys : Bool := false
  primary : Bool := false
  loaded : Bool := false
  objects : List EsysObject := []
  publicFile : Option BlobMode := none
  privateFile : Option BlobMode := none
  buffer : Option Bool := none
  sealPublic : Bool := false
  sealPrivate : Bool := false
  drawn : Option (Bytes padlockTpmKeySize) := none
  delivered : Bool := false
  digest : Bool := false
  left : Bool := false

namespace TpmHoldings

def stream (held : TpmHoldings) : Half → Option BlobMode
  | .publicBlob => held.publicFile
  | .privateBlob => held.privateFile

def setStream (held : TpmHoldings) (mode : Option BlobMode) : Half → TpmHoldings
  | .publicBlob => { held with publicFile := mode }
  | .privateBlob => { held with privateFile := mode }

/-- Whether a handle may be used; the owner always may. -/
def live (held : TpmHoldings) : TpmHandle → Bool
  | .owner => true
  | .primary => held.primary
  | .loaded => held.loaded

def withObjects (held : TpmHoldings) (objects : List EsysObject) (left : Bool) : TpmHoldings :=
  { held with objects, left }

def withBuffer (held : TpmHoldings) (buffer : Option Bool) : TpmHoldings := { held with buffer }

theorem stream_withBuffer (held : TpmHoldings) (buffer : Option Bool) (half : Half) :
    (held.withBuffer buffer).stream half = held.stream half := by
  cases half <;> rfl

theorem withBuffer_self {held : TpmHoldings} {buffer : Option Bool} (same : held.buffer = buffer) :
    held.withBuffer buffer = held := by
  rw [← same]
  rfl

/-- Both parts of a new pair are in hand. -/
def Made (held : TpmHoldings) : Prop :=
  EsysObject.outPublic ∈ held.objects ∧ EsysObject.outPrivate ∈ held.objects

instance (held : TpmHoldings) : Decidable held.Made := inferInstanceAs (Decidable (_ ∧ _))

end TpmHoldings

namespace TpmTalk

variable {Public Private : Type}

/-- The rules. -/
def handling : Watcher (TpmRequest Public Private) TpmResponse TpmHoldings
  | .getenvHome, _, held => some held
  | .setErrno _, _, held => some held
  | .system _, _, held => some held
  | .access _, _, held => some held
  | .randBytes, drawn, held => if held.drawn = none then some { held with drawn } else none
  | .tctiInitialize _, opened, held =>
    if held.tcti = false then some { held with tcti := opened } else none
  | .tctiFinalize, _, held =>
    if held.tcti = true ∧ held.esys = false then some { held with tcti := false } else none
  | .esysInitialize, opened, held =>
    if held.tcti = true ∧ held.esys = false then some { held with esys := opened } else none
  | .esysFinalize, _, held =>
    if held.esys = true ∧ held.primary = false ∧ held.loaded = false then
      some { held with esys := false }
    else none
  | .setAuth handle, _, held =>
    if held.esys = true ∧ held.live handle = true then some held else none
  | .createPrimary template, made, held =>
    if held.esys = true ∧ held.primary = false ∧ template = padlockTpmBuildPrimaryTemplate then
      if made then some { held with primary := true, objects := held.objects ++ primaryObjects }
      else some held
    else none
  | .create secret _, created, held =>
    if held.esys = true ∧ held.primary = true ∧ held.drawn = some secret then
      -- the template with the secret stays on the stack
      match created with
      | some _ => some { held with objects := held.objects ++ createdObjects, left := true }
      | none => some { held with left := true }
    else none
  | .load _ _, loaded, held =>
    if held.esys = true ∧ held.primary = true ∧ held.loaded = false ∧ held.sealPublic = true ∧
        held.sealPrivate = true then
      some { held with loaded }
    else none
  | .esysUnseal, unsealed, held =>
    if held.esys = true ∧ held.loaded = true then
      match unsealed with
      | some secret => some { held with
          objects := held.objects ++ [.unsealed]
          delivered := (sealedKey secret).isSome }
      | none => some held
    else none
  | .flushContext .owner, _, _ => none
  | .flushContext .primary, _, held =>
    if held.esys = true ∧ held.primary = true then some { held with primary := false } else none
  | .flushContext .loaded, _, held =>
    if held.esys = true ∧ held.loaded = true then some { held with loaded := false } else none
  | .esysFree object, _, held =>
    if object ∈ held.objects then
      some (held.withObjects (held.objects.erase object) (object.holdsKey || held.left))
    else none
  | .fopen half _ mode, opened, held =>
    if held.stream half = none ∧ (if mode = .write then held.Made else held.drawn = none) then
      some (held.setStream (if opened then some mode else none) half)
    else none
  | .fclose half, _, held =>
    if held.stream half ≠ none then some (held.setStream none half) else none
  | .fwrite half _, _, held =>
    if held.stream half = some .write ∧ held.Made ∧ held.buffer ≠ none then
      some { held with buffer := some false }
    else none
  | .seekEnd half, _, held => if held.stream half = some .read then some held else none
  | .ftell half, _, held => if held.stream half = some .read then some held else none
  | .seekStart half, _, held => if held.stream half = some .read then some held else none
  | .fread half _, _, held =>
    if held.stream half = some .read ∧ held.buffer ≠ none then
      some { held with buffer := some false }
    else none
  | .malloc .buffer _, granted, held =>
    if held.buffer = none then some { held with buffer := if granted then some false else none }
    else none
  | .malloc .sealPublic _, granted, held =>
    if held.sealPublic = false then some { held with sealPublic := granted } else none
  | .malloc .sealPrivate _, granted, held =>
    if held.sealPrivate = false then some { held with sealPrivate := granted } else none
  | .free .buffer, _, held =>
    if held.buffer = some true then some { held with buffer := none } else none
  | .free .sealPublic, _, held =>
    if held.sealPublic = true then some { held with sealPublic := false } else none
  | .free .sealPrivate, _, held =>
    if held.sealPrivate = true then some { held with sealPrivate := false } else none
  | .secureZero .randomKey, _, held => some { held with drawn := none }
  | .secureZero .buffer, _, held =>
    if held.buffer ≠ none then some { held with buffer := some true } else none
  | .secureZero .hmacKey, _, held => some { held with delivered := false }
  | .secureZero .digest, _, held => some { held with digest := false }
  | .hmac _ _, digest, held =>
    if held.delivered = true ∧ held.esys = false ∧ held.tcti = false then
      -- a digest of another length is none of this hash
      some { held with digest := digest.any fun bytes => decide (bytes.length = 32) }
    else none

/-! ### Sessions -/

/-- Nothing is in hand but perhaps a key that was drawn. -/
def idle (drawn : Option (Bytes padlockTpmKeySize)) (left : Bool) : TpmHoldings := { drawn, left }

/-- Nothing is in hand beside that but a session. -/
def connected (drawn : Option (Bytes padlockTpmKeySize)) (left : Bool) : TpmHoldings :=
  { tcti := true, esys := true, drawn, left }

theorem obeys_openSession (tcti : Bool) (drawn : Option (Bytes padlockTpmKeySize)) (left : Bool) :
    (openSession tcti : TpmTalk Public Private Bool).Obeys handling { tcti, drawn, left }
      fun opened last => last = if opened then connected drawn left else idle drawn left := by
  cases tcti with
  | false =>
    intro response
    exact ⟨_, rfl, rfl⟩
  | true =>
    intro initialized
    refine ⟨_, rfl, ?_⟩
    cases initialized with
    | true => rfl
    | false =>
      intro response
      exact ⟨_, rfl, fun response => ⟨_, rfl, rfl⟩⟩

theorem obeys_padlockTpmConnect (drawn : Option (Bytes padlockTpmKeySize)) (left : Bool) :
    (padlockTpmConnect : TpmTalk Public Private Bool).Obeys handling (idle drawn left)
      fun opened last => last = if opened then connected drawn left else idle drawn left := by
  intro managed
  refine ⟨_, rfl, ?_⟩
  cases managed with
  | true => exact obeys_openSession true drawn left
  | false =>
    intro opened
    exact ⟨_, rfl, obeys_openSession opened drawn left⟩

/-- A session ends with the context under it, and leaves the key where it was delivered. -/
theorem obeys_padlockTpmDisconnect (drawn : Option (Bytes padlockTpmKeySize))
    (delivered left : Bool) :
    (padlockTpmDisconnect : TpmTalk Public Private Unit).Obeys handling
      { connected drawn left with delivered } fun _ last =>
        last = { idle drawn left with delivered } := by
  intro response
  refine ⟨_, rfl, fun response => ?_⟩
  exact ⟨_, rfl, rfl⟩

/-! ### Blob files -/

section Blobs

variable {Object Result : Type} (marshaller : Marshaller Object) (half : Half)
  {held : TpmHoldings}

theorem obeys_giveBack (free : held.buffer = none) (result : Result) :
    (giveBack result : TpmTalk Public Private Result).Obeys handling (held.withBuffer (some false))
      fun _ last => last = held := by
  intro response
  refine ⟨held.withBuffer (some true), rfl, fun response => ?_⟩
  exact ⟨held.withBuffer none, rfl, TpmHoldings.withBuffer_self free⟩

theorem obeys_padlockTpmWriteBlob (blob : Object) (opened : held.stream half = some .write)
    (made : held.Made) (free : held.buffer = none) :
    (padlockTpmWriteBlob marshaller half blob : TpmTalk Public Private Bool).Obeys handling held
      fun _ last => last = held := by
  unfold padlockTpmWriteBlob
  intro granted
  refine ⟨held.withBuffer (if granted then some false else none), if_pos free, ?_⟩
  cases granted with
  | false => exact TpmHoldings.withBuffer_self free
  | true =>
    cases marshaller.marshal blob with
    | none => exact obeys_giveBack free false
    | some bytes =>
      have writable : (held.withBuffer (some false)).stream half = some .write := by
        rw [TpmHoldings.stream_withBuffer, opened]
      intro written
      exact ⟨_, if_pos ⟨writable, made, Option.some_ne_none _⟩, obeys_giveBack free _⟩

theorem obeys_padlockTpmReadBlob (opened : held.stream half = some .read)
    (free : held.buffer = none) :
    (padlockTpmReadBlob marshaller half : TpmTalk Public Private (Option Object)).Obeys handling
      held fun _ last => last = held := by
  unfold padlockTpmReadBlob
  intro soughtEnd
  refine ⟨held, if_pos opened, ?_⟩
  cases soughtEnd with
  | false => rfl
  | true =>
  intro fileSize
  refine ⟨held, if_pos opened, ?_⟩
  cases fileSize with
  | none => rfl
  | some fileSize =>
  show Obeys _ (if fileSize = 0 ∨ marshaller.size < fileSize then _ else _) _ _
  split
  · rfl
  intro soughtStart
  refine ⟨held, if_pos opened, ?_⟩
  cases soughtStart with
  | false => rfl
  | true =>
  intro granted
  refine ⟨held.withBuffer (if granted then some false else none), if_pos free, ?_⟩
  cases granted with
  | false => exact TpmHoldings.withBuffer_self free
  | true =>
  have readable : (held.withBuffer (some false)).stream half = some .read := by
    rw [TpmHoldings.stream_withBuffer, opened]
  intro delivered
  exact ⟨_, if_pos ⟨readable, Option.some_ne_none _⟩, obeys_giveBack free _⟩

end Blobs

/-! ### What a function gives back at its end -/

section CleanUp

variable {Result : Type} (held : TpmHoldings)

theorem obeys_closeFile (opened : Bool) (half : Half) (mode : BlobMode)
    {next : Unit → TpmTalk Public Private Result} {suits : Result → TpmHoldings → Prop}
    (rest : (next ()).Obeys handling (held.setStream none half) suits) :
    (closeFile opened half >>= next).Obeys handling
      (held.setStream (if opened then some mode else none) half) suits := by
  cases opened with
  | false => exact rest
  | true =>
    intro response
    cases half <;> exact ⟨_, rfl, rest⟩

theorem obeys_flushPrimary (live : Bool)
    {next : Unit → TpmTalk Public Private Result} {suits : Result → TpmHoldings → Prop}
    (session : held.esys = true)
    (rest : (next ()).Obeys handling { held with primary := false } suits) :
    (flushHandle live .primary >>= next).Obeys handling { held with primary := live } suits := by
  cases live with
  | false => exact rest
  | true =>
    intro response
    exact ⟨_, if_pos ⟨session, rfl⟩, rest⟩

theorem obeys_flushLoaded (live : Bool)
    {next : Unit → TpmTalk Public Private Result} {suits : Result → TpmHoldings → Prop}
    (session : held.esys = true)
    (rest : (next ()).Obeys handling { held with loaded := false } suits) :
    (flushHandle live .loaded >>= next).Obeys handling { held with loaded := live } suits := by
  cases live with
  | false => exact rest
  | true =>
    intro response
    exact ⟨_, if_pos ⟨session, rfl⟩, rest⟩

theorem obeys_freeSealPublic (granted : Bool) :
    (freeSealBlock granted .sealPublic : TpmTalk Public Private Unit).Obeys handling
      { held with sealPublic := granted } fun _ last =>
        last = { held with sealPublic := false } := by
  cases granted with
  | false => rfl
  | true => exact fun response => ⟨_, rfl, rfl⟩

theorem obeys_freeSealPrivate (granted : Bool) :
    (freeSealBlock granted .sealPrivate : TpmTalk Public Private Unit).Obeys handling
      { held with sealPrivate := granted } fun _ last =>
        last = { held with sealPrivate := false } := by
  cases granted with
  | false => rfl
  | true => exact fun response => ⟨_, rfl, rfl⟩

/-- The objects that were handed out together are given back one after the other. -/
theorem obeys_freeObjects (handed : Bool) (objects others : List EsysObject) (left : Bool) :
    (freeObjects handed objects : TpmTalk Public Private Unit).Obeys handling
      (held.withObjects ((if handed then objects else []) ++ others) left) fun _ last =>
        last = held.withObjects others ((handed && objects.any EsysObject.holdsKey) || left) := by
  cases handed with
  | false =>
    induction objects with
    | nil => rfl
    | cons object rest inductionHypothesis => exact inductionHypothesis
  | true =>
    induction objects generalizing left with
    | nil => rfl
    | cons object rest inductionHypothesis =>
      intro response
      refine ⟨held.withObjects (rest ++ others) (object.holdsKey || left), ?_, ?_⟩
      · show (if object ∈ object :: (rest ++ others) then
          some (held.withObjects ((object :: (rest ++ others)).erase object) _) else _) = _
        rw [if_pos List.mem_cons_self, List.erase_cons_head]
        rfl
      · refine (inductionHypothesis (object.holdsKey || left)).imp ?_
        rintro response last rfl
        rw [List.any_cons, Bool.true_and, Bool.true_and, ← Bool.or_assoc,
          Bool.or_comm (rest.any EsysObject.holdsKey)]

end CleanUp

/-! ### Creating -/

section Creating

variable (tpm : Tpm Public Private) (paths : TpmPaths) (secret : Bytes padlockTpmKeySize)

/-- What there is to give back when a pair was to be created. -/
def CreateEnd.holdings (finish : CreateEnd) (left : Bool) : TpmHoldings where
  tcti := true
  esys := true
  primary := finish.primary
  objects := (if finish.primary then primaryObjects else []) ++
    (if finish.created then createdObjects else [])
  publicFile := if finish.publicFile then some .write else none
  privateFile := if finish.privateFile then some .write else none
  drawn := some secret
  left

/-- With the whole of a pair handed out, both of its parts are in hand. -/
theorem CreateEnd.made_holdings (publicFile privateFile left : Bool) :
    (CreateEnd.holdings secret { publicFile, privateFile, primary := true, created := true }
      left).Made := by
  show EsysObject.outPublic ∈ primaryObjects ++ createdObjects ∧
    EsysObject.outPrivate ∈ primaryObjects ++ createdObjects
  decide

theorem obeys_writePair (outPublic : Public) (outPrivate : Private) :
    (writePair tpm paths outPublic outPrivate).Obeys handling
      (CreateEnd.holdings secret { primary := true, created := true } true)
      fun finish last => last = finish.holdings secret true := by
  unfold writePair
  intro publicFile
  refine ⟨CreateEnd.holdings secret { publicFile, primary := true, created := true } true, rfl, ?_⟩
  intro privateFile
  refine ⟨CreateEnd.holdings secret { publicFile, privateFile, primary := true, created := true }
    true, rfl, ?_⟩
  cases publicFile with
  | false => rfl
  | true =>
  cases privateFile with
  | false => rfl
  | true =>
  have made := CreateEnd.made_holdings secret true true true
  refine (obeys_padlockTpmWriteBlob tpm.publicArea .publicBlob outPublic rfl made rfl).bind ?_
  rintro written last rfl
  cases written with
  | false => rfl
  | true =>
    refine (obeys_padlockTpmWriteBlob tpm.privateArea .privateBlob outPrivate rfl made rfl).bind ?_
    rintro written last rfl
    rfl

theorem obeys_createSteps (left : Bool) :
    (createSteps tpm paths secret).Obeys handling (connected (some secret) left)
      fun finish last => last = finish.holdings secret last.left := by
  unfold createSteps
  intro primary
  refine ⟨CreateEnd.holdings secret { primary } left, ?_, ?_⟩
  · cases primary <;> rfl
  cases primary with
  | false => rfl
  | true =>
  intro authorized
  refine ⟨CreateEnd.holdings secret { primary := true } left, rfl, ?_⟩
  cases authorized with
  | false => rfl
  | true =>
  intro created
  cases created with
  | none => exact ⟨CreateEnd.holdings secret { primary := true } true, if_pos ⟨rfl, rfl, rfl⟩, rfl⟩
  | some pair =>
    refine ⟨_, if_pos ⟨rfl, rfl, rfl⟩, ?_⟩
    refine (obeys_writePair tpm paths secret pair.1 pair.2).imp ?_
    rintro finish last rfl
    rfl

theorem obeys_createCleanUp (finish : CreateEnd) (left : Bool) :
    (createCleanUp finish : TpmTalk Public Private Unit).Obeys handling
      (finish.holdings secret left) fun _ last => last = connected (some secret) left := by
  unfold createCleanUp
  refine obeys_closeFile (finish.holdings secret left) finish.publicFile .publicBlob .write ?_
  refine obeys_closeFile ((finish.holdings secret left).setStream none .publicBlob)
    finish.privateFile .privateBlob .write ?_
  refine obeys_flushPrimary ((connected (some secret) left).withObjects
    ((if finish.primary then primaryObjects else []) ++
      (if finish.created then createdObjects else [])) left) finish.primary rfl ?_
  refine (obeys_freeObjects (connected (some secret) left) finish.primary primaryObjects
    (if finish.created then createdObjects else []) left).bind ?_
  rintro response last rfl
  have others : (if finish.created then createdObjects else []) =
      (if finish.created then createdObjects else []) ++ [] := (List.append_nil _).symm
  rw [others]
  refine (obeys_freeObjects (connected (some secret) left) finish.created createdObjects []
    _).imp ?_
  rintro response last rfl
  cases finish.primary <;> cases finish.created <;> rfl

theorem obeys_padlockTpmCreateSealedSecret (left : Bool) :
    (padlockTpmCreateSealedSecret tpm paths secret).Obeys handling (connected (some secret) left)
      fun _ last => last = connected (some secret) last.left := by
  unfold padlockTpmCreateSealedSecret
  intro authorized
  refine ⟨connected (some secret) left, rfl, ?_⟩
  cases authorized with
  | false => rfl
  | true =>
    refine (obeys_createSteps tpm paths secret left).bind fun finish middle ended => ?_
    rw [ended]
    refine (obeys_createCleanUp secret finish middle.left).bind ?_
    rintro response last rfl
    rfl

end Creating

/-! ### Unsealing -/

section Unsealing

variable (tpm : Tpm Public Private) (paths : TpmPaths)

/-- What there is to give back when a pair was to be unsealed. -/
def UnsealEnd.holdings (finish : UnsealEnd) (left : Bool) : TpmHoldings where
  tcti := true
  esys := true
  primary := finish.primary
  loaded := finish.loaded
  objects := (if finish.primary then primaryObjects else []) ++
    (if finish.unsealed then [.unsealed] else [])
  publicFile := if finish.publicFile then some .read else none
  privateFile := if finish.privateFile then some .read else none
  sealPublic := finish.sealPublic
  sealPrivate := finish.sealPrivate
  delivered := finish.key.isSome
  left

/-- A key comes out of an unsealed object only. -/
def UnsealEnd.Sound (finish : UnsealEnd) : Prop := finish.key.isSome → finish.unsealed = true

/-- Both files are open, and there may be room for both objects. -/
def UnsealEnd.blobs (sealPublic sealPrivate : Bool) : UnsealEnd :=
  { publicFile := true, privateFile := true, sealPublic, sealPrivate }

theorem obeys_unsealLoaded (sealPublic : Public) (sealPrivate : Private) (left : Bool) :
    (unsealLoaded sealPublic sealPrivate (.blobs true true)).Obeys handling
      ((UnsealEnd.blobs true true).holdings left)
      fun finish last => last = finish.holdings left ∧ finish.Sound := by
  unfold unsealLoaded
  intro ownerAuthorized
  refine ⟨_, rfl, ?_⟩
  cases ownerAuthorized with
  | false => exact ⟨rfl, nofun⟩
  | true =>
  intro primary
  cases primary with
  | false => exact ⟨_, rfl, rfl, nofun⟩
  | true =>
  refine ⟨_, rfl, fun authorized => ⟨_, rfl, ?_⟩⟩
  cases authorized with
  | false => exact ⟨rfl, nofun⟩
  | true =>
  intro loaded
  refine ⟨_, rfl, ?_⟩
  cases loaded with
  | false => exact ⟨rfl, nofun⟩
  | true =>
  intro loadedAuthorized
  refine ⟨_, rfl, ?_⟩
  cases loadedAuthorized with
  | false => exact ⟨rfl, nofun⟩
  | true =>
  intro unsealed
  cases unsealed with
  | none => exact ⟨_, rfl, rfl, nofun⟩
  | some secret => exact ⟨_, rfl, rfl, fun _ => rfl⟩

theorem obeys_unsealSteps (left : Bool) :
    (unsealSteps tpm paths).Obeys handling (connected none left)
      fun finish last => last = finish.holdings left ∧ finish.Sound := by
  unfold unsealSteps
  intro publicFile
  refine ⟨UnsealEnd.holdings { publicFile } left, rfl, fun privateFile => ?_⟩
  refine ⟨UnsealEnd.holdings { publicFile, privateFile } left, rfl, ?_⟩
  cases publicFile with
  | false => exact ⟨rfl, nofun⟩
  | true =>
  cases privateFile with
  | false => exact ⟨rfl, nofun⟩
  | true =>
  intro publicHeld
  refine ⟨(UnsealEnd.blobs publicHeld false).holdings left, rfl, fun privateHeld => ?_⟩
  refine ⟨(UnsealEnd.blobs publicHeld privateHeld).holdings left, rfl, ?_⟩
  cases publicHeld with
  | false => exact ⟨rfl, nofun⟩
  | true =>
  cases privateHeld with
  | false => exact ⟨rfl, nofun⟩
  | true =>
  refine (obeys_padlockTpmReadBlob tpm.publicArea .publicBlob rfl rfl).bind ?_
  rintro sealPublic last rfl
  cases sealPublic with
  | none => exact ⟨rfl, nofun⟩
  | some sealPublic =>
  refine (obeys_padlockTpmReadBlob tpm.privateArea .privateBlob rfl rfl).bind ?_
  rintro sealPrivate last rfl
  cases sealPrivate with
  | none => exact ⟨rfl, nofun⟩
  | some sealPrivate => exact obeys_unsealLoaded sealPublic sealPrivate left

/-- The unsealed object is given back as it is. -/
theorem obeys_unsealCleanUp (finish : UnsealEnd) (left : Bool) :
    (unsealCleanUp finish : TpmTalk Public Private Unit).Obeys handling (finish.holdings left)
      fun _ last => last = { connected none (finish.unsealed || left) with
        delivered := finish.key.isSome } := by
  unfold unsealCleanUp
  refine obeys_closeFile (finish.holdings left) finish.publicFile .publicBlob .read ?_
  refine obeys_closeFile ((finish.holdings left).setStream none .publicBlob)
    finish.privateFile .privateBlob .read ?_
  refine obeys_flushPrimary (((finish.holdings left).setStream none .publicBlob).setStream none
    .privateBlob) finish.primary rfl ?_
  refine obeys_flushLoaded { ((finish.holdings left).setStream none .publicBlob).setStream none
    .privateBlob with primary := false } finish.loaded rfl ?_
  refine (obeys_freeObjects { connected none left with
    sealPublic := finish.sealPublic
    sealPrivate := finish.sealPrivate
    delivered := finish.key.isSome } finish.primary primaryObjects
    (if finish.unsealed then [.unsealed] else []) left).bind ?_
  rintro response last rfl
  have others : (if finish.unsealed then [EsysObject.unsealed] else []) =
      (if finish.unsealed then [EsysObject.unsealed] else []) ++ [] := (List.append_nil _).symm
  rw [others]
  refine (obeys_freeObjects _ finish.unsealed [.unsealed] [] _).bind ?_
  rintro response last rfl
  have given : (finish.unsealed && [EsysObject.unsealed].any EsysObject.holdsKey ||
      (finish.primary && primaryObjects.any EsysObject.holdsKey || left)) =
        (finish.unsealed || left) := by
    cases finish.unsealed <;> cases finish.primary <;> rfl
  rw [given]
  refine (obeys_freeSealPublic { connected none (finish.unsealed || left) with
    sealPrivate := finish.sealPrivate
    delivered := finish.key.isSome } finish.sealPublic).bind ?_
  rintro response last rfl
  exact obeys_freeSealPrivate { connected none (finish.unsealed || left) with
    delivered := finish.key.isSome } finish.sealPrivate

theorem obeys_padlockTpmUnsealSecret (left : Bool) :
    (padlockTpmUnsealSecret tpm paths).Obeys handling (connected none left) fun key last =>
      last = { connected none last.left with delivered := key.isSome } ∧
        (key.isSome → last.left = true) ∧ (left = true → last.left = true) := by
  unfold padlockTpmUnsealSecret
  refine (obeys_unsealSteps tpm paths left).bind fun finish middle ended => ?_
  rw [ended.1]
  refine (obeys_unsealCleanUp finish left).bind ?_
  rintro response last rfl
  refine ⟨rfl, fun delivered => ?_, fun before => ?_⟩
  · show (finish.unsealed || left) = true
    rw [ended.2 delivered, Bool.true_or]
  · show (finish.unsealed || left) = true
    rw [before, Bool.or_true]

end Unsealing

/-! ### The helper key -/

section Ensuring

variable (tpm : Tpm Public Private) (paths : TpmPaths)

theorem obeys_createKey (left : Bool) :
    (createKey tpm paths).Obeys handling (idle none left) fun _ last =>
      last = idle none last.left := by
  unfold createKey
  intro randomKey
  refine ⟨idle randomKey left, rfl, ?_⟩
  cases randomKey with
  | none => rfl
  | some randomKey =>
  refine (obeys_padlockTpmConnect (some randomKey) left).bind ?_
  rintro opened last rfl
  cases opened with
  | false => exact fun response => ⟨_, rfl, rfl⟩
  | true =>
  refine (obeys_padlockTpmCreateSealedSecret tpm paths randomKey left).bind
    fun result middle ended => ?_
  rw [ended]
  intro response
  refine ⟨connected none middle.left, rfl, ?_⟩
  refine (obeys_padlockTpmDisconnect none false middle.left).bind ?_
  rintro response last rfl
  rfl

theorem obeys_unsealKey (left : Bool) :
    (unsealKey tpm paths).Obeys handling (idle none left) fun key last =>
      last = { idle none last.left with delivered := key.isSome } ∧
        (key.isSome → last.left = true) := by
  unfold unsealKey
  refine (obeys_padlockTpmConnect none left).bind ?_
  rintro opened last rfl
  cases opened with
  | false => exact ⟨rfl, nofun⟩
  | true =>
  refine (obeys_padlockTpmUnsealSecret tpm paths left).bind fun key middle ended => ?_
  rw [ended.1]
  refine (obeys_padlockTpmDisconnect none key.isSome middle.left).bind ?_
  rintro response last rfl
  exact ⟨rfl, ended.2.1⟩

theorem obeys_system {Result : Type} (program : System Result) (held : TpmHoldings) :
    (program.relay fun asked => request (TpmRequest.system asked) :
      TpmTalk Public Private Result).Obeys handling held fun _ last => last = held := by
  induction program with
  | done result => rfl
  | ask asked rest inductionHypothesis => exact fun response => ⟨held, rfl, inductionHypothesis _⟩
  | wrong => trivial

theorem obeys_filesReadable (held : TpmHoldings) :
    (filesReadable paths : TpmTalk Public Private Bool).Obeys handling held fun _ last =>
      last = held := by
  intro publicReadable
  refine ⟨held, rfl, ?_⟩
  cases publicReadable with
  | false => rfl
  | true => exact fun privateReadable => ⟨held, rfl, rfl⟩

theorem obeys_padlockTpmEnsureSealedKey (left : Bool) :
    (padlockTpmEnsureSealedKey tpm).Obeys handling (idle none left) fun key last =>
      last = { idle none last.left with delivered := key.isSome } ∧
        (key.isSome → last.left = true) := by
  unfold padlockTpmEnsureSealedKey
  refine obeys_request.mpr fun home => ⟨idle none left, rfl, ?_⟩
  cases padlockTpmPaths home with
  | none => exact fun response => ⟨_, rfl, rfl, nofun⟩
  | some paths =>
  refine (obeys_system (ensureDirectoryTree (some paths.directory)) (idle none left)).bind ?_
  rintro made last rfl
  dsimp only
  split
  · exact ⟨rfl, nofun⟩
  refine (obeys_filesReadable paths (idle none left)).bind ?_
  rintro readable last rfl
  cases readable with
  | true => exact obeys_unsealKey tpm paths left
  | false =>
    refine (obeys_createKey tpm paths left).bind fun ready last ended => ?_
    rw [ended]
    cases ready with
    | false => exact ⟨rfl, nofun⟩
    | true => exact obeys_unsealKey tpm paths last.left

/-! ### Header passwords -/

theorem obeys_deriveFrom (text : Option CString) (output : Option Nat) (left : Bool) :
    (deriveFrom tpm text output).Obeys handling (idle none left) fun written last =>
      last = idle none last.left ∧ (written.isSome → last.left = true) := by
  unfold deriveFrom
  cases text with
  | none => exact fun response => ⟨_, rfl, rfl, nofun⟩
  | some text =>
  cases output with
  | none => exact fun response => ⟨_, rfl, rfl, nofun⟩
  | some outputLength =>
  dsimp only
  split
  · exact fun response => ⟨_, rfl, rfl, nofun⟩
  refine (obeys_padlockTpmEnsureSealedKey tpm left).bind fun key middle ended => ?_
  rw [ended.1]
  cases key with
  | none => exact ⟨rfl, nofun⟩
  | some hmacKey =>
  intro digest
  refine ⟨_, rfl, ?_⟩
  cases digest with
  | none => exact fun response => ⟨_, rfl, rfl, nofun⟩
  | some digest =>
  show Obeys _ (if digest.length ≠ 32 then _ else _) _ _
  split
  case isTrue odd =>
    have none : decide (digest.length = 32) = false := decide_eq_false odd
    intro response
    refine ⟨{ idle .none middle.left with digest := decide (digest.length = 32) }, rfl, ?_, nofun⟩
    rw [none]
    rfl
  case isFalse =>
    exact fun response => ⟨_, rfl, fun response => ⟨_, rfl, rfl, fun _ => ended.2 rfl⟩⟩

/-- A copy of a key that was left stays. -/
theorem handling_keeps_left (asked : TpmRequest Public Private) (response : TpmResponse asked)
    (held later : TpmHoldings) (noted : handling asked response held = some later)
    (left : held.left = true) : later.left = true := by
  cases asked
  case create secret template =>
    obtain ⟨-, noted⟩ := Option.ite_none_right_eq_some.mp noted
    cases response with
    | none => exact Option.some.inj noted ▸ rfl
    | some pair => exact Option.some.inj noted ▸ rfl
  case esysFree object =>
    obtain ⟨-, ⟨⟩⟩ := Option.ite_none_right_eq_some.mp noted
    show (object.holdsKey || held.left) = true
    rw [left, Bool.or_true]
  case createPrimary template =>
    obtain ⟨-, noted⟩ := Option.ite_none_right_eq_some.mp noted
    cases response <;> exact Option.some.inj noted ▸ left
  case esysUnseal =>
    obtain ⟨-, noted⟩ := Option.ite_none_right_eq_some.mp noted
    cases response <;> exact Option.some.inj noted ▸ left
  case fopen half path mode =>
    obtain ⟨-, ⟨⟩⟩ := Option.ite_none_right_eq_some.mp noted
    cases half <;> exact left
  case fclose half =>
    obtain ⟨-, ⟨⟩⟩ := Option.ite_none_right_eq_some.mp noted
    cases half <;> exact left
  case flushContext handle =>
    cases handle with
    | owner => cases noted
    | primary =>
      obtain ⟨-, ⟨⟩⟩ := Option.ite_none_right_eq_some.mp noted
      exact left
    | loaded =>
      obtain ⟨-, ⟨⟩⟩ := Option.ite_none_right_eq_some.mp noted
      exact left
  case malloc block size =>
    cases block <;>
    · obtain ⟨-, ⟨⟩⟩ := Option.ite_none_right_eq_some.mp noted
      exact left
  case free block =>
    cases block <;>
    · obtain ⟨-, ⟨⟩⟩ := Option.ite_none_right_eq_some.mp noted
      exact left
  case secureZero area =>
    cases area with
    | buffer =>
      obtain ⟨-, ⟨⟩⟩ := Option.ite_none_right_eq_some.mp noted
      exact left
    | randomKey => exact Option.some.inj noted ▸ left
    | hmacKey => exact Option.some.inj noted ▸ left
    | digest => exact Option.some.inj noted ▸ left
  case getenvHome => exact Option.some.inj noted ▸ left
  case setErrno errno => exact Option.some.inj noted ▸ left
  case system asked => exact Option.some.inj noted ▸ left
  case access path => exact Option.some.inj noted ▸ left
  -- what is left changes the account in one place, if it is allowed at all
  all_goals
    obtain ⟨-, ⟨⟩⟩ := Option.ite_none_right_eq_some.mp noted
    exact left

theorem obeys_derive (derivation : Derivation) (left : Bool) :
    (derive tpm derivation).Obeys handling (idle none left) fun written last =>
      last = idle none last.left ∧ (written.isSome → last.left = true) := by
  cases derivation with
  | headerPassword loginPassword output => exact obeys_deriveFrom tpm loginPassword output left
  | userHeaderPassword username output => exact obeys_deriveFrom tpm username output left

theorem obeys_deriveEach (derivations : List Derivation) (left : Bool) :
    (deriveEach tpm derivations).Obeys handling (idle none left) fun outputs last =>
      last = idle none last.left ∧
        ((∃ written ∈ outputs, written.isSome) → last.left = true) := by
  induction derivations generalizing left with
  | nil => exact ⟨rfl, nofun⟩
  | cons derivation rest inductionHypothesis =>
    refine (obeys_derive tpm derivation left).bind fun written middle first => ?_
    rw [first.1]
    refine ((inductionHypothesis middle.left).kept handling_keeps_left).bind ?_
    rintro outputs last ⟨⟨ended, others⟩, stays⟩
    refine ⟨ended, ?_⟩
    rintro ⟨found, member, delivered⟩
    rcases List.mem_cons.mp member with rfl | later
    · exact stays (first.2 delivered)
    · exact others ⟨found, later, delivered⟩

/-- Any number of derivations, whatever fails in them: the rules of `handling` are kept throughout,
and in the end nothing is open, live or held, and no key and no digest is in its buffer. The buffers
that are cleared before they are given back are those of the marshalling; the blocks of the sealed
parts are given back as they are. What the calls never clear is left: a derivation that succeeds
leaves a copy of the key behind. -/
theorem derivations_release (derivations : List Derivation) :
    (deriveEach tpm derivations).Obeys handling {} fun outputs last =>
      last = { left := last.left } ∧ ((∃ written ∈ outputs, written.isSome) → last.left = true) :=
  obeys_deriveEach tpm derivations false

end Ensuring

end TpmTalk

end Padlock
