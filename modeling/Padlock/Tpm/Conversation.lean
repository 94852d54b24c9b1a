/-
This file models the same calls for the helper key once more, as programs that
talk to the TPM, to the heap and to the file system, one request after the
other. Here it can be seen what is opened and given back, and in which order.

The devices of the TPM are tried one after the other, a session is opened on the
first that answers, and the primary key of the owner is made anew in each
session from the same template. Each function ends in one place, which gives back
whatever was got before; how far a function has come is what it hands to that
place (`CreateEnd`, `UnsealEnd`). The header passwords are derived from the key
that comes out of this.
-/

import Padlock.Cli.Password
import Padlock.Store.Directories
import Padlock.Tpm.SealedKey

namespace Padlock

open Interaction Program

/-! ### Paths -/

/-- The directory of the two files and their paths. -/
structure TpmPaths where
  directory : CString
  publicPath : CString
  privatePath : CString

/-- A text behind another one and a slash, if the whole fits a buffer of `PATH_MAX` bytes. -/
def pathBehind (front : CString) (name : List UInt8) (nulFree : 0 ∉ ascii "/" ++ name) :
    Option CString :=
  if front.bytes.length + (name.length + 1) < pathMax then
    some ⟨front.bytes ++ (ascii "/" ++ name), List.not_mem_append front.nulFree nulFree⟩
  else none

/-- `padlock_tpm_paths`, with the value of `HOME`. -/
def padlockTpmPaths (home : Option CString) : Option TpmPaths := do
  let directory ← pathBehind (← home) (ascii ".padlock/tpm") (by decide)
  let publicPath ← pathBehind directory (ascii "header-hmac.pub") (by decide)
  let privatePath ← pathBehind directory (ascii "header-hmac.priv") (by decide)
  return { directory, publicPath, privatePath }

/-! ### Templates -/

/-- The public area of the primary key. -/
structure PrimaryTemplate where
  type : Nat
  nameAlg : Nat
  objectAttributes : Nat
  symmetricAlgorithm : Nat
  symmetricKeyBits : Nat
  symmetricMode : Nat
  scheme : Nat
  keyBits : Nat
  exponent : Nat
  deriving DecidableEq

/-- The public area of the sealed object. -/
structure SealTemplate where
  type : Nat
  nameAlg : Nat
  objectAttributes : Nat
  scheme : Nat
  deriving DecidableEq

def tpm2AlgRsa : Nat := 0x0001
def tpm2AlgAes : Nat := 0x0006
def tpm2AlgKeyedhash : Nat := 0x0008
def tpm2AlgSha256 : Nat := 0x000b
def tpm2AlgNull : Nat := 0x0010
def tpm2AlgCfb : Nat := 0x0043

def tpmaObjectFixedtpm : Nat := 0x00000002
def tpmaObjectFixedparent : Nat := 0x00000010
def tpmaObjectSensitivedataorigin : Nat := 0x00000020
def tpmaObjectUserwithauth : Nat := 0x00000040
def tpmaObjectRestricted : Nat := 0x00010000
def tpmaObjectDecrypt : Nat := 0x00020000

def padlockTpmBuildPrimaryTemplate : PrimaryTemplate where
  type := tpm2AlgRsa
  nameAlg := tpm2AlgSha256
  objectAttributes := tpmaObjectUserwithauth ||| tpmaObjectRestricted ||| tpmaObjectDecrypt |||
    tpmaObjectFixedtpm ||| tpmaObjectFixedparent ||| tpmaObjectSensitivedataorigin
  symmetricAlgorithm := tpm2AlgAes
  symmetricKeyBits := 128
  symmetricMode := tpm2AlgCfb
  scheme := tpm2AlgNull
  keyBits := 2048
  exponent := 0

/-- The secret itself goes into the sensitive area beside this. -/
def padlockTpmBuildSealTemplate : SealTemplate where
  type := tpm2AlgKeyedhash
  nameAlg := tpm2AlgSha256
  objectAttributes := tpmaObjectUserwithauth ||| tpmaObjectFixedtpm ||| tpmaObjectFixedparent
  scheme := tpm2AlgNull

/-! ### Requests -/

/-- Which of the two files, and of the two parts of a sealed object. -/
inductive Half where
  | publicBlob
  | privateBlob
  deriving DecidableEq

/-- The names of the loader for the two devices. -/
inductive TpmDevice where
  /-- `device:/dev/tpmrm0` -/
  | resourceManager
  /-- `device:/dev/tpm0` -/
  | device
  deriving DecidableEq

/-- `ESYS_TR_RH_OWNER`, `primary_handle` and `loaded_handle`. -/
inductive TpmHandle where
  | owner
  | primary
  | loaded
  deriving DecidableEq

/-- The objects that the session library hands out and that are given back by `Esys_Free`. -/
inductive EsysObject where
  | outPrimaryPublic
  | primaryCreationData
  | primaryCreationHash
  | primaryCreationTicket
  | outPrivate
  | outPublic
  | sealCreationData
  | sealCreationHash
  | sealCreationTicket
  | unsealed
  deriving DecidableEq

/-- Heap blocks: the buffer of a blob, and the two objects that are read. -/
inductive TpmBlock where
  | buffer
  | sealPublic
  | sealPrivate
  deriving DecidableEq

/-- What is cleared by `padlock_secure_zero`. -/
inductive SecretArea where
  | randomKey
  | buffer
  | hmacKey
  | digest
  deriving DecidableEq

inductive BlobMode where
  /-- `"rb"` -/
  | read
  /-- `"wb"` -/
  | write
  deriving DecidableEq

section Requests

variable (Public Private : Type)

inductive TpmRequest where
  /-- `getenv("HOME")` -/
  | getenvHome
  | setErrno (errno : Nat)
  /-- `mkdir` and `chmod` -/
  | system (asked : SystemRequest)
  /-- `access(path, R_OK)` -/
  | access (path : CString)
  /-- `RAND_bytes` into `random_key` -/
  | randBytes
  | tctiInitialize (name : TpmDevice)
  | tctiFinalize
  | esysInitialize
  | esysFinalize
  /-- `Esys_TR_SetAuth` with the empty value -/
  | setAuth (handle : TpmHandle)
  | createPrimary (template : PrimaryTemplate)
  /-- `Esys_Create` under the primary key -/
  | create (secret : Bytes padlockTpmKeySize) (template : SealTemplate)
  /-- `Esys_Load` under the primary key -/
  | load (sealPrivate : Private) (sealPublic : Public)
  /-- `Esys_Unseal` of the loaded object -/
  | esysUnseal
  | flushContext (handle : TpmHandle)
  | esysFree (object : EsysObject)
  | fopen (half : Half) (path : CString) (mode : BlobMode)
  | fclose (half : Half)
  | fwrite (half : Half) (data : List UInt8)
  | seekEnd (half : Half)
  | ftell (half : Half)
  | seekStart (half : Half)
  | fread (half : Half) (count : Nat)
  /-- `malloc` and `calloc` -/
  | malloc (block : TpmBlock) (size : Nat)
  | free (block : TpmBlock)
  /-- `padlock_secure_zero` -/
  | secureZero (area : SecretArea)
  /-- `HMAC` with SHA-256 -/
  | hmac (key : Bytes padlockTpmKeySize) (text : List UInt8)

end Requests

section Calls

variable {Public Private Object : Type}

abbrev TpmResponse : TpmRequest Public Private → Type
  | .getenvHome => Option CString
  | .setErrno _ => Unit
  | .system asked => SystemResponse asked
  | .access _ => Bool
  | .randBytes => Option (Bytes padlockTpmKeySize)
  | .tctiInitialize _ => Bool
  | .tctiFinalize => Unit
  | .esysInitialize => Bool
  | .esysFinalize => Unit
  | .setAuth _ => Bool
  | .createPrimary _ => Bool
  | .create _ _ => Option (Public × Private)
  | .load _ _ => Bool
  | .esysUnseal => Option (List UInt8)
  | .flushContext _ => Unit
  | .esysFree _ => Unit
  | .fopen _ _ _ => Bool
  | .fclose _ => Unit
  | .fwrite _ data => Fin (data.length + 1)
  | .seekEnd _ => Bool
  | .ftell _ => Option Nat
  | .seekStart _ => Bool
  | .fread _ count => Option (Bytes count)
  | .malloc _ _ => Bool
  | .free _ => Unit
  | .secureZero _ => Unit
  | .hmac _ _ => Option (List UInt8)

variable (Public Private) in
abbrev TpmTalk (Result : Type) := Program (TpmRequest Public Private) TpmResponse Result

namespace TpmTalk

abbrev say (asked : TpmRequest Public Private) : TpmTalk Public Private (TpmResponse asked) :=
  request asked

/-! ### Sessions -/

/-- The argument tells whether there is a context. -/
def padlockTpmFreeTcti (tcti : Bool) : TpmTalk Public Private Unit :=
  if tcti then say .tctiFinalize else pure ()

/-- The second half of `padlock_tpm_connect`: a session on the context, if there is one. -/
def openSession (tcti : Bool) : TpmTalk Public Private Bool := do
  if !tcti then
    say (.setErrno eio)
    padlockTpmFreeTcti tcti
    return false
  let initialized : Bool ← say .esysInitialize
  if !initialized then
    say (.setErrno eio)
    padlockTpmFreeTcti tcti
    return false
  return true

/-- Whether it returned 0. The loader leaves no context where it fails. -/
def padlockTpmConnect : TpmTalk Public Private Bool := do
  let managed : Bool ← say (.tctiInitialize .resourceManager)
  let tcti : Bool ← if managed then pure true else say (.tctiInitialize .device)
  openSession tcti

/-- Only called with both contexts there. -/
def padlockTpmDisconnect : TpmTalk Public Private Unit := do
  say .esysFinalize
  padlockTpmFreeTcti true

/-! ### Blob files -/

/-- The end of both calls: the buffer is cleared and given back. -/
def giveBack {Result : Type} (result : Result) : TpmTalk Public Private Result := do
  say (.secureZero .buffer)
  say (.free .buffer)
  return result

def padlockTpmWriteBlob (marshaller : Marshaller Object) (half : Half) (blob : Object) :
    TpmTalk Public Private Bool := do
  let buffer : Bool ← say (.malloc .buffer marshaller.size)
  if !buffer then
    return false
  let result ← match marshaller.marshal blob with
    | none => pure false
    | some bytes => do
      let written : Fin (bytes.length + 1) ← say (.fwrite half bytes)
      pure (decide (written.val = bytes.length))
  giveBack result

/-- The blob that was read, where it returned 0. -/
def padlockTpmReadBlob (marshaller : Marshaller Object) (half : Half) :
    TpmTalk Public Private (Option Object) := do
  let soughtEnd : Bool ← say (.seekEnd half)
  if !soughtEnd then
    return none
  let fileSize : Option Nat ← say (.ftell half)
  match fileSize with
  | none => return none
  | some fileSize =>
    if fileSize = 0 ∨ marshaller.size < fileSize then
      return none
    let soughtStart : Bool ← say (.seekStart half)
    if !soughtStart then
      return none
    let buffer : Bool ← say (.malloc .buffer fileSize)
    if !buffer then
      return none
    let delivered : Option (Bytes fileSize) ← say (.fread half fileSize)
    giveBack do
      let (blob, offset) ← marshaller.unmarshal (← delivered).toList
      guard (offset = fileSize)
      return blob

/-! ### Creating -/

/-- What there is to give back at the end of `padlock_tpm_create_sealed_secret`, and its result. -/
structure CreateEnd where
  publicFile : Bool := false
  privateFile : Bool := false
  primary : Bool := false
  created : Bool := false
  result : Bool := false

/-- `Esys_Free` of objects that were handed out together, or of as many null pointers. -/
def freeObjects (held : Bool) : List EsysObject → TpmTalk Public Private Unit
  | [] => pure ()
  | object :: rest => do
    if held then
      say (.esysFree object)
    freeObjects held rest

/-- What `Esys_CreatePrimary` hands out beside the handle. -/
def primaryObjects : List EsysObject :=
  [.outPrimaryPublic, .primaryCreationData, .primaryCreationHash, .primaryCreationTicket]

/-- What `Esys_Create` hands out. -/
def createdObjects : List EsysObject :=
  [.outPrivate, .outPublic, .sealCreationData, .sealCreationHash, .sealCreationTicket]

def closeFile (opened : Bool) (half : Half) : TpmTalk Public Private Unit :=
  if opened then say (.fclose half) else pure ()

def flushHandle (live : Bool) (handle : TpmHandle) : TpmTalk Public Private Unit :=
  if live then say (.flushContext handle) else pure ()

def createCleanUp (finish : CreateEnd) : TpmTalk Public Private Unit := do
  closeFile finish.publicFile .publicBlob
  closeFile finish.privateFile .privateBlob
  flushHandle finish.primary .primary
  freeObjects finish.primary primaryObjects
  freeObjects finish.created createdObjects

variable (tpm : Tpm Public Private) (paths : TpmPaths)

/-- The two files of a new pair. -/
def writePair (outPublic : Public) (outPrivate : Private) : TpmTalk Public Private CreateEnd := do
  let publicFile : Bool ← say (.fopen .publicBlob paths.publicPath .write)
  let privateFile : Bool ← say (.fopen .privateBlob paths.privatePath .write)
  if !publicFile || !privateFile then
    return { publicFile, privateFile, primary := true, created := true }
  let publicWritten ← padlockTpmWriteBlob tpm.publicArea .publicBlob outPublic
  let result ← if publicWritten then padlockTpmWriteBlob tpm.privateArea .privateBlob outPrivate
    else pure false
  return { publicFile, privateFile, primary := true, created := true, result }

/-- From `Esys_CreatePrimary` on. -/
def createSteps (secret : Bytes padlockTpmKeySize) : TpmTalk Public Private CreateEnd := do
  let primary : Bool ← say (.createPrimary padlockTpmBuildPrimaryTemplate)
  if !primary then
    return {}
  let authorized : Bool ← say (.setAuth .primary)
  if !authorized then
    return { primary }
  let created : Option (Public × Private) ← say (.create secret padlockTpmBuildSealTemplate)
  match created with
  | none => return { primary }
  | some (outPublic, outPrivate) => writePair tpm paths outPublic outPrivate

/-- Whether it returned 0. -/
def padlockTpmCreateSealedSecret (secret : Bytes padlockTpmKeySize) :
    TpmTalk Public Private Bool := do
  let authorized : Bool ← say (.setAuth .owner)
  if !authorized then
    return false
  let finish ← createSteps tpm paths secret
  createCleanUp finish
  return finish.result

/-! ### Unsealing -/

/-- What there is to give back at the end of `padlock_tpm_unseal_secret`, and the key, where it
returns 0. -/
structure UnsealEnd where
  publicFile : Bool := false
  privateFile : Bool := false
  sealPublic : Bool := false
  sealPrivate : Bool := false
  primary : Bool := false
  loaded : Bool := false
  unsealed : Bool := false
  key : Option (Bytes padlockTpmKeySize) := none

def freeSealBlock (held : Bool) (block : TpmBlock) : TpmTalk Public Private Unit :=
  if held then say (.free block) else pure ()

/-- The primary key is flushed before the object that was loaded under it. -/
def unsealCleanUp (finish : UnsealEnd) : TpmTalk Public Private Unit := do
  closeFile finish.publicFile .publicBlob
  closeFile finish.privateFile .privateBlob
  flushHandle finish.primary .primary
  flushHandle finish.loaded .loaded
  freeObjects finish.primary primaryObjects
  freeObjects finish.unsealed [.unsealed]
  freeSealBlock finish.sealPublic .sealPublic
  freeSealBlock finish.sealPrivate .sealPrivate

/-- From the primary key on: `finish` is what there is so far. -/
def unsealLoaded (sealPublic : Public) (sealPrivate : Private) (finish : UnsealEnd) :
    TpmTalk Public Private UnsealEnd := do
  let ownerAuthorized : Bool ← say (.setAuth .owner)
  if !ownerAuthorized then
    return finish
  let primary : Bool ← say (.createPrimary padlockTpmBuildPrimaryTemplate)
  if !primary then
    return finish
  let authorized : Bool ← say (.setAuth .primary)
  if !authorized then
    return { finish with primary }
  let loaded : Bool ← say (.load sealPrivate sealPublic)
  if !loaded then
    return { finish with primary }
  let loadedAuthorized : Bool ← say (.setAuth .loaded)
  if !loadedAuthorized then
    return { finish with primary, loaded }
  let unsealed : Option (List UInt8) ← say .esysUnseal
  match unsealed with
  | none => return { finish with primary, loaded }
  | some secret => return { finish with primary, loaded, unsealed := true, key := sealedKey secret }

def unsealSteps : TpmTalk Public Private UnsealEnd := do
  let publicFile : Bool ← say (.fopen .publicBlob paths.publicPath .read)
  let privateFile : Bool ← say (.fopen .privateBlob paths.privatePath .read)
  if !publicFile || !privateFile then
    return { publicFile, privateFile }
  let publicHeld : Bool ← say (.malloc .sealPublic tpm.publicArea.size)
  let privateHeld : Bool ← say (.malloc .sealPrivate tpm.privateArea.size)
  let finish : UnsealEnd :=
    { publicFile, privateFile, sealPublic := publicHeld, sealPrivate := privateHeld }
  if !publicHeld || !privateHeld then
    return finish
  match ← padlockTpmReadBlob tpm.publicArea .publicBlob with
  | none => return finish
  | some sealPublic =>
    match ← padlockTpmReadBlob tpm.privateArea .privateBlob with
    | none => return finish
    | some sealPrivate => unsealLoaded sealPublic sealPrivate finish

/-- The key, where it returned 0. -/
def padlockTpmUnsealSecret : TpmTalk Public Private (Option (Bytes padlockTpmKeySize)) := do
  let finish ← unsealSteps tpm paths
  unsealCleanUp finish
  return finish.key

/-! ### The helper key -/

def enametoolong : Nat := 36

/-- The branch of `padlock_tpm_ensure_sealed_key` where a file cannot be read: whether a pair was
made. -/
def createKey : TpmTalk Public Private Bool := do
  let randomKey : Option (Bytes padlockTpmKeySize) ← say .randBytes
  match randomKey with
  | none => return false
  | some randomKey =>
    let connected ← padlockTpmConnect
    if !connected then
      say (.secureZero .randomKey)
      return false
    let result ← padlockTpmCreateSealedSecret tpm paths randomKey
    say (.secureZero .randomKey)
    padlockTpmDisconnect
    return result

/-- The last part of `padlock_tpm_ensure_sealed_key`. -/
def unsealKey : TpmTalk Public Private (Option (Bytes padlockTpmKeySize)) := do
  let connected ← padlockTpmConnect
  if !connected then
    return none
  let key ← padlockTpmUnsealSecret tpm paths
  padlockTpmDisconnect
  return key

/-- The second file is only asked for where the first can be read. -/
def filesReadable : TpmTalk Public Private Bool := do
  let publicReadable : Bool ← say (.access paths.publicPath)
  if !publicReadable then
    return false
  say (.access paths.privatePath)

/-- The key, where it returned 0. -/
def padlockTpmEnsureSealedKey : TpmTalk Public Private (Option (Bytes padlockTpmKeySize)) := do
  let home : Option CString ← say .getenvHome
  match padlockTpmPaths home with
  | none =>
    say (.setErrno enametoolong)
    return none
  | some paths =>
    let made : Int ← (ensureDirectoryTree (some paths.directory)).relay fun asked =>
      request (TpmRequest.system asked)
    if made ≠ 0 then
      return none
    let readable ← filesReadable paths
    let ready ← if readable then pure true else createKey tpm paths
    if !ready then
      return none
    unsealKey tpm paths

/-! ### Header passwords -/

def einval : Nat := 22

def hex : List UInt8 := ascii "0123456789abcdef"

def hexDigit (digit : UInt8) : UInt8 := hex.getD digit.toNat 0

/-- Two digits for each byte. -/
def hexText (bytes : List UInt8) : List UInt8 :=
  bytes.flatMap fun (byte : UInt8) => [hexDigit ((byte >>> 4) &&& 0x0f), hexDigit (byte &&& 0x0f)]

/-- The common text of the two derivations. The output is a null pointer or has a length; the result
is what is written to it, where the call returned 0. -/
def deriveFrom (text : Option CString) (output : Option Nat) :
    TpmTalk Public Private (Option (List UInt8)) := do
  match text, output with
  | some text, some outputLength =>
    if text.bytes = [] ∨ outputLength < 65 then
      say (.setErrno einval)
      return none
    match ← padlockTpmEnsureSealedKey tpm with
    | none => return none
    | some hmacKey =>
      let digest : Option (List UInt8) ← say (.hmac hmacKey text.bytes)
      match digest with
      | none =>
        say (.secureZero .hmacKey)
        return none
      | some digest =>
        if digest.length ≠ 32 then
          say (.secureZero .hmacKey)
          return none
        say (.secureZero .digest)
        say (.secureZero .hmacKey)
        return some (hexText digest ++ [0])
  | _, _ =>
    say (.setErrno einval)
    return none

def padlockDeriveHeaderPassword (loginPassword : Option CString) (output : Option Nat) :
    TpmTalk Public Private (Option (List UInt8)) :=
  deriveFrom tpm loginPassword output

def padlockDeriveUserHeaderPassword (username : Option CString) (output : Option Nat) :
    TpmTalk Public Private (Option (List UInt8)) :=
  deriveFrom tpm username output

/-- One call of the interface. -/
inductive Derivation where
  | headerPassword (loginPassword : Option CString) (output : Option Nat)
  | userHeaderPassword (username : Option CString) (output : Option Nat)

def derive : Derivation → TpmTalk Public Private (Option (List UInt8))
  | .headerPassword loginPassword output => padlockDeriveHeaderPassword tpm loginPassword output
  | .userHeaderPassword username output => padlockDeriveUserHeaderPassword tpm username output

/-- One call after the other. -/
def deriveEach : List Derivation → TpmTalk Public Private (List (Option (List UInt8)))
  | [] => pure []
  | derivation :: rest => do
    let derived ← derive tpm derivation
    let others ← deriveEach rest
    return derived :: others

end TpmTalk

end Calls

end Padlock
