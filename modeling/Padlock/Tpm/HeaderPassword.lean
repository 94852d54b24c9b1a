/-
This file follows the derivations to the header passwords that they write. The
files hold the first key that a run delivers from then on, so that it is the key
of the whole run, and a header password is the keyed digest of its text in
hexadecimal digits, whichever of the two functions is called, and whatever fails
in between.
-/

import Mathlib.Data.List.Nodup
import Padlock.Tpm.StandIn
import Padlock.Tpm.World

namespace Padlock

open Interaction Program

namespace TpmTalk

/-! ### Digits -/

theorem hexDigit_eq {digit : UInt8} (small : digit.toNat < hex.length) :
    hexDigit digit = hex[digit.toNat] := by
  rw [hexDigit, List.getD_eq_getElem?_getD, List.getElem?_eq_getElem small, Option.getD_some]

theorem hexDigit_injective {first second : UInt8} (firstSmall : first.toNat < hex.length)
    (secondSmall : second.toNat < hex.length) (same : hexDigit first = hexDigit second) :
    first = second := by
  have distinct : hex.Nodup := by decide
  rw [hexDigit_eq firstSmall, hexDigit_eq secondSmall] at same
  exact UInt8.toNat.inj (distinct.getElem_inj_iff.mp same)

/-- The digits of a byte are those of its number to the base 16. -/
theorem toNat_high (byte : UInt8) : ((byte >>> 4) &&& 0x0f).toNat = byte.toNat / 16 := by
  have small := byte.toNat_lt
  rw [UInt8.toNat_and, UInt8.toNat_shiftRight]
  show byte.toNat >>> 4 &&& (2 ^ 4 - 1) = _
  rw [Nat.and_two_pow_sub_one_eq_mod, Nat.shiftRight_eq_div_pow]
  omega

theorem toNat_low (byte : UInt8) : (byte &&& 0x0f).toNat = byte.toNat % 16 := by
  rw [UInt8.toNat_and]
  show byte.toNat &&& (2 ^ 4 - 1) = _
  rw [Nat.and_two_pow_sub_one_eq_mod]

theorem high_lt (byte : UInt8) : ((byte >>> 4) &&& 0x0f).toNat < hex.length := by
  have small := byte.toNat_lt
  rw [toNat_high, show hex.length = 16 from rfl]
  omega

theorem low_lt (byte : UInt8) : (byte &&& 0x0f).toNat < hex.length := by
  rw [toNat_low, show hex.length = 16 from rfl]
  exact Nat.mod_lt _ (by decide)

/-- Equal digits belong to equal bytes. -/
theorem byte_eq_of_digits {first second : UInt8}
    (high : hexDigit ((first >>> 4) &&& 0x0f) = hexDigit ((second >>> 4) &&& 0x0f))
    (low : hexDigit (first &&& 0x0f) = hexDigit (second &&& 0x0f)) : first = second := by
  have highSame := congrArg UInt8.toNat (hexDigit_injective (high_lt first) (high_lt second) high)
  have lowSame := congrArg UInt8.toNat (hexDigit_injective (low_lt first) (low_lt second) low)
  rw [toNat_high, toNat_high] at highSame
  rw [toNat_low, toNat_low] at lowSame
  refine UInt8.toNat.inj ?_
  rw [← Nat.div_add_mod first.toNat 16, ← Nat.div_add_mod second.toNat 16, highSame, lowSame]

/-- The digits determine the bytes. -/
theorem hexText_injective : Function.Injective hexText := by
  intro first
  induction first with
  | nil =>
    intro second same
    cases second with
    | nil => rfl
    | cons byte rest => cases same
  | cons byte rest inductionHypothesis =>
    intro second same
    cases second with
    | nil => cases same
    | cons other others =>
      obtain ⟨high, lower⟩ := List.cons.inj same
      obtain ⟨low, back⟩ := List.cons.inj lower
      rw [byte_eq_of_digits high low, inductionHypothesis back]

/-! ### One derivation -/

section Runs

variable {Public Private : Type} {tpm : Tpm Public Private}
  {hmac : Bytes padlockTpmKeySize → List UInt8 → List UInt8} {home : Option CString}

/-- The text that a derivation is given, where it is not refused at once. -/
def Derivation.text : Derivation → Option CString
  | .headerPassword text output | .userHeaderPassword text output =>
    text.filter fun text => text.bytes ≠ [] ∧ ∃ outputLength ∈ output, 65 ≤ outputLength

/-- What a derivation writes with a key: the digits of the keyed digest of its text, and a NUL. -/
def Derivation.Writes (hmac : Bytes padlockTpmKeySize → List UInt8 → List UInt8)
    (key : Bytes padlockTpmKeySize) (derivation : Derivation) (written : List UInt8) : Prop :=
  ∃ text, derivation.text = some text ∧ (hmac key text.bytes).length = 32 ∧
    written = hexText (hmac key text.bytes) ++ [0]

/-- One call for the key is behind what a derivation writes. -/
structure DerivedBy (tpm : Tpm Public Private)
    (hmac : Bytes padlockTpmKeySize → List UInt8 → List UInt8) (derivation : Derivation)
    (before : BlobFiles) (written : Option (List UInt8)) (outcomes : Outcomes Public Private)
    (after : BlobFiles) : Prop where
  files : (ensureStep tpm before outcomes).2 = after
  writes : ∀ text, written = some text → ∃ key, (ensureStep tpm before outcomes).1 = some key ∧
    derivation.Writes hmac key text

/-- A derivation that fails before its key is asked for. -/
theorem exists_derivedBy_none (derivation : Derivation) (files : BlobFiles) :
    ∃ outcomes, DerivedBy tpm hmac derivation files none outcomes files :=
  ⟨⟨false, false, ⟨false, false⟩, none, smoothConnecting, noSteps, smoothConnecting,
    smoothUnsealing⟩, rfl, nofun⟩

theorem ends_deriveFrom {derivation : Derivation} {text : Option CString} {output : Option Nat}
    (given : derivation.text =
      text.filter fun text => text.bytes ≠ [] ∧ ∃ outputLength ∈ output, 65 ≤ outputLength)
    {world : TpmWorld Public Private} (quiet : world.Quiet) :
    EndsWith tpm hmac home (deriveFrom tpm text output) world fun written final =>
      final.Quiet ∧ ∃ outcomes,
        DerivedBy tpm hmac derivation world.files written outcomes final.files := by
  have refused : EndsWith tpm hmac home (do
      say (.setErrno einval)
      return none) world fun written final => final.Quiet ∧ ∃ outcomes,
        DerivedBy tpm hmac derivation world.files written outcomes final.files := by
    refine ensures_request.mpr ?_
    rintro response final rfl
    exact ensures_done.mpr ⟨quiet, exists_derivedBy_none derivation _⟩
  cases text with
  | none => exact refused
  | some text =>
  cases output with
  | none => exact refused
  | some outputLength =>
  show Ensures _ (if text.bytes = [] ∨ outputLength < 65 then _ else _) _ _
  split
  case isTrue => exact refused
  case isFalse accepted =>
  rw [not_or, Nat.not_lt] at accepted
  have kept : derivation.text = some text := by
    rw [given, Option.filter_some]
    exact if_pos (decide_eq_true ⟨accepted.1, outputLength, rfl, accepted.2⟩)
  refine (ends_padlockTpmEnsureSealedKey quiet).bind ?_
  rintro key middle ⟨ended, outcomes, steps⟩
  -- however the rest ends without writing anything
  have nothing : DerivedBy tpm hmac derivation world.files none outcomes middle.files :=
    ⟨congrArg Prod.snd steps, nofun⟩
  cases key with
  | none => exact ensures_done.mpr ⟨ended, outcomes, nothing⟩
  | some hmacKey =>
  refine ensures_request.mpr ?_
  rintro digest last ⟨rfl, computed⟩
  cases digest with
  | none =>
    refine ensures_request.mpr ?_
    rintro response final rfl
    exact ensures_done.mpr ⟨ended, outcomes, nothing⟩
  | some digest =>
  obtain rfl : digest = hmac hmacKey text.bytes := by
    rcases computed with failed | computed
    · cases failed
    · exact Option.some.inj computed
  show Ensures _ (if (hmac hmacKey text.bytes).length ≠ 32 then _ else _) _ _
  split
  case isTrue =>
    refine ensures_request.mpr ?_
    rintro response final rfl
    exact ensures_done.mpr ⟨ended, outcomes, nothing⟩
  case isFalse whole =>
    refine ensures_request.mpr ?_
    rintro response last rfl
    refine ensures_request.mpr ?_
    rintro response final rfl
    refine ensures_done.mpr ⟨ended, outcomes, congrArg Prod.snd steps, ?_⟩
    rintro written ⟨⟩
    exact ⟨hmacKey, congrArg Prod.fst steps, text, kept, not_not.mp whole, rfl⟩

theorem ends_derive (derivation : Derivation) {world : TpmWorld Public Private}
    (quiet : world.Quiet) :
    EndsWith tpm hmac home (derive tpm derivation) world fun written final =>
      final.Quiet ∧ ∃ outcomes,
        DerivedBy tpm hmac derivation world.files written outcomes final.files := by
  cases derivation with
  | headerPassword loginPassword output => exact ends_deriveFrom rfl quiet
  | userHeaderPassword username output => exact ends_deriveFrom rfl quiet

/-! ### Runs -/

/-- What the derivations of a run have written, they have written with this key. -/
structure AllWrite (hmac : Bytes padlockTpmKeySize → List UInt8 → List UInt8)
    (key : Bytes padlockTpmKeySize) (derivations : List Derivation)
    (outputs : List (Option (List UInt8))) : Prop where
  each : outputs.length = derivations.length
  writes : ∀ derivation written, (derivation, some written) ∈ derivations.zip outputs →
    derivation.Writes hmac key written

theorem AllWrite.cons {key : Bytes padlockTpmKeySize} {derivation : Derivation}
    {derivations : List Derivation} {output : Option (List UInt8)}
    {outputs : List (Option (List UInt8))}
    (first : ∀ written, output = some written → derivation.Writes hmac key written)
    (others : AllWrite hmac key derivations outputs) :
    AllWrite hmac key (derivation :: derivations) (output :: outputs) := by
  refine ⟨congrArg (· + 1) others.each, fun other written member => ?_⟩
  rw [List.zip_cons_cons, List.mem_cons] at member
  rcases member with here | later
  · obtain ⟨rfl, same⟩ := Prod.mk.inj here
    exact first written same.symm
  · exact others.writes other written later

/-- On files that hold a key, everything is written with it. -/
theorem ends_deriveEach_of_holds {key : Bytes padlockTpmKeySize} (derivations : List Derivation)
    {world : TpmWorld Public Private} (quiet : world.Quiet) (holds : world.files.Holds tpm key) :
    EndsWith tpm hmac home (deriveEach tpm derivations) world fun outputs _ =>
      AllWrite hmac key derivations outputs := by
  induction derivations generalizing world with
  | nil => exact ensures_done.mpr ⟨rfl, nofun⟩
  | cons derivation rest inductionHypothesis =>
    refine (ends_derive derivation quiet).bind ?_
    rintro output middle ⟨ended, outcomes, derived⟩
    have same : middle.files = world.files :=
      derived.files.symm.trans (ensureStep_of_holds holds outcomes)
    refine (inductionHypothesis ended (same.symm ▸ holds)).bind fun outputs final others => ?_
    refine ensures_done.mpr (others.cons fun written is => ?_)
    obtain ⟨delivered, gave, writes⟩ := derived.writes written is
    have again : (ensureStep tpm world.files outcomes).2.Holds tpm delivered :=
      holds_of_delivered gave
    rw [ensureStep_of_holds holds outcomes] at again
    obtain rfl := again.unique holds
    exact writes

theorem ends_deriveEach (derivations : List Derivation) {world : TpmWorld Public Private}
    (quiet : world.Quiet) :
    EndsWith tpm hmac home (deriveEach tpm derivations) world fun outputs _ =>
      ∃ key, AllWrite hmac key derivations outputs := by
  induction derivations generalizing world with
  | nil => exact ensures_done.mpr ⟨uniformKey 0, rfl, nofun⟩
  | cons derivation rest inductionHypothesis =>
    refine (ends_derive derivation quiet).bind ?_
    rintro output middle ⟨ended, outcomes, derived⟩
    cases output with
    | none =>
      refine (inductionHypothesis ended).bind ?_
      rintro outputs final ⟨key, others⟩
      exact ensures_done.mpr ⟨key, others.cons nofun⟩
    | some written =>
      -- the first key of the run: the files hold it from here on
      obtain ⟨key, gave, writes⟩ := derived.writes written rfl
      have holds : (ensureStep tpm world.files outcomes).2.Holds tpm key := holds_of_delivered gave
      rw [derived.files] at holds
      refine (ends_deriveEach_of_holds rest ended holds).bind fun outputs final others => ?_
      refine ensures_done.mpr ⟨key, others.cons ?_⟩
      rintro _ ⟨⟩
      exact writes

end Runs

/-- Whatever the two files are at first, and whatever fails in a run of derivations, as long as a
file that is there is readable, there is one key with which everything in the run is written: the 64
hexadecimal digits of the keyed digest of its text, by either function. Two derivations of the run
write the same exactly when the digests of their texts are the same. -/
theorem header_passwords_of_one_key {Public Private : Type} (tpm : Tpm Public Private)
    (hmac : Bytes padlockTpmKeySize → List UInt8 → List UInt8) (home : Option CString)
    (files : BlobFiles) (derivations : List Derivation) :
    Ensures (tpmAnswers tpm hmac home) (deriveEach tpm derivations) (TpmWorld.resting files)
      fun outputs _ => ∃ key, AllWrite hmac key derivations outputs ∧
        ∀ first second firstWritten secondWritten,
          (first, some firstWritten) ∈ derivations.zip outputs →
          (second, some secondWritten) ∈ derivations.zip outputs →
            (firstWritten = secondWritten ↔
              first.text.map (hmac key ·.bytes) = second.text.map (hmac key ·.bytes)) := by
  have quiet : (TpmWorld.resting files : TpmWorld Public Private).Quiet := rfl
  refine (ends_deriveEach derivations quiet).imp ?_
  rintro outputs final ⟨key, all⟩
  refine ⟨key, all, fun first second firstWritten secondWritten firstOf secondOf => ?_⟩
  obtain ⟨firstText, firstIs, -, rfl⟩ := all.writes first firstWritten firstOf
  obtain ⟨secondText, secondIs, -, rfl⟩ := all.writes second secondWritten secondOf
  rw [firstIs, secondIs, Option.map_some, Option.map_some, Option.some.injEq,
    List.append_cancel_right_eq, hexText_injective.eq_iff]

/-! ### A run -/

/-- A system in which nothing fails. -/
def smoothSystem : (asked : SystemRequest) → SystemResponse asked
  | .stdio (.fopen _ _) => true
  | .stdio .fclose => true
  | .stdio (.seekRead _ count) => zeros count
  | .stdio (.seekWrite _ data) => data.length
  | .stdio (.malloc _) => true
  | .stdio (.free _) => ()
  | .mkdir _ _ => .created
  | .chmod _ _ => true
  | .mkstemp _ => none
  | .fchmod _ => true
  | .fdopen => true
  | .mallocBuffer => none
  | .openUrandom => true
  | .readUrandom _ => none
  | .closeUrandom => ()
  | .fwrite data => Fin.last data.length
  | .randBytes _ => none
  | .fflush => true
  | .fsync => true
  | .close => ()
  | .rename _ _ => true
  | .unlink _ => true

def sampleHome : CString := ⟨ascii "/r", by decide⟩

/-- A keyed digest of 32 bytes. -/
def sampleHmac (key : Bytes padlockTpmKeySize) (text : List UInt8) : List UInt8 :=
  List.replicate 32 (key.toList.headD 0 + text.headD 0)

/-- Surroundings in which nothing fails, with the stand-in for the TPM. -/
def smoothTpm : Server (TpmRequest UInt8 StandInPrivate) TpmResponse (TpmWorld UInt8 StandInPrivate)
  | .getenvHome, world => (some sampleHome, world)
  | .setErrno _, world => ((), world)
  | .system asked, world => (smoothSystem asked, world)
  | .access path, world =>
    ((padlockTpmPaths (some sampleHome)).any fun paths =>
      if path = paths.publicPath then world.files.publicBlob.isSome
      else world.files.privateBlob.isSome, world)
  | .randBytes, world => (some (uniformKey 7), world)
  | .tctiInitialize _, world => (true, world)
  | .tctiFinalize, world => ((), world)
  | .esysInitialize, world => (true, world)
  | .esysFinalize, world => ((), world)
  | .setAuth _, world => (true, world)
  | .createPrimary _, world => (true, world)
  | .create secret _, world => (some (1, ⟨1, secret⟩), world)
  | .load sealPrivate sealPublic, world =>
    (true, { world with loaded := some (sealPublic, sealPrivate) })
  | .esysUnseal, world =>
    (world.loaded.bind fun pair => standInTpm.unsealPair pair.1 pair.2, world)
  | .flushContext .loaded, world => ((), { world with loaded := none })
  | .flushContext _, world => ((), world)
  | .esysFree _, world => ((), world)
  | .fopen half _ .read, world =>
    if (world.files.get half).isSome then (true, world.setStream half (some ⟨0, []⟩))
    else (false, world)
  | .fopen half _ .write, world =>
    (true, (world.setFile half (some [])).setStream half (some ⟨0, []⟩))
  | .fclose half, world => ((), world.close half 4096)
  | .fwrite half data, world => (Fin.last data.length, world.append half data)
  | .seekEnd half, world => (true, world.seek half ((world.files.get half).getD []).length)
  | .ftell half, world => ((world.streams.get half).map BlobStream.position, world)
  | .seekStart half, world => (true, world.seek half 0)
  | .fread half count, world =>
    match world.streams.get half, world.files.get half with
    | some stream, some content =>
      (if whole : ((content.drop stream.position).take count).length = count then
        some ⟨(content.drop stream.position).take count, whole⟩ else none, world)
    | _, _ => (none, world)
  | .malloc _ _, world => (true, world)
  | .free _, world => ((), world)
  | .secureZero _, world => ((), world)
  | .hmac key text, world => (some (sampleHmac key text), world)

theorem smoothTpm_answers (asked : TpmRequest UInt8 StandInPrivate)
    (world : TpmWorld UInt8 StandInPrivate) :
    tpmAnswers standInTpm sampleHmac (some sampleHome) asked world (smoothTpm asked world).1
      (smoothTpm asked world).2 := by
  cases asked
  case getenvHome => exact ⟨rfl, rfl⟩
  case access path =>
    refine ⟨rfl, fun paths half found is => ?_⟩
    rw [smoothTpm, found, Option.any_some, is]
    cases half with
    | publicBlob => exact if_pos rfl
    | privateBlob =>
      have distinct : ∀ paths ∈ padlockTpmPaths (some sampleHome),
          paths.privatePath ≠ paths.publicPath := by
        decide
      exact if_neg (distinct paths found)
  case load => rfl
  case esysUnseal =>
    refine ⟨rfl, fun secret unsealed => ?_⟩
    obtain ⟨⟨sealPublic, sealPrivate⟩, held, pair⟩ := Option.bind_eq_some_iff.mp unsealed
    exact ⟨sealPublic, sealPrivate, held, pair⟩
  case flushContext handle => cases handle <;> rfl
  case fopen half path mode =>
    intro paths found is
    cases mode with
    | write => rfl
    | read =>
      rw [smoothTpm]
      split
      case isTrue there => exact ⟨Option.isSome_iff_ne_none.mp there, rfl⟩
      case isFalse => rfl
  case fclose half => exact ⟨4096, rfl⟩
  case fwrite half data =>
    show _ = world.append half (data.take data.length)
    rw [List.take_length]
    rfl
  case seekEnd => rfl
  case ftell => exact ⟨rfl, fun position told => told⟩
  case seekStart => rfl
  case fread half count =>
    rw [smoothTpm]
    split
    case h_1 stream content opened held =>
      refine ⟨rfl, fun bytes read => ?_⟩
      split at read
      · obtain rfl := Option.some.inj read
        exact ⟨stream, content, opened, held, rfl⟩
      · cases read
    case h_2 =>
      refine ⟨rfl, fun bytes read => ?_⟩
      cases read
  case hmac => exact ⟨rfl, .inr rfl⟩
  all_goals rfl

/-- Both functions with the same text, and an output that is too short. -/
def sampleDerivations : List Derivation :=
  [.headerPassword (some sampleUser) (some 65), .userHeaderPassword (some sampleUser) (some 65),
    .headerPassword (some sampleUser) (some 64)]

/-- The digits of the sample digest. -/
def sampleWritten : List UInt8 := hexText (List.replicate 32 0x68) ++ [0]

/-- From no files at all: the first call creates the pair, the second reads it, and the third is
refused. -/
theorem header_passwords_of_one_key_sample :
    ∃ final key, Exec (tpmAnswers standInTpm sampleHmac (some sampleHome))
        (deriveEach standInTpm sampleDerivations) (TpmWorld.resting BlobFiles.absent)
        [some sampleWritten, some sampleWritten, none] final ∧
      AllWrite sampleHmac key sampleDerivations [some sampleWritten, some sampleWritten, none] := by
  have ran : ((deriveEach standInTpm sampleDerivations).run smoothTpm
      (TpmWorld.resting BlobFiles.absent)).map Prod.fst =
        some [some sampleWritten, some sampleWritten, none] := by
    decide +kernel
  obtain ⟨⟨outputs, final⟩, run, rfl⟩ := Option.map_eq_some_iff.mp ran
  have execution := exec_of_run smoothTpm_answers run
  obtain ⟨key, all, -⟩ := header_passwords_of_one_key standInTpm sampleHmac (some sampleHome)
    BlobFiles.absent sampleDerivations _ _ execution
  exact ⟨final, key, execution, all⟩


end TpmTalk

end Padlock
