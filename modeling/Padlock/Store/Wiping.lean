/-
This file asks when `padlock_get` wipes the plaintext it gives back to the heap.
The buffers of a record that passes are wiped before they are freed. Not wiped
are the copy of a value when a later record replaces it or the scan fails, the
record when there is no block for the copy of its value, and the output of a
decryption that fails. So the answer depends on whether the scan ever makes a
copy, and on what OpenSSL leaves behind when it fails.

The calls run here with every free recorded, over a file whose reads may come
short and a heap that may refuse any block.
-/

import Padlock.Store.Overread
import Padlock.Store.Offsets

namespace Padlock

open Interaction

/-- The block holds no plaintext, or only the zeros it was wiped with. -/
def Block.Wiped : Block → Prop
  | .plaintext contents => ∀ byte ∈ contents, byte = 0
  | .other _ => True

/-- Streams and heap over a file that stays as it is. The state is what was freed so far, each
block with its contents at that moment; reads may come short, and any other request may fail. -/
def freeing (file : File) : Surroundings Request Response (List Block)
  | .seekRead offset count, freed, bytes, next =>
    bytes <+: Span.read offset count file.bytes ∧ next = freed
  | .free block, freed, _, next => next = freed ++ [block]
  | _, freed, _, next => next = freed

/-- In every execution of a lookup, whatever the reads and the allocations give, every block is
wiped when it is freed. -/
def GetWipes (ssl : OpenSsl) (password key : CString) (file : File) : Prop :=
  ∀ path result freed, Program.Exec (freeing file) (callGet ssl path password key) [] result freed →
    ∀ block ∈ freed, block.Wiped

section Walk

variable (ssl : OpenSsl) (xtsKey : Bytes padlockXtsKeySize) (header : Header) (key : CString)
  (file : File)

/-- The records lead to an offset: each can be read and decrypted in the length the code computes
for it, passes the checks, and has another key than the one looked for. -/
inductive Comes : UInt64 → Prop
  | initial : Comes (UInt64.ofNat padlockHeaderSize)
  | next {offset : UInt64} {keySize : UInt8} {valueLength : UInt32}
      {plain : Bytes (align16 (entryLength keySize valueLength)).toNat}
      (earlier : Comes offset) (passes : Passes ssl xtsKey header file offset keySize valueLength)
      (decrypted : file.plainAt ssl xtsKey offset
        (align16 (entryLength keySize valueLength)).toNat = some plain)
      (differs : keySize.toNat = key.bytes.length →
        ∃ other, plain.load 1 key.bytes.length = some other ∧ other ≠ key.bytes) :
      Comes (offset + align16 (entryLength keySize valueLength))

/-- The second read of a round is made, and gives this ciphertext. -/
structure PrefixRead (offset : UInt64) (keySize : UInt8)
    (cipher : Bytes (prefixLength keySize).toNat) : Prop where
  entered : offset + 16 ≤ header.writeOffset
  first : ∃ block, file.plainAt ssl xtsKey offset 16 = some block ∧
    block.toList.headD 0 = keySize
  nonzero : keySize ≠ 0
  inside : ¬ offset + prefixLength keySize > header.writeOffset
  read : file.readAt offset.toNat (prefixLength keySize).toNat = some cipher

/-- The lookup has nothing to wipe but what it does wipe: no record it comes to has the key looked
for, and no decryption it comes to fails after it has put anything but zeros into its output. -/
structure NothingLeft : Prop where
  absent : ∀ offset keySize valueLength plain, Comes ssl xtsKey header key file offset →
    Passes ssl xtsKey header file offset keySize valueLength →
    file.plainAt ssl xtsKey offset (align16 (entryLength keySize valueLength)).toNat = some plain →
    ¬ (keySize.toNat = key.bytes.length ∧ plain.load 1 key.bytes.length = some key.bytes)
  prefixes : ∀ offset keySize cipher, Comes ssl xtsKey header key file offset →
    PrefixRead ssl xtsKey header file offset keySize cipher →
    cryptXts ssl false xtsKey offset cipher = none →
    (failedOutput ssl xtsKey offset cipher).Wiped
  entries : ∀ offset keySize valueLength cipher, Comes ssl xtsKey header key file offset →
    Passes ssl xtsKey header file offset keySize valueLength →
    file.readAt offset.toNat (align16 (entryLength keySize valueLength)).toNat = some cipher →
    cryptXts ssl false xtsKey offset cipher = none →
    (failedOutput ssl xtsKey offset cipher).Wiped

end Walk

/-! ### Requests that record what is freed -/

section Requests

variable {Result : Type} {file : File} {freed : List Block}
  {condition : Result → List Block → Prop}

theorem wiped_zeros (size : Nat) : (Block.plaintext (zeros size)).Wiped :=
  fun _ member => List.eq_of_mem_replicate member

theorem ensures_malloc {size : Nat} {next : Bool → Stdio Result}
    (rest : ∀ allocated, Program.Ensures (freeing file) (next allocated) freed condition) :
    Program.Ensures (freeing file) (ask (.malloc size) >>= next) freed condition := by
  refine Program.ensures_request.mpr ?_
  rintro allocated _ rfl
  exact rest allocated

theorem ensures_freeBlock {block : Option Block} {next : Unit → Stdio Result}
    (wiped : ∀ given ∈ block, given.Wiped) (holds : ∀ given ∈ freed, given.Wiped)
    (rest : ∀ freed, (∀ given ∈ freed, given.Wiped) →
      Program.Ensures (freeing file) (next ()) freed condition) :
    Program.Ensures (freeing file) (freeBlock block >>= next) freed condition := by
  cases block with
  | none => exact rest freed holds
  | some block =>
    refine Program.ensures_request.mpr ?_
    rintro _ _ rfl
    refine rest _ ?_
    intro given member
    obtain earlier | last := List.mem_append.mp member
    · exact holds given earlier
    · rw [List.mem_singleton.mp last]
      exact wiped block rfl

/-- The end of a failed step: its two blocks are freed, wiped. -/
theorem ensures_free_two {first second : Option Block} {result : Result}
    (firstWiped : ∀ given ∈ first, given.Wiped) (secondWiped : ∀ given ∈ second, given.Wiped)
    (holds : ∀ given ∈ freed, given.Wiped)
    (ended : ∀ final, (∀ given ∈ final, given.Wiped) → condition result final) :
    Program.Ensures (freeing file) (do
      freeBlock first
      freeBlock second
      return result) freed condition := by
  refine ensures_freeBlock firstWiped holds fun freed holds => ?_
  refine ensures_freeBlock secondWiped holds fun freed holds => ?_
  exact Program.ensures_done.mpr (ended freed holds)

/-- The end of a round: its four blocks are freed, wiped. -/
theorem ensures_free_four {first second third fourth : Option Block} {result : Result}
    (firstWiped : ∀ given ∈ first, given.Wiped) (secondWiped : ∀ given ∈ second, given.Wiped)
    (thirdWiped : ∀ given ∈ third, given.Wiped) (fourthWiped : ∀ given ∈ fourth, given.Wiped)
    (holds : ∀ given ∈ freed, given.Wiped)
    (ended : ∀ final, (∀ given ∈ final, given.Wiped) → condition result final) :
    Program.Ensures (freeing file) (do
      freeBlock first
      freeBlock second
      freeBlock third
      freeBlock fourth
      return result) freed condition := by
  refine ensures_freeBlock firstWiped holds fun freed holds => ?_
  refine ensures_freeBlock secondWiped holds fun freed holds => ?_
  exact ensures_free_two thirdWiped fourthWiped holds ended

/-- What a read gives in full is the range of the file. -/
theorem ensures_seekRead {offset : UInt64} {count : Nat}
    {next : Option (Bytes count) → Stdio Result}
    (missing : Program.Ensures (freeing file) (next none) freed condition)
    (rest : ∀ bytes, file.readAt offset.toNat count = some bytes →
      Program.Ensures (freeing file) (next (some bytes)) freed condition) :
    Program.Ensures (freeing file) (seekRead offset count >>= next) freed condition := by
  unfold seekRead
  split
  · refine Program.ensures_request.mpr ?_
    rintro bytes _ ⟨short, rfl⟩
    by_cases full : bytes.length = count
    · have whole := eq_of_isPrefix_read short full
      simp only [dif_pos full]
      exact rest _ (readAt_eq_some.mpr whole.symm)
    · simp only [dif_neg full]
      exact missing
  · exact missing

end Requests

/-! ### Lookups that leave nothing -/

section Scan

variable {ssl : OpenSsl} {xtsKey : Bytes padlockXtsKeySize} {header : Header} {key : CString}
  {file : File} {freed : List Block}

theorem wiped_other {size : Nat} : ∀ given ∈ some (Block.other size), given.Wiped := by
  rintro _ ⟨⟩
  trivial

theorem wiped_plaintext {size : Nat} :
    ∀ given ∈ some (Block.plaintext (zeros size)), given.Wiped := by
  rintro _ ⟨⟩
  exact wiped_zeros size

theorem wiped_if {allocated : Bool} {size : Nat} :
    ∀ given ∈ (if allocated then some (Block.other size) else none), given.Wiped := by
  cases allocated with
  | false => rintro _ ⟨⟩
  | true => exact wiped_other

/-- The second read of a round frees only wiped blocks, and what it gives is the prefix. -/
theorem NothingLeft.readPrefix (left : NothingLeft ssl xtsKey header key file) {offset : UInt64}
    {keySize : UInt8} (comes : Comes ssl xtsKey header key file offset)
    (entered : offset + 16 ≤ header.writeOffset)
    (first : ∃ block, file.plainAt ssl xtsKey offset 16 = some block ∧
      block.toList.headD 0 = keySize)
    (nonzero : keySize ≠ 0) (holds : ∀ given ∈ freed, given.Wiped) :
    Program.Ensures (freeing file) (readPrefix ssl xtsKey header offset keySize) freed
      fun response final => (∀ given ∈ final, given.Wiped) ∧
        ∀ plain, response = some plain → ¬ offset + prefixLength keySize > header.writeOffset ∧
          file.plainAt ssl xtsKey offset (prefixLength keySize).toNat = some plain := by
  unfold Padlock.readPrefix
  dsimp only
  split
  · exact Program.ensures_done.mpr ⟨holds, nofun⟩
  rename_i inside
  refine ensures_malloc fun cipherAllocated => ensures_malloc fun plainAllocated => ?_
  split
  · exact ensures_free_two wiped_if wiped_if holds fun final holds => ⟨holds, nofun⟩
  refine ensures_seekRead ?_ fun cipher read => ?_
  · exact ensures_free_two wiped_other wiped_other holds fun final holds => ⟨holds, nofun⟩
  dsimp only
  cases decrypted : cryptXts ssl false xtsKey offset cipher with
  | none =>
    have output := left.prefixes offset keySize cipher comes
      ⟨entered, first, nonzero, inside, read⟩ decrypted
    refine ensures_free_two wiped_other ?_ holds fun final holds => ⟨holds, nofun⟩
    rintro _ ⟨⟩
    exact output
  | some plain =>
    refine Program.ensures_done.mpr ⟨holds, ?_⟩
    rintro _ ⟨⟩
    refine ⟨inside, ?_⟩
    rw [File.plainAt, read, Option.bind_some, decrypted]

/-- A round ends without a copy, and goes on to where the records lead. -/
def Round.Bare (ssl : OpenSsl) (xtsKey : Bytes padlockXtsKeySize) (header : Header)
    (key : CString) (file : File) {offset : UInt64} : Round offset → Prop
  | .done found => found = none
  | .next following _ found => found = none ∧ Comes ssl xtsKey header key file following

theorem NothingLeft.readEntry (left : NothingLeft ssl xtsKey header key file) {offset : UInt64}
    {keySize : UInt8} {valueLength : UInt32} (comes : Comes ssl xtsKey header key file offset)
    (seekable : offset.toNat < 2 ^ 63)
    (passes : ¬ (align16 (entryLength keySize valueLength) < 16 ∨
        offset + align16 (entryLength keySize valueLength) > header.writeOffset) →
      Passes ssl xtsKey header file offset keySize valueLength)
    (prefixSize : Nat) (holds : ∀ given ∈ freed, given.Wiped) :
    Program.Ensures (freeing file)
      (readEntry ssl xtsKey header key offset seekable keySize valueLength prefixSize none) freed
      fun round final => (∀ given ∈ final, given.Wiped) ∧
        round.Bare ssl xtsKey header key file := by
  unfold Padlock.readEntry
  dsimp only
  split
  · exact ensures_free_two wiped_other wiped_plaintext holds fun final holds => ⟨holds, rfl⟩
  rename_i inside
  have passed := passes inside
  refine ensures_malloc fun cipherAllocated => ensures_malloc fun plainAllocated => ?_
  split
  · exact ensures_free_four wiped_other wiped_plaintext wiped_if wiped_if holds
      fun final holds => ⟨holds, rfl⟩
  refine ensures_seekRead ?_ fun cipher read => ?_
  · exact ensures_free_four wiped_other wiped_plaintext wiped_other wiped_other holds
      fun final holds => ⟨holds, rfl⟩
  dsimp only
  cases decrypted : cryptXts ssl false xtsKey offset cipher with
  | none =>
    have output := left.entries offset keySize valueLength cipher comes passed read decrypted
    refine ensures_free_four wiped_other wiped_plaintext wiped_other ?_ holds
      fun final holds => ⟨holds, rfl⟩
    rintro _ ⟨⟩
    exact output
  | some plain =>
    have plainAt : file.plainAt ssl xtsKey offset
        (align16 (entryLength keySize valueLength)).toNat = some plain := by
      rw [File.plainAt, read, Option.bind_some, decrypted]
    have absent := left.absent offset keySize valueLength plain comes passed plainAt
    dsimp only
    split
    · rename_i sameLength
      refine Program.ensures_bounded fun entryKey loaded => ?_
      split
      · rename_i same
        exact absurd ⟨sameLength, by rw [loaded, same]⟩ absent
      · rename_i different
        exact ensures_free_four wiped_other wiped_plaintext wiped_other wiped_plaintext holds
          fun final holds =>
            ⟨holds, rfl, .next comes passed plainAt fun _ => ⟨entryKey, loaded, different⟩⟩
    · rename_i otherLength
      exact ensures_free_four wiped_other wiped_plaintext wiped_other wiped_plaintext holds
        fun final holds => ⟨holds, rfl, .next comes passed plainAt fun sameLength =>
          absurd sameLength otherLength⟩

theorem NothingLeft.scanRound (left : NothingLeft ssl xtsKey header key file) {offset : UInt64}
    (comes : Comes ssl xtsKey header key file offset) (entered : offset + 16 ≤ header.writeOffset)
    (holds : ∀ given ∈ freed, given.Wiped) :
    Program.Ensures (freeing file) (scanRound ssl xtsKey header key offset none) freed
      fun round final => (∀ given ∈ final, given.Wiped) ∧
        round.Bare ssl xtsKey header key file := by
  have ended {freed : List Block} (holds : ∀ given ∈ freed, given.Wiped) :
      Program.Ensures (freeing file) (.done (.done none : Round offset)) freed
        fun round final => (∀ given ∈ final, given.Wiped) ∧
          round.Bare ssl xtsKey header key file :=
    Program.ensures_done.mpr ⟨holds, rfl⟩
  unfold Padlock.scanRound
  split
  · rename_i seekable
    refine ensures_seekRead (ended holds) fun cipher read => ?_
    dsimp only
    cases decrypted : cryptXts ssl false xtsKey offset cipher with
    | none => exact ended holds
    | some block =>
      dsimp only
      have first : file.plainAt ssl xtsKey offset 16 = some block := by
        rw [File.plainAt, read, Option.bind_some, decrypted]
      split
      · exact ended holds
      rename_i nonzero
      refine (left.readPrefix comes entered ⟨block, first, rfl⟩ nonzero holds).bind ?_
      rintro response middle ⟨holds, given⟩
      cases response with
      | none => exact ended holds
      | some prefixPlain =>
        obtain ⟨prefixInside, second⟩ := given prefixPlain rfl
        refine Program.ensures_bounded fun valueLength loaded => ?_
        refine left.readEntry comes seekable ?_ _ holds
        intro inside
        refine ⟨entered, ⟨block, first, rfl⟩, nonzero, prefixInside, ⟨prefixPlain, second, ?_⟩,
          inside⟩
        rw [(Bytes.load_eq_some.mp loaded).2]
  · exact ended holds

theorem NothingLeft.scan (left : NothingLeft ssl xtsKey header key file) {offset : UInt64}
    (comes : Comes ssl xtsKey header key file offset) (holds : ∀ given ∈ freed, given.Wiped) :
    Program.Ensures (freeing file) (scan ssl xtsKey header key offset none) freed
      fun finish final => (∀ given ∈ final, given.Wiped) ∧ finish.found = none := by
  induction rest : 2 ^ 64 - offset.toNat using Nat.strongRecOn generalizing offset freed with
  | _ rest inductionHypothesis =>
    rw [Padlock.scan]
    split
    · rename_i entered
      refine (left.scanRound comes entered holds).bind ?_
      rintro round middle ⟨holds, bare⟩
      cases round with
      | done found =>
        obtain rfl : found = none := bare
        exact Program.ensures_done.mpr ⟨holds, rfl⟩
      | next following above found =>
        obtain ⟨rfl, later⟩ : found = none ∧ Comes ssl xtsKey header key file following := bare
        have bound := following.toNat_lt
        rw [UInt64.lt_iff_toNat_lt] at above
        exact inductionHypothesis _ (by omega) later holds rfl
    · exact Program.ensures_done.mpr ⟨holds, rfl⟩

end Scan

/-! ### Lookups that leave something -/

section Leaks

variable {Result : Type} {ssl : OpenSsl} {xtsKey : Bytes padlockXtsKeySize} {header : Header}
  {password key : CString} {file : File} {freed final : List Block}

theorem exec_malloc (allocated : Bool) {size : Nat} {next : Bool → Stdio Result} {result : Result}
    (rest : Program.Exec (freeing file) (next allocated) freed result final) :
    Program.Exec (freeing file) (ask (.malloc size) >>= next) freed result final :=
  .ask rfl rest

theorem exec_free (block : Block) {next : Unit → Stdio Result} {result : Result}
    (rest : Program.Exec (freeing file) (next ()) (freed ++ [block]) result final) :
    Program.Exec (freeing file) (freeBlock (some block) >>= next) freed result final :=
  Program.exec_request_bind.mpr ⟨(), _, rfl, rest⟩

theorem exec_free_two {first second : Block} {result : Result} :
    Program.Exec (freeing file) (do
      freeBlock (some first)
      freeBlock (some second)
      return result) freed result (freed ++ [first] ++ [second]) :=
  exec_free first (exec_free second (.done _ _))

theorem exec_free_four {first second third fourth : Block} {result : Result} :
    Program.Exec (freeing file) (do
      freeBlock (some first)
      freeBlock (some second)
      freeBlock (some third)
      freeBlock (some fourth)
      return result) freed result (freed ++ [first] ++ [second] ++ [third] ++ [fourth]) :=
  exec_free first (exec_free second exec_free_two)

theorem exec_seekRead {offset : UInt64} (seekable : offset.toNat < 2 ^ 63) {count : Nat}
    {bytes : Bytes count} (read : file.readAt offset.toNat count = some bytes)
    {next : Option (Bytes count) → Stdio Result} {result : Result}
    (rest : Program.Exec (freeing file) (next (some bytes)) freed result final) :
    Program.Exec (freeing file) (seekRead offset count >>= next) freed result final := by
  have whole : bytes.toList <+: Span.read offset.toNat count file.bytes :=
    readAt_eq_some.mp read ▸ List.prefix_refl _
  refine Program.exec_bind.mpr ⟨some bytes, freed, ?_, rest⟩
  rw [seekRead, if_pos seekable]
  refine Program.exec_request_bind.mpr ⟨bytes.toList, freed, ⟨whole, rfl⟩, ?_⟩
  rw [dif_pos bytes.lengthEq]
  exact .done _ _

theorem exec_bounded_some {Outcome : Type} {bound : Option Outcome} {value : Outcome}
    (inside : bound = some value) {next : Outcome → Stdio Result} {result : Result}
    (rest : Program.Exec (freeing file) (next value) freed result final) :
    Program.Exec (freeing file) (Program.bounded bound >>= next) freed result final :=
  Program.exec_bounded.mpr ⟨value, inside, rest⟩

/-- What a range decrypts to, in its two steps. -/
theorem exists_cipher {offset : UInt64} {count : Nat} {plain : Bytes count}
    (decrypted : file.plainAt ssl xtsKey offset count = some plain) :
    ∃ cipher, file.readAt offset.toNat count = some cipher ∧
      cryptXts ssl false xtsKey offset cipher = some plain :=
  Option.bind_eq_some_iff.mp decrypted

/-- A round whose first block decrypts goes on with the second read. -/
theorem exec_scanRound_first {offset : UInt64} {keySize : UInt8} {round : Round offset}
    (seekable : offset.toNat < 2 ^ 63)
    (first : ∃ block, file.plainAt ssl xtsKey offset 16 = some block ∧
      block.toList.headD 0 = keySize) (nonzero : keySize ≠ 0)
    (rest : Program.Exec (freeing file) (do
      let some prefixPlain ← readPrefix ssl xtsKey header offset keySize | return .done none
      let valueLength ← Program.bounded (prefixPlain.load (1 + keySize.toNat) 4)
      readEntry ssl xtsKey header key offset seekable keySize (getU32 valueLength)
        (prefixLength keySize).toNat none) freed round final) :
    Program.Exec (freeing file) (scanRound ssl xtsKey header key offset none) freed round
      final := by
  obtain ⟨block, decrypted, rfl⟩ := first
  obtain ⟨cipher, read, plain⟩ := exists_cipher decrypted
  rw [scanRound, dif_pos seekable]
  refine exec_seekRead seekable read ?_
  simp only [plain, if_neg nonzero]
  exact rest

/-- A round whose second decryption fails leaves the output of that. -/
theorem PrefixRead.exec_failed {offset : UInt64} {keySize : UInt8}
    {cipher : Bytes (prefixLength keySize).toNat}
    (reads : PrefixRead ssl xtsKey header file offset keySize cipher)
    (failed : cryptXts ssl false xtsKey offset cipher = none) :
    ∃ final, Program.Exec (freeing file) (scanRound ssl xtsKey header key offset none) freed
        (.done none) final ∧ failedOutput ssl xtsKey offset cipher ∈ final := by
  have seekable : offset.toNat < 2 ^ 63 := by
    obtain ⟨block, decrypted, -⟩ := reads.first
    exact seekable_of_plainAt ssl xtsKey decrypted (by decide)
  refine ⟨_, exec_scanRound_first seekable reads.first reads.nonzero (Program.exec_bind.mpr
      ⟨none, freed ++ [.other (prefixLength keySize).toNat] ++
        [failedOutput ssl xtsKey offset cipher], ?_, .done _ _⟩),
    List.mem_append_right _ List.mem_cons_self⟩
  rw [readPrefix, if_neg reads.inside]
  refine exec_malloc true (exec_malloc true ?_)
  simp only [Bool.not_true, Bool.or_self, Bool.false_eq_true, if_false]
  refine exec_seekRead seekable reads.read ?_
  simp only [failed]
  exact exec_free_two

/-- A round that passes its checks goes on with the third read. -/
theorem Passes.exec_scanRound {offset : UInt64} {keySize : UInt8} {valueLength : UInt32}
    {round : Round offset} (passes : Passes ssl xtsKey header file offset keySize valueLength)
    (seekable : offset.toNat < 2 ^ 63)
    (rest : Program.Exec (freeing file) (readEntry ssl xtsKey header key offset seekable keySize
      valueLength (prefixLength keySize).toNat none) freed round final) :
    Program.Exec (freeing file) (scanRound ssl xtsKey header key offset none) freed round
      final := by
  obtain ⟨prefixPlain, decrypted, rfl⟩ := passes.second
  obtain ⟨cipher, read, plain⟩ := exists_cipher decrypted
  have inside : 1 + keySize.toNat + 4 ≤ (prefixLength keySize).toNat := by
    have := le_padded (5 + keySize.toNat)
    rw [prefixLength_toNat]
    omega
  refine exec_scanRound_first seekable passes.first passes.nonzero
    (Program.exec_bind.mpr ⟨some prefixPlain, freed, ?_, ?_⟩)
  · rw [readPrefix, if_neg passes.prefixInside]
    refine exec_malloc true (exec_malloc true ?_)
    simp only [Bool.not_true, Bool.or_self, Bool.false_eq_true, if_false]
    refine exec_seekRead seekable read ?_
    simp only [plain]
    exact .done _ _
  · exact exec_bounded_some (if_pos inside) rest

theorem Passes.seekable {offset : UInt64} {keySize : UInt8} {valueLength : UInt32}
    (passes : Passes ssl xtsKey header file offset keySize valueLength) :
    offset.toNat < 2 ^ 63 := by
  obtain ⟨block, decrypted, -⟩ := passes.first
  exact seekable_of_plainAt ssl xtsKey decrypted (by decide)

/-- A round whose third decryption fails leaves the output of that. -/
theorem Passes.exec_failed {offset : UInt64} {keySize : UInt8} {valueLength : UInt32}
    {cipher : Bytes (align16 (entryLength keySize valueLength)).toNat}
    (passes : Passes ssl xtsKey header file offset keySize valueLength)
    (read : file.readAt offset.toNat (align16 (entryLength keySize valueLength)).toNat =
      some cipher) (failed : cryptXts ssl false xtsKey offset cipher = none) :
    ∃ final, Program.Exec (freeing file) (scanRound ssl xtsKey header key offset none) freed
        (.done none) final ∧ failedOutput ssl xtsKey offset cipher ∈ final := by
  refine ⟨freed ++ [.other (prefixLength keySize).toNat] ++
      [.plaintext (zeros (prefixLength keySize).toNat)] ++
      [.other (align16 (entryLength keySize valueLength)).toNat] ++
      [failedOutput ssl xtsKey offset cipher],
    passes.exec_scanRound passes.seekable ?_, List.mem_append_right _ List.mem_cons_self⟩
  rw [readEntry]
  dsimp only
  rw [dif_neg passes.inside]
  refine exec_malloc true (exec_malloc true ?_)
  simp only [Bool.not_true, Bool.or_self, Bool.false_eq_true, if_false]
  refine exec_seekRead passes.seekable read ?_
  simp only [failed]
  exact exec_free_four

/-- A round at a record with the key leaves the record, when there is no block for the copy of its
value. -/
theorem Passes.exec_matching {offset : UInt64} {keySize : UInt8} {valueLength : UInt32}
    {plain : Bytes (align16 (entryLength keySize valueLength)).toNat}
    (passes : Passes ssl xtsKey header file offset keySize valueLength)
    (decrypted : file.plainAt ssl xtsKey offset
      (align16 (entryLength keySize valueLength)).toNat = some plain)
    (sameLength : keySize.toNat = key.bytes.length)
    (same : plain.load 1 key.bytes.length = some key.bytes) :
    ∃ final, Program.Exec (freeing file) (scanRound ssl xtsKey header key offset none) freed
        (.done none) final ∧ .plaintext plain.toList ∈ final := by
  obtain ⟨cipher, read, plainEq⟩ := exists_cipher decrypted
  refine ⟨freed ++ [.other (align16 (entryLength keySize valueLength)).toNat] ++
      [.plaintext plain.toList],
    passes.exec_scanRound passes.seekable ?_, List.mem_append_right _ List.mem_cons_self⟩
  rw [readEntry]
  dsimp only
  rw [dif_neg passes.inside]
  refine exec_malloc true (exec_malloc true ?_)
  simp only [Bool.not_true, Bool.or_self, Bool.false_eq_true, if_false]
  refine exec_seekRead passes.seekable read ?_
  simp only [plainEq, if_pos sameLength]
  refine exec_bounded_some same ?_
  rw [if_pos rfl]
  exact exec_malloc false exec_free_two

/-- A round over a record with another key goes on. -/
theorem Passes.exec_next {offset : UInt64} {keySize : UInt8} {valueLength : UInt32}
    {plain : Bytes (align16 (entryLength keySize valueLength)).toNat}
    (passes : Passes ssl xtsKey header file offset keySize valueLength)
    (decrypted : file.plainAt ssl xtsKey offset
      (align16 (entryLength keySize valueLength)).toNat = some plain)
    (differs : keySize.toNat = key.bytes.length →
      ∃ other, plain.load 1 key.bytes.length = some other ∧ other ≠ key.bytes) :
    ∃ above final, Program.Exec (freeing file) (scanRound ssl xtsKey header key offset none) freed
      (.next (offset + align16 (entryLength keySize valueLength)) above none) final := by
  obtain ⟨cipher, read, plainEq⟩ := exists_cipher decrypted
  refine ⟨advance passes.seekable (not_or.mp passes.inside).1,
    freed ++ [.other (prefixLength keySize).toNat] ++
      [.plaintext (zeros (prefixLength keySize).toNat)] ++
      [.other (align16 (entryLength keySize valueLength)).toNat] ++
      [.plaintext (zeros (align16 (entryLength keySize valueLength)).toNat)],
    passes.exec_scanRound passes.seekable ?_⟩
  rw [readEntry]
  dsimp only
  rw [dif_neg passes.inside]
  refine exec_malloc true (exec_malloc true ?_)
  simp only [Bool.not_true, Bool.or_self, Bool.false_eq_true, if_false]
  refine exec_seekRead passes.seekable read ?_
  simp only [plainEq]
  split
  · rename_i sameLength
    obtain ⟨other, loaded, different⟩ := differs sameLength
    refine exec_bounded_some loaded ?_
    rw [if_neg different]
    exact exec_free_four
  · exact exec_free_four

/-- The scan comes to every offset that the records lead to, with no copy in its hands. -/
theorem Comes.exec_scan {offset : UInt64} (comes : Comes ssl xtsKey header key file offset) :
    ∃ freed, ∀ finish final,
      Program.Exec (freeing file) (scan ssl xtsKey header key offset none) freed finish final →
      Program.Exec (freeing file) (scan ssl xtsKey header key (UInt64.ofNat padlockHeaderSize) none)
        [] finish final := by
  induction comes with
  | initial => exact ⟨[], fun finish final execution => execution⟩
  | next earlier passes decrypted differs inductionHypothesis =>
    obtain ⟨freed, reached⟩ := inductionHypothesis
    obtain ⟨above, final, round⟩ := passes.exec_next decrypted differs
    refine ⟨final, fun finish last rest => reached finish last ?_⟩
    rw [scan, if_pos passes.entered]
    exact Program.exec_bind.mpr ⟨_, final, round, rest⟩

/-- A round at an offset that the records lead to can end the call. -/
theorem Comes.exec_get {offset : UInt64} (comes : Comes ssl xtsKey header key file offset)
    (opens : Opens ssl password file header xtsKey) (entered : offset + 16 ≤ header.writeOffset)
    {block : Block}
    (leaks : ∀ freed, ∃ final, Program.Exec (freeing file)
      (scanRound ssl xtsKey header key offset none) freed (.done none) final ∧ block ∈ final)
    (path : CString) :
    ∃ final, Program.Exec (freeing file) (callGet ssl path password key) [] none final ∧
      block ∈ final := by
  obtain ⟨freed, reached⟩ := comes.exec_scan
  obtain ⟨final, round, member⟩ := leaks freed
  have scanned : Program.Exec (freeing file)
      (scan ssl xtsKey header key (UInt64.ofNat padlockHeaderSize) none) []
      { found := none, complete := false } final := by
    refine reached _ _ ?_
    rw [scan, if_pos entered]
    exact Program.exec_bind.mpr ⟨_, final, round, .done _ _⟩
  have read : Program.Exec (freeing file) readHeader [] (some header) [] := by
    refine exec_readHeader.mpr ⟨Span.read 0 padlockHeaderSize file.bytes,
      ⟨List.prefix_refl _, rfl⟩, ?_⟩
    rw [headerIn_of_readAt opens.headerRead]
  refine ⟨final, ?_, member⟩
  rw [callGet, padlockGet]
  simp only [Bool.not_true, Bool.false_eq_true, if_false]
  refine Program.exec_request_bind.mpr ⟨true, [], rfl, ?_⟩
  refine Program.exec_bind.mpr ⟨{ found := none, complete := false }, final, ?_, ?_⟩
  · rw [getStore]
    refine Program.exec_bind.mpr ⟨some header, [], read, ?_⟩
    exact exec_bounded_some opens.secret scanned
  · exact Program.exec_request_bind.mpr ⟨true, final, rfl, .done _ _⟩

/-- What was compared equal to a key is not wiped. -/
theorem not_wiped_of_load {keySize : UInt8} {size : Nat} {plain : Bytes size}
    (nonzero : keySize ≠ 0) (sameLength : keySize.toNat = key.bytes.length)
    (same : plain.load 1 key.bytes.length = some key.bytes) :
    ¬ (Block.plaintext plain.toList).Wiped := by
  intro wiped
  have part := (Bytes.load_eq_some.mp same).2.symm
  cases bytes : key.bytes with
  | nil =>
    rw [bytes] at sameLength
    exact nonzero (UInt8.toNat_inj.mp sameLength)
  | cons byte rest =>
    have member : byte ∈ key.bytes := by
      rw [bytes]
      exact List.mem_cons_self
    have inside : byte ∈ plain.toList := by
      rw [part] at member
      exact List.mem_of_mem_drop (List.mem_of_mem_take member)
    rw [wiped byte inside] at member
    exact key.nulFree member

theorem GetWipes.nothingLeft (wipes : GetWipes ssl password key file)
    (opens : Opens ssl password file header xtsKey) :
    NothingLeft ssl xtsKey header key file := by
  have wiped {offset : UInt64} {block : Block} (comes : Comes ssl xtsKey header key file offset)
      (entered : offset + 16 ≤ header.writeOffset)
      (leaks : ∀ freed, ∃ final, Program.Exec (freeing file)
        (scanRound ssl xtsKey header key offset none) freed (.done none) final ∧ block ∈ final) :
      block.Wiped := by
    obtain ⟨final, execution, member⟩ := comes.exec_get opens entered leaks samplePath
    exact wipes samplePath none final execution block member
  refine ⟨?_, ?_, ?_⟩
  · rintro offset keySize valueLength plain comes passes decrypted ⟨sameLength, same⟩
    exact not_wiped_of_load passes.nonzero sameLength same
      (wiped comes passes.entered fun freed => passes.exec_matching decrypted sameLength same)
  · intro offset keySize cipher comes reads failed
    exact wiped comes reads.entered fun freed => reads.exec_failed failed
  · intro offset keySize valueLength cipher comes passes read failed
    exact wiped comes passes.entered fun freed => passes.exec_failed read failed

/-- A lookup that leaves nothing in its scan leaves nothing at all. -/
theorem getWipes_of_nothingLeft
    (left : ∀ header xtsKey, Opens ssl password file header xtsKey →
      NothingLeft ssl xtsKey header key file) : GetWipes ssl password key file := by
  intro path
  have none : ∀ given ∈ ([] : List Block), given.Wiped := nofun
  have stored : Program.Ensures (freeing file) (getStore ssl password key) []
      fun finish final => (∀ given ∈ final, given.Wiped) ∧ finish.found = Option.none := by
    intro finish final execution
    obtain ⟨read, middle, reading, execution⟩ := Program.exec_bind.mp execution
    obtain ⟨bytes, ⟨short, rfl⟩, decoded⟩ := exec_readHeader.mp reading
    cases read with
    | none =>
      obtain ⟨rfl, rfl⟩ := Program.exec_done.mp execution
      exact ⟨none, rfl⟩
    | some header =>
      obtain ⟨secret, unsealed, execution⟩ := Program.exec_bounded.mp execution
      cases secret with
      | none =>
        obtain ⟨rfl, rfl⟩ := Program.exec_done.mp execution
        exact ⟨none, rfl⟩
      | some xtsKey =>
        have full : bytes.length = padlockHeaderSize := length_of_headerIn decoded.symm
        rw [eq_of_isPrefix_read short full, headerIn_read] at decoded
        have opens : Opens ssl password file header xtsKey := ⟨decoded.symm, unsealed⟩
        exact (left header xtsKey opens).scan .initial none finish final execution
  intro result final execution
  rw [callGet, padlockGet] at execution
  simp only [Bool.not_true, Bool.false_eq_true, if_false] at execution
  obtain ⟨opened, middle, rfl, execution⟩ := Program.exec_request_bind.mp execution
  cases opened with
  | false =>
    rw [(Program.exec_done.mp execution).2]
    exact none
  | true =>
    obtain ⟨finish, scanned, storing, execution⟩ := Program.exec_bind.mp execution
    obtain ⟨wiped, copy⟩ := stored finish scanned storing
    have answer : finish.answer = Option.none := by
      rw [ScanEnd.answer, copy, ite_self]
    simp only [answer, copy, Option.isNone_none, if_true, Option.map_none] at execution
    obtain ⟨reported, closed, rfl, rest⟩ := Program.exec_request_bind.mp execution
    rw [(Program.exec_done.mp rest).2]
    exact wiped

/-- A lookup wipes every plaintext copy it gives back to the heap exactly when there is none that
it would have to wipe beyond its own wipes: the file does not open with the password, or no record
its scan comes to has the key looked for and no decryption it comes to fails after it has put
anything but zeros into its output. -/
theorem get_wipes_iff (ssl : OpenSsl) (password key : CString) (file : File) :
    GetWipes ssl password key file ↔
      ∀ header xtsKey, Opens ssl password file header xtsKey →
        NothingLeft ssl xtsKey header key file :=
  ⟨fun wipes _ _ opens => wipes.nothingLeft opens, getWipes_of_nothingLeft⟩

end Leaks

/-- A store with one set, of the key looked for: when the block for the copy of the value cannot be
had, the decrypted record goes back to the heap as it is. -/
theorem found_record_not_wiped :
    ∃ before file, Allocated standIn samplePath 8192 samplePassword before ∧
      runOn (callSet standIn samplePath samplePassword (sampleKey true) (sampleValue true)) before =
        some (0, file) ∧
      ¬ GetWipes standIn samplePassword (sampleKey true) file := by
  obtain ⟨before, allocated⟩ := sample_allocated
  obtain ⟨file, ran, stored⟩ :=
    (stored_of_allocated standIn_lawful.cbc allocated).runOn_set_of_room samplePath
      standIn_lawful.inverts
      (by decide : recordLength (sampleKey true).bytes (sampleValue true).bytes ≤ 2 ^ 24)
      (by decide)
  obtain ⟨header, records, tail, xtsKey, layout, secret, all⟩ := stored.parts
  refine ⟨before, file, allocated, ran, fun wipes => ?_⟩
  have left := wipes.nothingLeft ⟨layout.readAt_header, secret⟩
  have size : records.length = 16 := all.length
  have offset : header.writeOffset = 4112 := by
    rw [← UInt64.toNat_inj, layout.writeOffset, size]
    rfl
  have leads := all.leads layout.parts (length_headerBytes header)
    (by rw [layout.writeOffset] : _ ≤ header.writeOffset.toNat)
  obtain ⟨plain, decrypted, rest, plainEq⟩ : ∃ plain : Bytes 16,
      file.plainAt standIn xtsKey 4096 16 = some plain ∧
        recordBytes [97] [1, 2, 3] <+: plain.toList := by
    cases leads with
    | cons first others => exact first.decrypts
  have passes : Passes standIn xtsKey header file 4096 1 3 := by
    refine ⟨by rw [offset]; decide, ⟨plain, decrypted, ?_⟩, by decide, by rw [offset]; decide,
      ⟨plain, decrypted, ?_⟩, by rw [offset]; decide⟩
    · rw [← plainEq]
      rfl
    · have length : Span.read (1 + UInt8.toNat 1) 4 plain.toList = [3, 0, 0, 0] := by
        rw [← plainEq]
        rfl
      rw [length]
      decide
  exact left.absent 4096 1 3 plain .initial passes decrypted
    ⟨rfl, load_key_of_record ⟨rest, plainEq⟩⟩

end Padlock
