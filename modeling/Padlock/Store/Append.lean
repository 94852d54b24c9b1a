/-
This file says what a call of `padlock_set` asks of its file when nothing fails:
it reads the header; from the header alone it decides what to write; then it
writes the record at the write offset and the header over the old one. The
later files cut and interleave calls between these three requests.
-/

import Padlock.Store.Lookup

namespace Padlock

open Interaction

/-- The two writes of a successful `padlock_set`: the encrypted record and the new header. -/
structure Append where
  offset : UInt64
  cipher : List UInt8
  header : Header

/-- What `padlock_set` decides to write once it has a header. The outer `none` is a write past a
buffer, the inner one the result -1. -/
def appendFor (ssl : OpenSsl) (password key : CString) (value : Value) (header : Header) :
    Option (Option Append) := do
  let some xtsKey ← decryptSecret ssl password header | return none
  let paddedLength := align16 (plainLength key value)
  if paddedLength < 16 ∨ header.writeOffset + paddedLength > header.totalSize then
    return none
  let plain ← buildRecord key value paddedLength.toNat
  let some cipher := cryptXts ssl true xtsKey header.writeOffset plain | return none
  return some
    { offset := header.writeOffset
      cipher := cipher.toList
      header := { header with writeOffset := header.writeOffset + paddedLength } }

/-- The second write: the header, over the old one. -/
def Append.commit (append : Append) : FileProgram Int :=
  .ask (.write 0 (headerBytes append.header).toList) fun written =>
    .done (if written = padlockHeaderSize then 0 else -1)

/-- Both writes. -/
def Append.perform (append : Append) : FileProgram Int :=
  if append.offset.toNat < 2 ^ 63 then
    .ask (.write append.offset.toNat append.cipher) fun written =>
      if written = append.cipher.length then append.commit else .done (-1)
  else .done (-1)

/-- The header in what a read of the first 4096 bytes gave. -/
def headerIn (bytes : List UInt8) : Option Header :=
  if full : bytes.length = padlockHeaderSize then headerOfBuffer ⟨bytes, full⟩ else none

/-- The header in the first 4096 bytes of a file, read in full. -/
theorem headerIn_read (file : File) :
    headerIn (Span.read 0 padlockHeaderSize file.bytes) =
      (file.readAt 0 padlockHeaderSize).bind headerOfBuffer := by
  unfold headerIn File.readAt
  split <;> rfl

theorem length_of_headerIn {bytes : List UInt8} {header : Header}
    (decoded : headerIn bytes = some header) : bytes.length = padlockHeaderSize := by
  unfold headerIn at decoded
  split at decoded
  · assumption
  · cases decoded

theorem accepted_of_headerIn {bytes : List UInt8} {header : Header}
    (decoded : headerIn bytes = some header) : header.accepted = true := by
  unfold headerIn at decoded
  split at decoded
  · exact (headerOfBuffer_eq_some decoded).2
  · cases decoded

/-- What follows the read of the header. -/
def performFor (ssl : OpenSsl) (password key : CString) (value : Value) :
    Option Header → FileProgram Int
  | none => .done (-1)
  | some header => Program.bounded (appendFor ssl password key value header) >>= fun
    | none => .done (-1)
    | some append => append.perform

theorem onFile_readHeader {Result : Type} (next : Option Header → Stdio Result) :
    onFile (readHeader >>= next) =
      .ask (.read 0 padlockHeaderSize) fun bytes => onFile (next (headerIn bytes)) := by
  have read : onFile (seekRead 0 padlockHeaderSize) = _ := onFile_seekRead 0 padlockHeaderSize
  rw [if_pos (by decide)] at read
  rw [onFile_bind, readHeader, onFile_bind, read]
  simp only [Program.ask_bind, Program.done_bind]
  congr 1
  funext bytes
  unfold headerIn
  by_cases full : bytes.length = padlockHeaderSize
  · rw [dif_pos full, dif_pos full]
    rfl
  · rw [dif_neg full, dif_neg full]
    rfl

theorem onFile_bounded {Result : Type} (result : Option Result) :
    onFile (Program.bounded result) = Program.bounded result := by
  cases result <;> rfl

variable {ssl : OpenSsl} {path password key : CString} {value : Value}

/-- The writes of `padlock_set`, as it makes them after its checks. -/
theorem onFile_perform (append : Append) {failed finished : SetEnd} (refused : failed.ok = -1)
    (returned : finished.ok = 0) :
    (onFile (do
      let recordWritten ← seekWrite append.offset append.cipher
      if !recordWritten then
        return failed
      let headerWritten ← writeHeader append.header
      if !headerWritten then
        return failed
      return finished) >>= fun finish => .done finish.ok) = append.perform := by
  have header : onFile (writeHeader append.header) = _ := onFile_seekWrite 0 _
  rw [if_pos (by decide)] at header
  rw [onFile_bind, onFile_seekWrite, Append.perform]
  split
  · simp only [Program.ask_bind, Program.done_bind]
    congr 1
    funext written
    by_cases recorded : written = append.cipher.length
    · simp only [recorded, beq_self_eq_true, Bool.not_true, Bool.false_eq_true, if_false, if_true,
        onFile_bind, header, Program.ask_bind, Program.done_bind, Append.commit]
      congr 1
      funext rewritten
      rw [(headerBytes append.header).lengthEq]
      by_cases rest : rewritten = padlockHeaderSize
      · simp only [rest, beq_self_eq_true, Bool.not_true, Bool.false_eq_true, if_false, if_true,
          Program.pure_eq, onFile_done, Program.done_bind, returned]
      · have differs : (rewritten == padlockHeaderSize) = false := beq_eq_false_iff_ne.mpr rest
        simp only [differs, if_neg rest, Bool.not_false, if_true, Program.pure_eq, onFile_done,
          Program.done_bind, refused]
    · have differs : (written == append.cipher.length) = false := beq_eq_false_iff_ne.mpr recorded
      simp only [differs, if_neg recorded, Bool.not_false, if_true, Program.pure_eq, onFile_done,
        Program.done_bind, refused]
  · simp only [Program.done_bind, Bool.not_false, if_true, Program.pure_eq, onFile_done, refused]

theorem onFile_setStore :
    (onFile (setStore ssl password key value) >>= fun finish => .done finish.ok) =
      .ask (.read 0 padlockHeaderSize) fun bytes =>
        performFor ssl password key value (headerIn bytes) := by
  rw [setStore, onFile_readHeader, Program.ask_bind]
  congr 1
  funext bytes
  cases headerIn bytes with
  | none => rfl
  | some header =>
    simp only [performFor, appendFor]
    rw [onFile_bind, onFile_bounded]
    cases decryptSecret ssl password header with
    | none => rfl
    | some secret =>
      cases secret with
      | none => rfl
      | some xtsKey =>
        simp only [Program.bounded_some, Program.done_bind, Option.bind_eq_bind, Option.bind_some]
        split
        · rfl
        · simp only [Program.request_bind, onFile_malloc, Bool.not_true, Bool.or_self,
            Bool.false_eq_true, if_false]
          cases buildRecord key value (align16 (plainLength key value)).toNat with
          | none => rfl
          | some plain =>
            simp only [Program.bounded_some, Program.done_bind, Option.bind_some]
            cases cryptXts ssl true xtsKey header.writeOffset plain with
            | none => rfl
            | some cipher =>
              exact onFile_perform
                { offset := header.writeOffset
                  cipher := cipher.toList
                  header := { header with
                    writeOffset := header.writeOffset + align16 (plainLength key value) } } rfl rfl

/-- The requests of `padlock_set` to its file. -/
theorem onFile_padlockSet :
    onFile (padlockSet ssl (some path) (some password) (some key) (some value)) =
      if key.bytes.length = 0 ∨ key.bytes.length > 255 then .done (-1)
      else .ask (.read 0 padlockHeaderSize) fun bytes =>
        performFor ssl password key value (headerIn bytes) := by
  by_cases refused : key.bytes.length = 0 ∨ key.bytes.length > 255
  · simp only [padlockSet, if_pos refused, Program.pure_eq, onFile_done]
  · rw [if_neg refused, ← onFile_setStore]
    simp only [padlockSet, if_neg refused, Program.request_bind, onFile_fopen, if_true, onFile_bind,
      onFile_fclose, onFile_freeBlock, Program.done_bind, Program.pure_eq, onFile_done]

/-! ### In surroundings that may fail -/

section Executions

variable {State : Type} {surroundings : Surroundings Request Response State} {state final : State}

theorem exec_readHeader {header : Option Header} :
    Program.Exec surroundings readHeader state header final ↔
      ∃ bytes, surroundings (.seekRead 0 padlockHeaderSize) state bytes final ∧
        header = headerIn bytes := by
  have low : UInt64.toNat 0 < 2 ^ 63 := by decide
  unfold readHeader headerIn
  constructor
  · intro execution
    obtain ⟨buffer, middle, reading, decoding⟩ := Program.exec_bind.mp execution
    rw [seekRead, if_pos low] at reading
    obtain ⟨bytes, last, answered, returning⟩ := Program.exec_request_bind.mp reading
    obtain ⟨rfl, rfl⟩ := Program.exec_done.mp returning
    split at decoding
    · rename_i buffer bufferEq
      split at bufferEq
      · rename_i full
        obtain ⟨rfl, rfl⟩ := Program.exec_done.mp decoding
        exact ⟨bytes, answered, by rw [dif_pos full, Option.some.inj bufferEq]⟩
      · cases bufferEq
    · rename_i missing
      split at missing
      · exact absurd rfl (missing _)
      · rename_i short
        obtain ⟨rfl, rfl⟩ := Program.exec_done.mp decoding
        exact ⟨bytes, answered, by rw [dif_neg short]⟩
  · rintro ⟨bytes, answered, rfl⟩
    refine Program.exec_bind.mpr
      ⟨if full : bytes.length = padlockHeaderSize then some ⟨bytes, full⟩ else none, final, ?_, ?_⟩
    · rw [seekRead, if_pos low]
      exact Program.exec_request_bind.mpr ⟨bytes, final, answered, .done _ _⟩
    · by_cases full : bytes.length = padlockHeaderSize
      · rw [dif_pos full, dif_pos full]
        exact .done _ _
      · rw [dif_neg full, dif_neg full]
        exact .done _ _

theorem exec_seekWrite {offset : UInt64} {data : List UInt8} :
    Program.Exec surroundings (seekWrite offset data) state true final ↔
      offset.toNat < 2 ^ 63 ∧
        surroundings (.seekWrite offset.toNat data) state data.length final := by
  unfold seekWrite
  split
  · rename_i low
    constructor
    · intro execution
      obtain ⟨written, last, answered, returning⟩ := Program.exec_request_bind.mp execution
      obtain ⟨returned, rfl⟩ := Program.exec_done.mp returning
      obtain rfl := beq_iff_eq.mp returned.symm
      exact ⟨low, answered⟩
    · rintro ⟨-, answered⟩
      refine Program.exec_request_bind.mpr ⟨data.length, final, answered, ?_⟩
      exact Program.exec_done.mpr ⟨(beq_self_eq_true _).symm, rfl⟩
  · rename_i high
    constructor
    · intro execution
      cases (Program.exec_done.mp execution).1
    · rintro ⟨low, -⟩
      exact absurd low high

/-- What `padlock_set` does around its work: it opens the file, and closes it whatever happened,
before it gives its blocks back. -/
theorem exec_padlockSet (nonempty : key.bytes.length ≠ 0) (short : key.bytes.length ≤ 255)
    {result : Int} :
    Program.Exec surroundings (padlockSet ssl (some path) (some password) (some key) (some value))
        state result final ↔
      (surroundings (.fopen path .update) state false final ∧ result = -1) ∨
        ∃ finish opened stored, surroundings (.fopen path .update) state true opened ∧
          Program.Exec surroundings (setStore ssl password key value) opened finish stored ∧
          (∃ reported closed, surroundings .fclose stored reported closed ∧
            Program.Exec surroundings (do
              freeBlock finish.plain
              freeBlock finish.cipher) closed () final) ∧
          result = finish.ok := by
  simp only [padlockSet,
    if_neg (by omega : ¬ (key.bytes.length = 0 ∨ key.bytes.length > 255))]
  constructor
  · intro execution
    obtain ⟨opened, middle, opening, execution⟩ := Program.exec_request_bind.mp execution
    cases opened with
    | false =>
      obtain ⟨rfl, rfl⟩ := Program.exec_done.mp execution
      exact .inl ⟨opening, rfl⟩
    | true =>
      obtain ⟨finish, stored, storing, execution⟩ := Program.exec_bind.mp execution
      obtain ⟨reported, closed, closing, execution⟩ := Program.exec_request_bind.mp execution
      obtain ⟨first, middle, freeing, execution⟩ := Program.exec_bind.mp execution
      obtain ⟨second, last, freeingMore, execution⟩ := Program.exec_bind.mp execution
      obtain ⟨rfl, rfl⟩ := Program.exec_done.mp execution
      exact .inr ⟨finish, _, stored, opening, storing, ⟨reported, closed, closing,
        Program.exec_bind.mpr ⟨first, middle, freeing, freeingMore⟩⟩, rfl⟩
  · rintro (⟨opening, rfl⟩ | ⟨finish, opened, stored, opening, storing,
      ⟨reported, closed, closing, freeing⟩, rfl⟩)
    · exact Program.exec_request_bind.mpr ⟨false, final, opening, .done _ _⟩
    · obtain ⟨first, middle, freeing, freeingMore⟩ := Program.exec_bind.mp freeing
      refine Program.exec_request_bind.mpr ⟨true, opened, opening, ?_⟩
      refine Program.exec_bind.mpr ⟨finish, stored, storing, ?_⟩
      refine Program.exec_request_bind.mpr ⟨reported, closed, closing, ?_⟩
      refine Program.exec_bind.mpr ⟨first, middle, freeing, ?_⟩
      exact Program.exec_bind.mpr ⟨(), final, freeingMore, .done _ _⟩

/-- What `padlock_set` leaves for its clean-up when both writes were complete. -/
def SetEnd.stored (key : CString) (value : Value) : SetEnd where
  ok := 0
  plain := some (.plaintext (zeros (align16 (plainLength key value)).toNat))
  cipher := some (.other (align16 (plainLength key value)).toNat)

/-- The steps of a set that returns 0: it reads a header, allocates its two blocks, and what it
decides to write is taken in full, the record and then the header. -/
structure Stores (surroundings : Surroundings Request Response State) (ssl : OpenSsl)
    (password key : CString) (value : Value) (state : State) (header : Header) (append : Append)
    (final : State) : Prop where
  decision : appendFor ssl password key value header = some (some append)
  steps : ∃ read first second written,
    Program.Exec surroundings readHeader state (some header) read ∧
      surroundings (.malloc (align16 (plainLength key value)).toNat) read true first ∧
      surroundings (.malloc (align16 (plainLength key value)).toNat) first true second ∧
      Program.Exec surroundings (seekWrite append.offset append.cipher) second true written ∧
      Program.Exec surroundings (writeHeader append.header) written true final

theorem exec_setStore {finish : SetEnd}
    (execution : Program.Exec surroundings (setStore ssl password key value) state finish final) :
    finish.ok = -1 ∨ finish.ok = 0 ∧ ∃ header append,
      Stores surroundings ssl password key value state header append final := by
  obtain ⟨header, read, reading, execution⟩ := Program.exec_bind.mp execution
  cases header with
  | none => exact .inl (by rw [(Program.exec_done.mp execution).1]; rfl)
  | some header =>
    obtain ⟨secret, unsealed, execution⟩ := Program.exec_bounded.mp execution
    cases secret with
    | none => exact .inl (by rw [(Program.exec_done.mp execution).1]; rfl)
    | some xtsKey =>
      dsimp only at execution
      split at execution
      · exact .inl (by rw [(Program.exec_done.mp execution).1]; rfl)
      rename_i inside
      obtain ⟨plainAllocated, first, allocating, execution⟩ :=
        Program.exec_request_bind.mp execution
      obtain ⟨cipherAllocated, second, allocatingMore, rest⟩ :=
        Program.exec_request_bind.mp execution
      split at rest
      · exact .inl (by rw [(Program.exec_done.mp rest).1])
      rename_i allocated
      obtain ⟨rfl, rfl⟩ : plainAllocated = true ∧ cipherAllocated = true := by
        simpa using allocated
      obtain ⟨plain, built, rest⟩ := Program.exec_bounded.mp rest
      cases encrypted : cryptXts ssl true xtsKey header.writeOffset plain with
      | none =>
        rw [encrypted] at rest
        exact .inl (by rw [(Program.exec_done.mp rest).1])
      | some cipher =>
        rw [encrypted] at rest
        obtain ⟨recorded, written, writing, rest⟩ := Program.exec_bind.mp rest
        cases recorded with
        | false => exact .inl (by rw [(Program.exec_done.mp rest).1])
        | true =>
          obtain ⟨committed, last, committing, rest⟩ := Program.exec_bind.mp rest
          cases committed with
          | false => exact .inl (by rw [(Program.exec_done.mp rest).1])
          | true =>
            obtain ⟨rfl, rfl⟩ := Program.exec_done.mp rest
            have decision : appendFor ssl password key value header = some (some
                { offset := header.writeOffset
                  cipher := cipher.toList
                  header := { header with
                    writeOffset := header.writeOffset + align16 (plainLength key value) } }) := by
              simp only [appendFor, unsealed, Option.bind_eq_bind, Option.bind_some,
                if_neg inside, built, encrypted, Option.pure_def]
            exact .inr ⟨rfl, header, _, decision, read, first, second, written, reading,
              allocating, allocatingMore, writing, committing⟩

theorem Stores.exec {header : Header} {append : Append}
    (stores : Stores surroundings ssl password key value state header append final) :
    Program.Exec surroundings (setStore ssl password key value) state (.stored key value)
      final := by
  obtain ⟨decision, read, first, second, written, reading, allocating, allocatingMore, writing,
    committing⟩ := stores
  refine Program.exec_bind.mpr ⟨some header, read, reading, ?_⟩
  unfold appendFor at decision
  cases unsealed : decryptSecret ssl password header with
  | none =>
    rw [unsealed] at decision
    cases decision
  | some secret =>
    rw [unsealed] at decision
    cases secret with
    | none => cases decision
    | some xtsKey =>
      simp only [Option.bind_eq_bind, Option.bind_some] at decision
      refine Program.exec_bounded.mpr ⟨_, unsealed, ?_⟩
      dsimp only
      split at decision
      · cases decision
      rename_i inside
      obtain ⟨plain, built, decision⟩ := Option.bind_eq_some_iff.mp decision
      cases encrypted : cryptXts ssl true xtsKey header.writeOffset plain with
      | none =>
        rw [encrypted] at decision
        cases decision
      | some cipher =>
        rw [encrypted] at decision
        obtain rfl := Option.some.inj (Option.some.inj decision)
        rw [if_neg inside]
        refine Program.exec_request_bind.mpr ⟨true, first, allocating, ?_⟩
        refine Program.exec_request_bind.mpr ⟨true, second, allocatingMore, ?_⟩
        refine Program.exec_bounded.mpr ⟨plain, built, ?_⟩
        rw [encrypted]
        refine Program.exec_bind.mpr ⟨true, written, writing, ?_⟩
        exact Program.exec_bind.mpr ⟨true, final, committing, .done _ _⟩

end Executions

end Padlock
