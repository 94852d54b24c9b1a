/-
This file lets two sets run beside each other. Nothing keeps a set from reading
the header while another is between its own read and its rewrite of it; then
both append at the same write offset, one record lies over the other, and the
header that is written last covers one of them only. So an update is kept
exactly when the calls do not overlap, that is when one of them makes all its
requests before the other makes its first.
-/

import Mathlib.Data.Bool.Count
import Padlock.Store.Concurrent
import Padlock.Store.Copies

namespace Padlock

open Interaction KeyValueLog

/-! ### The order of the requests -/

/-- Two sets beside each other that have read the same header: how many requests each has made,
whose header the file has since, and whose records were written, the last one first. -/
structure Race where
  first : Nat
  second : Nat
  header : Option Bool
  written : List Bool
  deriving DecidableEq

namespace Race

/-- The requests a caller has made; the first caller is `true`. -/
def made (race : Race) : Bool → Nat
  | true => race.first
  | false => race.second

def advance (race : Race) : Bool → Race
  | true => { race with first := race.first + 1 }
  | false => { race with second := race.second + 1 }

/-- The next request of a caller: it reads the header, writes its record, rewrites the header.
`none` when it would read another header than the first one. -/
def turn (race : Race) (caller : Bool) : Option Race :=
  match race.made caller with
  | 0 => if race.header = none then some (race.advance caller) else none
  | 1 => some { race.advance caller with written := caller :: race.written }
  | 2 => some { race.advance caller with header := some caller }
  | _ => none

@[simp] theorem advance_header (race : Race) (caller : Bool) :
    (race.advance caller).header = race.header := by
  cases caller <;> rfl

@[simp] theorem advance_written (race : Race) (caller : Bool) :
    (race.advance caller).written = race.written := by
  cases caller <;> rfl

/-- A turn is one request of its caller and none of the other. -/
theorem made_turn {race next : Race} {caller : Bool} (moved : race.turn caller = some next) :
    next.made caller = race.made caller + 1 ∧ next.made (!caller) = race.made (!caller) := by
  unfold turn at moved
  split at moved
  · split at moved
    · obtain rfl := Option.some.inj moved
      cases caller <;> exact ⟨rfl, rfl⟩
    · cases moved
  · obtain rfl := Option.some.inj moved
    cases caller <;> exact ⟨rfl, rfl⟩
  · obtain rfl := Option.some.inj moved
    cases caller <;> exact ⟨rfl, rfl⟩
  · cases moved

def start : Race where
  first := 0
  second := 0
  header := none
  written := []

end Race

/-- One caller makes all its requests before the other makes its first. -/
def Serial (schedule : List Bool) : Prop :=
  schedule = List.replicate 3 true ++ List.replicate 3 false ∨
    schedule = List.replicate 3 false ++ List.replicate 3 true

instance (schedule : List Bool) : Decidable (Serial schedule) :=
  inferInstanceAs (Decidable (_ ∨ _))

/-- Two calls that overlap have read the same header. -/
theorem race_of_overlap {schedule : List Bool} (three : ∀ caller, schedule.count caller = 3)
    (overlap : ¬ Serial schedule) :
    ∃ last committed, schedule.foldlM Race.turn Race.start =
        some { first := 3, second := 3, header := some committed, written := [last, !last] } := by
  have length : schedule.length = 6 := by
    rw [← List.count_true_add_count_false, three, three]
  match schedule, length with
  | [a, b, c, d, e, f], _ =>
    clear length
    revert three overlap
    revert a b c d e f
    decide

/-! ### The file under both calls -/

section Racing

variable {ssl : OpenSsl} {path password : CString} {key : Bool → CString} {value : Bool → Value}
  {append : Bool → Append} {size : Nat} {file state : File} {log : List Entry} {header : Header}
  {records tail : List UInt8} {xtsKey : Bytes padlockXtsKeySize}

/-- The bytes behind the old records after some records were written over each other. -/
def overlay (append : Bool → Append) (tail : List UInt8) : List Bool → List UInt8
  | [] => tail
  | caller :: rest =>
    (append caller).cipher ++ (overlay append tail rest).drop (append caller).cipher.length

/-- The header of the file. -/
def currentHeader (append : Bool → Append) (header : Header) : Option Bool → Header
  | none => header
  | some caller => (append caller).header

/-- What is left of a call after some of its requests. -/
def remaining (ssl : OpenSsl) (path password : CString) (key : Bool → CString)
    (value : Bool → Value) (append : Bool → Append) (caller : Bool) : Nat → FileProgram Int
  | 0 => onFile (callSet ssl path password (key caller) (value caller))
  | 1 => (append caller).perform
  | 2 => (append caller).commit
  | _ => .done 0

/-- The bytes of the file. -/
def Race.bytes (append : Bool → Append) (header : Header) (records tail : List UInt8)
    (race : Race) : List UInt8 :=
  (headerBytes (currentHeader append header race.header)).toList ++
    (records ++ overlay append tail race.written)

theorem Race.bytes_start (append : Bool → Append) (header : Header) (records tail : List UInt8) :
    Race.start.bytes append header records tail =
      (headerBytes header).toList ++ (records ++ tail) := rfl

/-- Both sets have room on the store of a log. -/
abbrev BothAppending (ssl : OpenSsl) (password : CString) (key : Bool → CString)
    (value : Bool → Value) (size : Nat) (file : File) (log : List Entry) (header : Header)
    (records tail : List UInt8) (xtsKey : Bytes padlockXtsKeySize) (append : Bool → Append) :
    Prop :=
  ∀ caller, Appending ssl password (key caller) (value caller) size file log header records tail
    xtsKey (append caller)

theorem Stored.bothAppending (stored : Stored ssl password size file log)
    (inverts : ssl.XtsInverts)
    (small : ∀ caller, recordLength (key caller).bytes (value caller).bytes ≤ 2 ^ 24)
    (room : ∀ caller, Room size log (key caller).bytes (value caller).bytes) :
    ∃ header records tail xtsKey append,
      BothAppending ssl password key value size file log header records tail xtsKey append := by
  obtain ⟨header, records, tail, xtsKey, append, first⟩ :=
    stored.appending inverts (small true) (room true)
  obtain ⟨otherHeader, otherRecords, otherTail, otherXtsKey, otherAppend, second⟩ :=
    stored.appending inverts (small false) (room false)
  -- both see the same store
  obtain ⟨rfl, rfl⟩ := first.layout.unique second.layout
  obtain rfl : otherTail = tail := List.append_cancel_left (List.append_cancel_left
    (second.layout.parts.symm.trans first.layout.parts))
  obtain rfl : otherXtsKey = xtsKey :=
    Option.some.inj (Option.some.inj (second.secret.symm.trans first.secret))
  exact ⟨_, _, _, _, fun caller => bif caller then append else otherAppend,
    Bool.forall_bool.mpr ⟨second, first⟩⟩

theorem length_overlay
    (both : BothAppending ssl password key value size file log header records tail xtsKey append)
    (written : List Bool) : (overlay append tail written).length = tail.length := by
  induction written with
  | nil => rfl
  | cons caller rest inductionHypothesis =>
    have room := (both caller).fits.room
    rw [overlay, List.length_append, List.length_drop, inductionHypothesis]
    omega

/-- The first request of a caller, on a file that still has the old header. -/
theorem step_set (caller : Bool) {rest : List UInt8}
    (appending : Appending ssl password (key caller) (value caller) size file log header records
      tail xtsKey (append caller))
    (layout : Layout size state header records rest) :
    (onFile (callSet ssl path password (key caller) (value caller))).step serveFile state =
      ((append caller).perform, state) := by
  obtain ⟨nonempty, short⟩ : 0 < (key caller).bytes.length ∧ (key caller).bytes.length < 256 :=
    appending.encrypts.keySize
  rw [onFile_padlockSet, if_neg (by omega), Program.step, serveFile]
  dsimp only
  rw [layout.headerIn_read, performFor, appending.decision, Program.bounded_some,
    Program.done_bind]

/-- The second request of a caller, whatever header the file has. -/
theorem step_perform (caller : Bool) {current : Header} {rest : List UInt8}
    (appending : Appending ssl password (key caller) (value caller) size file log header records
      tail xtsKey (append caller))
    (bytes : state.bytes = (headerBytes current).toList ++ (records ++ rest))
    (length : rest.length = tail.length) :
    ∃ next, (append caller).perform.step serveFile state = ((append caller).commit, next) ∧
      next.bytes = (headerBytes current).toList ++
        (records ++ ((append caller).cipher ++ rest.drop (append caller).cipher.length)) := by
  have layout := appending.layout
  have offset : (append caller).offset.toNat = padlockHeaderSize + records.length := by
    rw [appending.fits.offset, layout.writeOffset]
  have lengths := layout.lengths
  have sizeLt := layout.size_lt
  have room := appending.fits.room
  obtain ⟨next, served, nextBytes⟩ := serveFile_write state (append caller).offset.toNat
    (append caller).cipher (by
      rw [bytes, List.length_append, List.length_append, length_headerBytes, offset]
      omega)
  refine ⟨next, ?_, ?_⟩
  · rw [Append.perform, if_pos (by omega), Program.step, served]
    dsimp only
    rw [if_pos rfl]
  · rw [nextBytes, bytes, offset, write_record]

/-- The third request of a caller, whatever header the file has. -/
theorem step_commit (caller : Bool) {current : Header} {rest : List UInt8}
    (bytes : state.bytes = (headerBytes current).toList ++ rest) :
    ∃ next, (append caller).commit.step serveFile state = (.done 0, next) ∧
      next.bytes = (headerBytes (append caller).header).toList ++ rest := by
  obtain ⟨next, served, nextBytes⟩ := serveFile_write state 0
    (headerBytes (append caller).header).toList (by
      rw [bytes, List.length_append, length_headerBytes, length_headerBytes]
      omega)
  refine ⟨next, ?_, ?_⟩
  · rw [Append.commit, Program.step, served]
    dsimp only
    rw [length_headerBytes, if_pos rfl]
  · rw [nextBytes, bytes, write_over_header]

/-- A file with the old header and records behind which other bytes stand. -/
theorem layout_of_bytes (layout : Layout size file header records tail) {rest : List UInt8}
    (bytes : state.bytes = (headerBytes header).toList ++ (records ++ rest))
    (length : rest.length = tail.length) : Layout size state header records rest := by
  refine ⟨bytes, ?_, layout.minimum, layout.totalSize, layout.secretSize, layout.writeOffset,
    layout.blocks⟩
  rw [bytes, List.length_append, List.length_append, length, length_headerBytes, layout.lengths]

/-- A turn of the race is the next request of its caller. -/
theorem step_remaining (path : CString) {race next : Race} {caller : Bool}
    (both : BothAppending ssl password key value size file log header records tail xtsKey append)
    (bytes : state.bytes = race.bytes append header records tail)
    (moved : race.turn caller = some next) :
    ∃ nextState,
      (remaining ssl path password key value append caller (race.made caller)).step serveFile
          state =
        (remaining ssl path password key value append caller (next.made caller), nextState) ∧
      nextState.bytes = next.bytes append header records tail := by
  have length := length_overlay both race.written
  rw [(Race.made_turn moved).1]
  unfold Race.turn at moved
  unfold Race.bytes at bytes ⊢
  split at moved
  · rename_i made
    split at moved
    · rename_i unchanged
      obtain rfl := Option.some.inj moved
      rw [unchanged] at bytes
      refine ⟨state, ?_, ?_⟩
      · rw [made]
        exact step_set caller (both caller) (layout_of_bytes (both caller).layout bytes length)
      · rw [Race.advance_header, Race.advance_written, unchanged, bytes]
    · cases moved
  · rename_i made
    obtain rfl := Option.some.inj moved
    obtain ⟨nextState, stepped, nextBytes⟩ := step_perform caller (both caller) bytes length
    refine ⟨nextState, ?_, ?_⟩
    · rw [made]
      exact stepped
    · rw [nextBytes, Race.advance_header]
      rfl
  · rename_i made
    obtain rfl := Option.some.inj moved
    obtain ⟨nextState, stepped, nextBytes⟩ := step_commit caller bytes
    refine ⟨nextState, ?_, ?_⟩
    · rw [made]
      exact stepped
    · rw [nextBytes, Race.advance_written]
      rfl
  · cases moved

/-- Two calls that read the same header go as the race says. -/
theorem interleave_race (path : CString) {race final : Race} {schedule : List Bool}
    (both : BothAppending ssl password key value size file log header records tail xtsKey append)
    (bytes : state.bytes = race.bytes append header records tail)
    (raced : schedule.foldlM Race.turn race = some final) :
    ∃ last,
      Program.interleave serveFile schedule
          (remaining ssl path password key value append true (race.made true))
          (remaining ssl path password key value append false (race.made false)) state =
        (remaining ssl path password key value append true (final.made true),
          remaining ssl path password key value append false (final.made false), last) ∧
      last.bytes = final.bytes append header records tail := by
  induction schedule generalizing race state with
  | nil =>
    obtain rfl := Option.some.inj raced
    exact ⟨state, rfl, bytes⟩
  | cons caller rest inductionHypothesis =>
    rw [List.foldlM_cons, Option.bind_eq_bind, Option.bind_eq_some_iff] at raced
    obtain ⟨next, moved, raced⟩ := raced
    obtain ⟨nextState, stepped, nextBytes⟩ := step_remaining path both bytes moved
    obtain ⟨-, idle⟩ := Race.made_turn moved
    obtain ⟨last, ended, lastBytes⟩ := inductionHypothesis nextBytes raced
    refine ⟨last, ?_, lastBytes⟩
    rw [← ended]
    cases caller with
    | true =>
      rw [Bool.not_true] at idle
      rw [Program.interleave, stepped, idle]
    | false =>
      rw [Bool.not_false] at idle
      rw [Program.interleave, stepped, idle]

end Racing

/-! ### What a lookup finds afterwards -/

section Afterwards

variable {ssl : OpenSsl} {path password key : CString} {file : File} {header : Header}
  {xtsKey : Bytes padlockXtsKeySize}

/-- A lookup finds the last value among records that the file begins with, or a copy of a record
behind them. -/
theorem get_held_or_copied (blockwise : ssl.XtsBlockwise)
    (opens : Opens ssl password file header xtsKey) {entries : List Entry} {place : Nat}
    (leads : Leads ssl xtsKey file header.writeOffset.toNat padlockHeaderSize entries place)
    {found : Found} {rest : File}
    (got : runOn (callGet ssl path password key) file = some (some found, rest)) :
    (latest entries key.bytes).map Found.ofValue = some found ∨
      CopiedFrom header key place found := by
  rw [callGet, runOn_padlockGet_of_opens opens, Option.map_eq_some_iff] at got
  obtain ⟨⟨finish, last⟩, scanned, answered⟩ := got
  rw [runOn_scan_of_leads key blockwise leads rfl (by decide), Option.or_none] at scanned
  have held := ((returns_scan ssl xtsKey header key (UInt64.ofNat place)
    ((latest entries key.bytes).map Found.ofValue)).relay noFailure).run scanned
  rw [toNat_ofNat_of_lt (leads.place_lt (by decide))] at held
  have foundEq : finish.found = some found := by
    obtain ⟨answered, -⟩ := Prod.mk.inj answered
    unfold ScanEnd.answer at answered
    split at answered
    · exact answered
    · cases answered
  rw [foundEq] at held
  obtain same | ⟨copy, same, copied⟩ := held
  · exact .inl same.symm
  · obtain rfl := Option.some.inj same
    exact .inr copied

theorem Found.ofValue_injective : Function.Injective Found.ofValue := by
  intro first second same
  exact List.append_cancel_right (congrArg Found.contents same)

/-- The copy of a small value comes from a range of its padded length. -/
theorem CopiedFrom.room {place : Nat} {value : List UInt8}
    (copied : CopiedFrom header key place (Found.ofValue value))
    (small : recordLength key.bytes value ≤ 2 ^ 24) :
    place + padded (recordLength key.bytes value) ≤ header.writeOffset.toNat := by
  obtain ⟨keySize, keySizeEq, inside⟩ := copied
  unfold recordLength at small
  have lengthNat : (Found.ofValue value).length.toNat = value.length := by
    rw [Found.ofValue, UInt32.toNat_ofNat', Nat.mod_eq_of_lt (by omega)]
  have same : 5 + keySize.toNat + (Found.ofValue value).length.toNat =
      recordLength key.bytes value := by
    unfold recordLength
    omega
  rwa [align16_entryLength (by omega), same] at inside

/-- A lookup of a key finds a value. -/
abbrev Finds (ssl : OpenSsl) (path password key : CString) (value : Value) (file : File) : Prop :=
  (runOn (callGet ssl path password key) file).map Prod.fst =
    some (some (Found.ofValue value.bytes))

/-- Where behind some records there is no room for a record, only they can hold its value. -/
theorem latest_of_finds (blockwise : ssl.XtsBlockwise)
    (opens : Opens ssl password file header xtsKey) {entries : List Entry} {place : Nat}
    (leads : Leads ssl xtsKey file header.writeOffset.toNat padlockHeaderSize entries place)
    {value : Value} (small : recordLength key.bytes value.bytes ≤ 2 ^ 24)
    (full : header.writeOffset.toNat < place + padded (recordLength key.bytes value.bytes))
    (finds : Finds ssl path password key value file) :
    latest entries key.bytes = some value.bytes := by
  obtain ⟨⟨answer, rest⟩, got, rfl⟩ := Option.map_eq_some_iff.mp finds
  obtain held | copied := get_held_or_copied blockwise opens leads got
  · obtain ⟨found, answer, same⟩ := Option.map_eq_some_iff.mp held
    rw [answer, Found.ofValue_injective same]
  · have room := copied.room small
    omega

end Afterwards

/-- A set makes at most three requests. -/
theorem set_within (ssl : OpenSsl) (path password key : CString) (value : Value) :
    (onFile (callSet ssl path password key value)).Within 3 := by
  rw [onFile_padlockSet]
  split
  · trivial
  intro bytes
  show (performFor ssl password key value (headerIn bytes)).Within 2
  cases headerIn bytes with
  | none => trivial
  | some header =>
    rw [performFor]
    cases appendFor ssl password key value header with
    | none => trivial
    | some decision =>
      cases decision with
      | none => trivial
      | some append =>
        show append.perform.Within 2
        unfold Append.perform
        split
        · intro written
          show Program.Within (if written = _ then append.commit else .done (-1)) 1
          split
          · exact fun _ => trivial
          · trivial
        · trivial

section Loss

variable {ssl : OpenSsl} {path password : CString} {key : Bool → CString} {value : Bool → Value}
  {append : Bool → Append} {size : Nat} {file state : File} {log : List Entry} {header : Header}
  {records tail : List UInt8} {xtsKey : Bytes padlockXtsKeySize}

/-- After two sets the values of both are found, and every other key has the answer it had. -/
structure NothingLost (ssl : OpenSsl) (path password : CString) (key : Bool → CString)
    (value : Bool → Value) (before after : File) : Prop where
  kept : ∀ caller, Finds ssl path password (key caller) (value caller) after
  others : ∀ other : CString, (∀ caller, (key caller).bytes ≠ other.bytes) →
    (runOn (callGet ssl path password other) after).map Prod.fst =
      (runOn (callGet ssl path password other) before).map Prod.fst

theorem Stored.finds_iff (stored : Stored ssl password size file log)
    (blockwise : ssl.XtsBlockwise) (caller : Bool) :
    Finds ssl path password (key caller) (value caller) file ↔
      latest log (key caller).bytes = some (value caller).bytes := by
  rw [Finds, stored.runOn_get blockwise, Option.map_some, Option.some.injEq,
    Option.map_eq_some_iff]
  constructor
  · rintro ⟨found, answer, same⟩
    rw [answer, Found.ofValue_injective same]
  · intro answer
    exact ⟨_, answer, rfl⟩

/-- After a race one of the values is found only if it was the value of its key before. -/
theorem lost_of_race (blockwise : ssl.XtsBlockwise)
    (both : BothAppending ssl password key value size file log header records tail xtsKey append)
    (distinct : (key true).bytes ≠ (key false).bytes) (last committed : Bool)
    (bytes : state.bytes = (headerBytes (append committed).header).toList ++
      (records ++ overlay append tail [last, !last])) :
    ∃ caller, Finds ssl path password (key caller) (value caller) state →
      latest log (key caller).bytes = some (value caller).bytes := by
  have lengthEq (caller : Bool) : (append caller).cipher.length =
      padded (recordLength (key caller).bytes (value caller).bytes) := (both caller).encrypts.length
  have positive (caller : Bool) := padded_recordLength_pos (key caller).bytes (value caller).bytes
  obtain ⟨alone, -, grown⟩ := (both committed).layout.perform (both committed).fits
  have writeOffset := grown.writeOffset
  rw [List.length_append, lengthEq] at writeOffset
  have secret : decryptSecret ssl password (append committed).header = some (some xtsKey) := by
    rw [(both committed).fits.header]
    exact (both committed).secret
  have opens := opens_of_bytes grown.accepted secret bytes
  have start := length_headerBytes (append committed).header
  by_cases covered : (append last).cipher.length ≤ (append committed).cipher.length
  · -- the last record stands before the write offset; behind it there is no room for the other
    refine ⟨!last, fun finds => ?_⟩
    have encrypts := (both last).encrypts
    rw [(both last).layout.writeOffset] at encrypts
    have all := (both last).all.concat encrypts
    have parts : state.bytes = (headerBytes (append committed).header).toList ++
        (records ++ (append last).cipher ++
          (overlay append tail [!last]).drop (append last).cipher.length) := by
      rw [bytes, overlay, List.append_assoc]
    rw [lengthEq, lengthEq] at covered
    have leads : Leads ssl xtsKey state (append committed).header.writeOffset.toNat
        padlockHeaderSize _ _ := all.leads parts start (by
      rw [List.length_append, lengthEq, writeOffset]
      omega)
    have full : (append committed).header.writeOffset.toNat < padlockHeaderSize +
        (records ++ (append last).cipher).length +
          padded (recordLength (key !last).bytes (value !last).bytes) := by
      have lastPositive := positive last
      have otherPositive := positive !last
      rw [List.length_append, lengthEq, writeOffset]
      obtain rfl | rfl : committed = last ∨ committed = !last := Bool.eq_or_eq_not ..
      · omega
      · omega
    have held := latest_of_finds blockwise opens leads (both !last).encrypts.small full
      finds
    have other : (key last).bytes ≠ (key !last).bytes := by
      cases last
      · exact distinct.symm
      · exact distinct
    rwa [latest_concat_of_ne _ _ other] at held
  · -- the last record is longer than the header says
    refine ⟨last, fun finds => ?_⟩
    rw [lengthEq, lengthEq] at covered
    have all := (both last).all
    have leads : Leads ssl xtsKey state (append committed).header.writeOffset.toNat
        padlockHeaderSize _ _ := all.leads bytes start (by omega)
    exact latest_of_finds blockwise opens leads (both last).encrypts.small (by omega)
      finds

theorem Stored.nothingLost (blockwise : ssl.XtsBlockwise) {earlier later : Bool}
    (different : (key earlier).bytes ≠ (key later).bytes)
    (each : ∀ caller, caller = earlier ∨ caller = later)
    (stored : Stored ssl password size file log)
    (grown : Stored ssl password size state
      (log ++ [((key earlier).bytes, (value earlier).bytes)] ++
        [((key later).bytes, (value later).bytes)])) :
    NothingLost ssl path password key value file state := by
  constructor
  · intro caller
    rw [grown.finds_iff blockwise]
    obtain rfl | rfl := each caller
    · rw [latest_concat_of_ne _ _ different.symm, latest_concat_self]
    · rw [latest_concat_self]
  · intro other distinct
    rw [grown.runOn_get blockwise, stored.runOn_get blockwise,
      latest_concat_of_ne _ _ (distinct later), latest_concat_of_ne _ _ (distinct earlier)]
    rfl

/-- Two sets one after the other lose nothing when both return 0. -/
theorem Stored.sets_in_order (lawful : ssl.Lawful) {earlier later : Bool}
    (different : (key earlier).bytes ≠ (key later).bytes)
    (each : ∀ caller, caller = earlier ∨ caller = later)
    (stored : Stored ssl password size file log)
    (small : ∀ caller, recordLength (key caller).bytes (value caller).bytes ≤ 2 ^ 24)
    (room : Room size log (key earlier).bytes (value earlier).bytes) :
    ∃ middle result final,
      runOn (callSet ssl path password (key earlier) (value earlier)) file = some (0, middle) ∧
      runOn (callSet ssl path password (key later) (value later)) middle =
        some (result, final) ∧
      (result = 0 → NothingLost ssl path password key value file final) := by
  obtain ⟨middle, first, grown⟩ :=
    stored.runOn_set_of_room path lawful.inverts (small earlier) room
  by_cases more : Room size (log ++ [((key earlier).bytes, (value earlier).bytes)])
      (key later).bytes (value later).bytes
  · obtain ⟨final, second, last⟩ :=
      grown.runOn_set_of_room path lawful.inverts (small later) more
    exact ⟨middle, 0, final, first, second,
      fun _ => stored.nothingLost lawful.blockwise different each last⟩
  · refine ⟨middle, -1, middle, first, grown.runOn_set_of_full (small later) more, ?_⟩
    intro impossible
    cases impossible

/-- Two calls of `padlock_set` that take turns at a file: what is left of each, and the file. -/
def setBeside (ssl : OpenSsl) (path password : CString) (key : Bool → CString)
    (value : Bool → Value) (schedule : List Bool) (file : File) :
    FileProgram Int × FileProgram Int × File :=
  Program.interleave serveFile schedule
    (onFile (callSet ssl path password (key true) (value true)))
    (onFile (callSet ssl path password (key false) (value false))) file

theorem Stored.serial_kept (lawful : ssl.Lawful)
    (distinct : (key true).bytes ≠ (key false).bytes)
    (stored : Stored ssl password size file log)
    (small : ∀ caller, recordLength (key caller).bytes (value caller).bytes ≤ 2 ^ 24)
    (room : ∀ caller, Room size log (key caller).bytes (value caller).bytes)
    {schedule : List Bool} (serial : Serial schedule) :
    ∃ (result : Bool → Int) (final : File), setBeside ssl path password key value schedule file =
        (.done (result true), .done (result false), final) ∧
      ((∀ caller, result caller = 0) → NothingLost ssl path password key value file final) := by
  have within (caller : Bool) := set_within ssl path password (key caller) (value caller)
  unfold setBeside
  obtain rfl | rfl := serial
  · obtain ⟨middle, second, final, firstRan, secondRan, kept⟩ := stored.sets_in_order lawful
      distinct (by decide) small (room true)
    refine ⟨fun caller => bif caller then 0 else second, final, ?_, fun zero => kept (zero false)⟩
    rw [Program.interleave_append,
      Program.interleave_first_alone serveFile _ (within true) firstRan]
    exact Program.interleave_second_alone serveFile _ (within false) secondRan
  · obtain ⟨middle, second, final, firstRan, secondRan, kept⟩ := stored.sets_in_order lawful
      distinct.symm (by decide) small (room false)
    refine ⟨fun caller => bif caller then second else 0, final, ?_, fun zero => kept (zero true)⟩
    rw [Program.interleave_append,
      Program.interleave_second_alone serveFile _ (within false) firstRan]
    exact Program.interleave_first_alone serveFile _ (within true) secondRan

/-- Two sets that overlap both return 0, and one of the values is found only if it was found
before. -/
theorem Stored.overlap_loses (path : CString) (lawful : ssl.Lawful)
    (distinct : (key true).bytes ≠ (key false).bytes)
    (stored : Stored ssl password size file log)
    (small : ∀ caller, recordLength (key caller).bytes (value caller).bytes ≤ 2 ^ 24)
    (room : ∀ caller, Room size log (key caller).bytes (value caller).bytes)
    (schedule : List Bool) (three : ∀ caller, schedule.count caller = 3)
    (overlap : ¬ Serial schedule) :
    ∃ final, setBeside ssl path password key value schedule file = (.done 0, .done 0, final) ∧
      ∃ caller, Finds ssl path password (key caller) (value caller) final →
        Finds ssl path password (key caller) (value caller) file := by
  obtain ⟨last, committed, raced⟩ := race_of_overlap three overlap
  obtain ⟨header, records, tail, xtsKey, append, both⟩ :=
    stored.bothAppending lawful.inverts small room
  have start : file.bytes = Race.start.bytes append header records tail :=
    (both true).layout.parts.trans (Race.bytes_start ..).symm
  obtain ⟨final, ended, bytes⟩ := interleave_race path both start raced
  obtain ⟨caller, lost⟩ := lost_of_race lawful.blockwise both distinct last committed bytes
  refine ⟨final, ended, caller, fun finds => ?_⟩
  exact (stored.finds_iff lawful.blockwise caller).mpr (lost finds)

/-- Two sets lose nothing exactly when they do not overlap: on every file reached, for two calls
on distinct keys that each have room, and for every order of their three requests, both calls
end. If one makes all its requests before the other begins and both return 0, both values and
all other answers are kept. In every other order both return 0, and one of the values is found only
if it was found before; so if both calls change the value of their key, nothing is lost in no other
order. -/
theorem nothing_lost_iff_serial (lawful : ssl.Lawful) {size : UInt64}
    (reached : Reached ssl path password size file)
    (small : ∀ caller, recordLength (key caller).bytes (value caller).bytes ≤ 2 ^ 24)
    (distinct : (key true).bytes ≠ (key false).bytes)
    (fits : ∀ caller, ∃ next,
      runOn (callSet ssl path password (key caller) (value caller)) file = some (0, next))
    (schedule : List Bool) (three : ∀ caller, schedule.count caller = 3) :
    ∃ (result : Bool → Int) (final : File), setBeside ssl path password key value schedule file =
        (.done (result true), .done (result false), final) ∧
      (Serial schedule → (∀ caller, result caller = 0) →
        NothingLost ssl path password key value file final) ∧
      (¬ Serial schedule → (∀ caller, result caller = 0) ∧
        ∃ caller, Finds ssl path password (key caller) (value caller) final →
          Finds ssl path password (key caller) (value caller) file) ∧
      ((∀ caller, ¬ Finds ssl path password (key caller) (value caller) file) →
        ((∀ caller, result caller = 0) → NothingLost ssl path password key value file final) →
        Serial schedule) := by
  obtain ⟨log, stored⟩ := reached.stored lawful
  have room (caller : Bool) : Room size.toNat log (key caller).bytes (value caller).bytes := by
    by_contra full
    obtain ⟨next, returned⟩ := fits caller
    rw [stored.runOn_set_of_full (small caller) full] at returned
    cases returned
  by_cases serial : Serial schedule
  · obtain ⟨result, final, ended, kept⟩ := stored.serial_kept lawful distinct small room serial
    exact ⟨result, final, ended, fun _ => kept, fun overlap => absurd serial overlap,
      fun _ _ => serial⟩
  · obtain ⟨final, ended, caller, lost⟩ :=
      stored.overlap_loses path lawful distinct small room schedule three serial
    refine ⟨fun _ => 0, final, ended, fun impossible => absurd impossible serial,
      fun _ => ⟨fun _ => rfl, caller, lost⟩, ?_⟩
    intro changes kept
    exact absurd (lost ((kept fun _ => rfl).kept caller)) (changes caller)

theorem sample_fits (caller : Bool)
    (stored : Stored standIn samplePassword 8192 file []) :
    ∃ next, runOn (callSet standIn samplePath samplePassword (sampleKey caller)
      (sampleValue caller)) file = some (0, next) := by
  have small : recordLength (sampleKey caller).bytes (sampleValue caller).bytes ≤ 2 ^ 24 := by
    revert caller
    decide
  have room : Room 8192 [] (sampleKey caller).bytes (sampleValue caller).bytes := by
    revert caller
    decide
  obtain ⟨next, returned, -⟩ := stored.runOn_set_of_room samplePath standIn_lawful.inverts small
    room
  exact ⟨next, returned⟩

theorem nothing_lost_iff_serial_sample :
    ∃ file, Reached standIn samplePath samplePassword 8192 file ∧
      ∃ (result : Bool → Int) (final : File),
        setBeside standIn samplePath samplePassword sampleKey sampleValue
            [false, false, false, true, true, true] file =
          (.done (result true), .done (result false), final) ∧
        ((∀ caller, result caller = 0) →
          NothingLost standIn samplePath samplePassword sampleKey sampleValue file final) := by
  obtain ⟨file, allocated⟩ := sample_allocated
  have stored := stored_of_allocated standIn_lawful.cbc allocated
  obtain ⟨result, final, ended, kept, -⟩ := nothing_lost_iff_serial standIn_lawful
    (.allocated allocated) (by decide : ∀ caller,
      recordLength (sampleKey caller).bytes (sampleValue caller).bytes ≤ 2 ^ 24) (by decide)
    (fun caller => sample_fits caller stored) [false, false, false, true, true, true] (by decide)
  exact ⟨file, .allocated allocated, result, final, ended, kept (by decide)⟩

/-- Two sets on a fresh store that take turns: both return 0, and one of the values is lost. -/
theorem overlapping_sets_lose_update :
    ∃ file final, Reached standIn samplePath samplePassword 8192 file ∧
      (∀ caller, ∃ next, runOn (callSet standIn samplePath samplePassword (sampleKey caller)
        (sampleValue caller)) file = some (0, next)) ∧
      setBeside standIn samplePath samplePassword sampleKey sampleValue
          [true, false, true, false, true, false] file = (.done 0, .done 0, final) ∧
      ¬ NothingLost standIn samplePath samplePassword sampleKey sampleValue file final := by
  obtain ⟨file, allocated⟩ := sample_allocated
  have stored := stored_of_allocated standIn_lawful.cbc allocated
  obtain ⟨final, ended, caller, lost⟩ := stored.overlap_loses samplePath standIn_lawful
    (by decide : (sampleKey true).bytes ≠ (sampleKey false).bytes)
    (by decide : ∀ caller, recordLength (sampleKey caller).bytes (sampleValue caller).bytes ≤
      2 ^ 24)
    (by decide) [true, false, true, false, true, false] (by decide) (by decide)
  refine ⟨file, final, .allocated allocated, fun caller => sample_fits caller stored, ended, ?_⟩
  intro kept
  have before := (stored.finds_iff standIn_lawful.blockwise caller).mp (lost (kept.kept caller))
  cases before

end Loss

end Padlock
