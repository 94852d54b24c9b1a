/-
This file is about what the guard refuses. The probes refuse requests that would
take a protected inode from its name, as far as the dentry they look at is the
one that loses it; and the device refuses calls, which then must not have
changed anything.
-/

import Padlock.Guard.Session

namespace Padlock.Guard

/-! ### Requests that take a name away -/

/-- A call of `security_path_unlink` or of `security_path_rename`. -/
inductive NameRequest where
  | unlink (dentry : Object)
  | rename (oldDentry newDentry : Object) (flags : UInt32)

/-- `RENAME_NOREPLACE` -/
def renameNoReplace : UInt32 := 1

namespace NameRequest

/-- The probe that sees a request. -/
def hook : NameRequest → Hook
  | .unlink dentry => .pathUnlink dentry
  | .rename oldDentry newDentry _ => .pathRename oldDentry newDentry

/-- A request takes an inode from its name: it unlinks it, renames it, or renames something onto
it, which replaces it or exchanges the two. -/
def Removes (inode : Inode) : NameRequest → Prop
  | .unlink dentry => dentry.join = some inode
  | .rename oldDentry newDentry flags =>
    oldDentry.join = some inode ∨ (flags &&& renameNoReplace = 0 ∧ newDentry.join = some inode)

end NameRequest

section Names

variable (hash : UInt64 → Bucket)

/-- An inode is protected from a process: it is registered, and the process has no session on
it. -/
def Protected (state : State) (current : Tgid) (inode : Inode) : Prop :=
  findLocked hash state inode ≠ none ∧
    ∀ token, sessionOf hash state inode ≠ some (current, token)

variable {hash}

theorem protected_iff {calls : List Call} {current : Tgid} {inode : Inode} :
    Protected hash (stateAfter hash calls) current inode ↔
      inode ∈ registryAfter calls ∧ ¬ (registryAfter calls).Holds current inode := by
  have represents := represents_after hash calls
  have registered : findLocked hash (stateAfter hash calls) inode ≠ none ↔
      inode ∈ registryAfter calls := by
    rw [Option.ne_none_iff_exists', represents.mem_iff]
    exact exists_congr fun slot => represents.wellFormed.findLocked_eq_some_iff
  rw [Protected, registered, sessionOf_stateAfter]
  refine and_congr_right fun _ => ?_
  rw [Registry.Holds, Registry.session]
  constructor
  · rintro none ⟨record, token, found, session⟩
    exact none token (Option.bind_eq_some_iff.mpr ⟨record, found, session⟩)
  · intro none token session
    obtain ⟨record, found, session⟩ := Option.bind_eq_some_iff.mp session
    exact none ⟨record, token, found, session⟩

/-- The probe of a request denies it exactly when the dentry it looks at is protected. -/
theorem hook_denied_iff {calls : List Call} {current : Tgid} {returnAddress : UInt64}
    (called : returnAddress ≠ 0) (hook : Hook) :
    hook.denied hash (stateAfter hash calls) current returnAddress ↔
      ∃ inode, hook.inspects = some inode ∧
        Protected hash (stateAfter hash calls) current inode := by
  rw [(represents_after hash calls).denied_iff, Registry.Denies]
  simp only [protected_iff, ne_eq, called, not_false_eq_true, true_and]

end Names

/-- A request that takes a protected inode from its name is denied exactly when it unlinks it, or
renames something that is itself protected: of the two dentries of a rename the one that is
overwritten is not looked at. -/
theorem removal_denied_iff (hash : UInt64 → Bucket) (calls : List Call) (current : Tgid)
    (request : NameRequest) {inode : Inode} {returnAddress : UInt64} (called : returnAddress ≠ 0)
    (isProtected : Protected hash (stateAfter hash calls) current inode)
    (removes : request.Removes inode) :
    request.hook.denied hash (stateAfter hash calls) current returnAddress ↔
      ∀ oldDentry newDentry flags, request = .rename oldDentry newDentry flags →
        ∃ other, oldDentry.join = some other ∧
          Protected hash (stateAfter hash calls) current other := by
  rw [hook_denied_iff called]
  cases request with
  | unlink dentry =>
    constructor
    · rintro - oldDentry newDentry flags ⟨⟩
    · intro _
      exact ⟨inode, removes, isProtected⟩
  | rename oldDentry newDentry flags =>
    constructor
    · rintro denied _ _ _ ⟨⟩
      exact denied
    · intro renamed
      exact renamed oldDentry newDentry flags rfl

/-- A registered inode without a session is protected from everyone. -/
theorem sample_protected (current : Tgid) :
    Protected sampleHash (stateAfter sampleHash [sampleRegister 100]) current sampleInode := by
  have idle : sessionOf sampleHash (stateAfter sampleHash [sampleRegister 100]) sampleInode =
      none := by decide +kernel
  refine ⟨by decide +kernel, fun token => ?_⟩
  rw [idle]
  exact nofun

theorem removal_denied_sample :
    (NameRequest.unlink (some (some sampleInode))).hook.denied sampleHash
      (stateAfter sampleHash [sampleRegister 100]) 200 1 :=
  (removal_denied_iff sampleHash [sampleRegister 100] 200 (.unlink (some (some sampleInode)))
    (by decide) (sample_protected 200) rfl).mpr nofun

/-- A file that is not registered is renamed onto a registered one. -/
theorem renamed_onto_registered :
    Protected sampleHash (stateAfter sampleHash [sampleRegister 100]) 200 sampleInode ∧
      (NameRequest.rename (some (some { dev := 1, ino := 3 })) (some (some sampleInode)) 0).Removes
        sampleInode ∧
      ¬ (NameRequest.rename (some (some { dev := 1, ino := 3 })) (some (some sampleInode))
        0).hook.denied sampleHash (stateAfter sampleHash [sampleRegister 100]) 200 1 := by
  refine ⟨sample_protected 200, .inr ⟨rfl, rfl⟩, ?_⟩
  unfold Hook.denied
  decide +kernel

/-! ### Calls of the device that fail -/

section Failing

variable {hash : UInt64 → Bucket} {state : State} {call : Call} {request : Request}

theorem registerEntry_failed {kernPath : KernPath} {path : Bytes pathMax} {start length : UInt64}
    (failed : (registerEntry hash state kernPath path start length).1 ≠ 0) :
    (registerEntry hash state kernPath path start length).2 = state := by
  unfold registerEntry at failed ⊢
  split
  · rfl
  · rfl
  rename_i inode resolved
  rw [resolved] at failed
  dsimp only at failed ⊢
  split
  · rename_i slot found
    rw [found] at failed
    exact absurd rfl failed
  · rename_i absent
    rw [absent] at failed
    dsimp only at failed ⊢
    split
    · rfl
    · rename_i slot free
      rw [free] at failed
      exact absurd rfl failed

theorem beginSession_failed (failed : (beginSession hash state call request).1 ≠ 0) :
    (beginSession hash state call request).2.2 = state := by
  unfold beginSession at failed ⊢
  cases located : requestedSlot hash state call.kernPath request with
  | error result => rfl
  | ok slot =>
    rw [located] at failed
    dsimp only at failed ⊢
    split
    · rfl
    · rename_i free
      rw [if_neg free] at failed
      exact absurd rfl failed

theorem endSession_failed (failed : (endSession hash state call request).1 ≠ 0) :
    (endSession hash state call request).2.2 = state := by
  unfold endSession at failed ⊢
  cases located : requestedSlot hash state call.kernPath request with
  | error result => rfl
  | ok slot =>
    rw [located] at failed
    dsimp only at failed ⊢
    split
    · rfl
    · rename_i owned
      rw [if_neg owned] at failed
      exact absurd rfl failed

theorem query_unchanged : (query hash state call request).2.2 = state := by
  unfold query
  cases requestedSlot hash state call.kernPath request with
  | error result => rfl
  | ok slot => rfl

/-- The switch fails before it changes anything. -/
theorem dispatch_failed (failed : (dispatch hash state call request).1 ≠ 0) :
    (dispatch hash state call request).2.2 = state := by
  unfold dispatch at failed ⊢
  split_ifs at failed ⊢ with isRegister long isUnregister isBegin isEnd isQuery
  · rfl
  · exact registerEntry_failed failed
  · exact absurd rfl failed
  · exact beginSession_failed failed
  · exact endSession_failed failed
  · exact query_unchanged
  · rfl

theorem requestedSlot_eq_ok_iff {slot : Slot} :
    requestedSlot hash state call.kernPath request = .ok slot ↔
      request.path.toList.getD 0 0 ≠ 0 ∧
        ∃ inode, call.target request = some inode ∧ findLocked hash state inode = some slot := by
  unfold requestedSlot findPathLocked Call.target
  by_cases empty : request.path.toList.getD 0 0 = 0
  · rw [if_pos empty]
    exact ⟨nofun, fun nonempty => absurd empty nonempty.1⟩
  rw [if_neg empty]
  cases call.kernPath.lookup request.path with
  | none => exact ⟨nofun, nofun⟩
  | some dentry =>
    cases dentry with
    | none => exact ⟨nofun, nofun⟩
    | some inode =>
      simp only [Option.join_some, Option.some.injEq, exists_eq_left', ne_eq, empty,
        not_false_eq_true, true_and]
      cases findLocked hash state inode with
      | none => exact ⟨nofun, nofun⟩
      | some found =>
        rw [Except.ok.injEq, Option.some.injEq]

variable (hash state call) in
/-- A begin that may have the session on its inode, and does not have it under this token yet. -/
def StartsSession : Prop :=
  call.cmd = ioctlBeginWrite ∧ ∃ request inode, call.copyFromUser = some request ∧
    request.path.toList.getD 0 0 ≠ 0 ∧ call.target request = some inode ∧
    findLocked hash state inode ≠ none ∧
    (∀ session ∈ sessionOf hash state inode, session.1 = call.current) ∧
    sessionOf hash state inode ≠ some (call.current, call.token.1)

/-- The session in a slot, as the begin finds it. -/
theorem sessionOf_of_found {inode : Inode} {slot : Slot}
    (found : findLocked hash state inode = some slot) :
    sessionOf hash state inode =
      if (state.entries slot).sessionActive then
        some ((state.entries slot).writerTgid, (state.entries slot).token)
      else none := by
  rw [sessionOf, recordAt_of_found found, Option.bind_some, Entry.session_record]

/-- A begin for its own session under its own token writes what the entry holds. -/
theorem setEntry_same {slot : Slot} {tgid : Tgid} {token : UInt64}
    (sound : (state.entries slot).Sound) (active : (state.entries slot).sessionActive = true)
    (owner : (state.entries slot).writerTgid = tgid)
    (last : (state.entries slot).token = token) :
    state.setEntry slot { state.entries slot with
      sessionActive := true
      writerTgid := tgid
      sessionDirty := true
      token := token } = state := by
  have dirty : (state.entries slot).sessionDirty = true := by rw [sound.dirty, active]
  have same : { state.entries slot with
      sessionActive := true
      writerTgid := tgid
      sessionDirty := true
      token := token } = state.entries slot := by
    generalize state.entries slot = entry at active owner last dirty ⊢
    cases entry
    dsimp only at active owner last dirty
    rw [active, owner, last, dirty]
  rw [same, State.setEntry, Function.update_eq_self]

/-- A begin that succeeds changes the state only when it starts a session. -/
theorem beginSession_unchanged (wellFormed : WellFormed hash state)
    (isBegin : call.cmd = ioctlBeginWrite) (received : call.copyFromUser = some request)
    (nothing : ¬ StartsSession hash state call) :
    (beginSession hash state call request).2.2 = state := by
  by_cases failed : (beginSession hash state call request).1 = 0
  swap
  · exact beginSession_failed failed
  unfold beginSession at failed ⊢
  cases located : requestedSlot hash state call.kernPath request with
  | error result => rfl
  | ok slot =>
    obtain ⟨nonempty, inode, resolves, found⟩ := requestedSlot_eq_ok_iff.mp located
    dsimp only
    split
    · rfl
    rename_i free
    have session := sessionOf_of_found found
    have own : ∀ session ∈ sessionOf hash state inode, session.1 = call.current := by
      rw [session]
      cases active : (state.entries slot).sessionActive with
      | false => exact nofun
      | true =>
        rintro _ ⟨⟩
        simpa [active] using free
    have already : sessionOf hash state inode = some (call.current, call.token.1) := by
      by_contra new
      exact nothing ⟨isBegin, request, inode, received, nonempty, resolves,
        by rw [found]; exact nofun, own, new⟩
    rw [session] at already
    split at already
    · rename_i active
      rw [Option.some.injEq, Prod.mk.injEq] at already
      exact setEntry_same
        (wellFormed.sound slot (wellFormed.findLocked_eq_some_iff.mp found).1) active already.1
        already.2
    · cases already

/-- The commands that copy an answer back change the state only when they start a session. -/
theorem dispatch_unchanged (wellFormed : WellFormed hash state)
    (reads : iocDirection call.cmd &&& iocRead ≠ 0) (received : call.copyFromUser = some request)
    (nothing : ¬ StartsSession hash state call) :
    (dispatch hash state call request).2.2 = state := by
  unfold dispatch
  split_ifs with isRegister long isUnregister isBegin isEnd isQuery
  · rfl
  · rw [isRegister] at reads
    exact absurd (by decide) reads
  · rw [isUnregister] at reads
    exact absurd (by decide) reads
  · exact beginSession_unchanged wellFormed isBegin received nothing
  · rw [isEnd] at reads
    exact absurd (by decide) reads
  · exact query_unchanged
  · rfl

/-- A begin that starts a session and cannot give back the token fails all the same. -/
theorem ioctl_of_starts (starts : StartsSession hash state call) (lost : call.copyToUser = false) :
    (ioctl hash state call).1.result = -efault ∧ (ioctl hash state call).2 ≠ state := by
  obtain ⟨isBegin, request, inode, received, nonempty, resolves, registered, own, new⟩ := starts
  obtain ⟨slot, found⟩ := Option.ne_none_iff_exists'.mp registered
  have located : requestedSlot hash state call.kernPath request = .ok slot :=
    requestedSlot_eq_ok_iff.mpr ⟨nonempty, inode, resolves, found⟩
  have session := sessionOf_of_found found
  have free : ¬ ((state.entries slot).sessionActive &&
      (state.entries slot).writerTgid != call.current) = true := by
    rw [session] at own
    cases active : (state.entries slot).sessionActive with
    | false => simp
    | true =>
      rw [active, if_pos rfl] at own
      simpa using own _ rfl
  have began : (ioctl hash state call) =
      (⟨-efault, none⟩, state.setEntry slot { state.entries slot with
        sessionActive := true
        writerTgid := call.current
        sessionDirty := true
        token := call.token }) := by
    simp only [ioctl, dispatch, beginSession, isBegin, received, located, if_neg free, lost]
    rfl
  rw [began]
  refine ⟨rfl, fun same => new ?_⟩
  have entry := congrFun (congrArg State.entries same) slot
  rw [State.entries_setEntry, Function.update_self] at entry
  rw [session, ← entry]
  rfl

end Failing

/-- A call of the device that fails has changed nothing, in every state the guard reaches, unless
it is a begin that starts a session or replaces the token of the caller's own and then cannot copy
its answer back. -/
theorem failed_call_unchanged_iff (hash : UInt64 → Bucket) (calls : List Call) (call : Call) :
    ((ioctl hash (stateAfter hash calls) call).1.result < 0 →
      (ioctl hash (stateAfter hash calls) call).2 = stateAfter hash calls) ↔
    ¬ (StartsSession hash (stateAfter hash calls) call ∧ call.copyToUser = false) := by
  have wellFormed := (represents_after hash calls).wellFormed
  generalize stateAfter hash calls = state at wellFormed ⊢
  constructor
  · rintro unchanged ⟨starts, lost⟩
    obtain ⟨failed, changed⟩ := ioctl_of_starts starts lost
    exact changed (unchanged (by rw [failed]; decide))
  · intro nothing failed
    unfold ioctl at failed ⊢
    by_cases foreign : iocType call.cmd ≠ ioctlMagic
    · rw [if_pos foreign]
    rw [if_neg foreign] at failed ⊢
    cases received : call.copyFromUser with
    | none => rfl
    | some request =>
      rw [received] at failed
      dsimp only at failed ⊢
      have refused : (dispatch hash state call request).1 ≠ 0 → _ := dispatch_failed
      have answered := fun reads nothing => dispatch_unchanged wellFormed reads received nothing
      generalize dispatch hash state call request = switched at failed refused answered ⊢
      obtain ⟨result, filled, next⟩ := switched
      cases filled with
      | none => exact refused failed.ne
      | some filled =>
        dsimp only at failed refused answered ⊢
        by_cases nonzero : result ≠ 0
        · rw [if_pos nonzero]
          exact refused nonzero
        rw [if_neg nonzero] at failed ⊢
        by_cases reads : iocDirection call.cmd &&& iocRead ≠ 0
        · rw [if_pos reads] at failed ⊢
          cases copied : call.copyToUser with
          | true =>
            rw [copied] at failed
            exact absurd failed (lt_irrefl 0)
          | false => exact answered reads fun starts => nothing ⟨starts, copied⟩
        · rw [if_neg reads] at failed
          exact absurd failed (lt_irrefl 0)

/-- A begin draws a token and fails to copy it back. -/
theorem failed_begin_starts_session :
    (ioctl sampleHash (stateAfter sampleHash [sampleRegister 100])
        (sampleBegin 200 firstToken false)).1.result < 0 ∧
      (ioctl sampleHash (stateAfter sampleHash [sampleRegister 100])
        (sampleBegin 200 firstToken false)).2 ≠ stateAfter sampleHash [sampleRegister 100] := by
  refine ⟨by decide +kernel, fun same => ?_⟩
  have session := congrArg (fun state => sessionOf sampleHash state sampleInode) same
  exact absurd session (by decide +kernel)

end Padlock.Guard
