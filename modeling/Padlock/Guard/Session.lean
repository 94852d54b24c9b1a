/-
This file is about write sessions over whole runs: which events a session lasts
through, and which calls can take it from its owner. A session belongs to a
thread group and to the token last drawn for it, and the token counts even when
the call that drew it fails to copy it back.
-/

import Padlock.Guard.Effect

namespace Padlock.Guard

/-! ### Events -/

/-- A call and its reply. -/
abbrev Event := Call × Reply

/-- The token that a successful begin of a session on an inode has returned. -/
def begunToken (owner : Tgid) (inode : Inode) (event : Event) : Option UInt64 :=
  if event.1.current = owner ∧ event.1.command = some .beginWrite ∧ event.1.names = some inode ∧
      event.2.result = 0 then
    event.2.response.map Request.token
  else none

/-- A successful end of a session on an inode, with its token. -/
def Ends (owner : Tgid) (inode : Inode) (token : UInt64) (event : Event) : Prop :=
  event.1.current = owner ∧ event.1.command = some .endWrite ∧ event.1.names = some inode ∧
    event.1.copyFromUser.map Request.token = some token ∧ event.2.result = 0

/-- A successful registration of an inode, or its removal. -/
def Registers (inode : Inode) (event : Event) : Prop :=
  (event.1.command = some .register ∨ event.1.command = some .unregister) ∧
    event.1.names = some inode ∧ event.2.result = 0

/-- Among the events is one that ends a session: its owner ends it with the token of the last
successful begin, or the inode is registered or removed. The token is that of the last begin
before the events. -/
def SessionEnds (owner : Tgid) (inode : Inode) : UInt64 → List Event → Prop
  | _, [] => False
  | token, event :: rest =>
    Ends owner inode token event ∨ Registers inode event ∨
      SessionEnds owner inode ((begunToken owner inode event).getD token) rest

instance (owner : Tgid) (inode : Inode) (token : UInt64) (event : Event) :
    Decidable (Ends owner inode token event) :=
  inferInstanceAs (Decidable (_ ∧ _))

instance (inode : Inode) (event : Event) : Decidable (Registers inode event) :=
  inferInstanceAs (Decidable (_ ∧ _))

def decideSessionEnds (owner : Tgid) (inode : Inode) :
    (token : UInt64) → (events : List Event) → Decidable (SessionEnds owner inode token events)
  | _, [] => inferInstanceAs (Decidable False)
  | token, event :: rest =>
    have := decideSessionEnds owner inode ((begunToken owner inode event).getD token) rest
    inferInstanceAs (Decidable (_ ∨ _ ∨ _))

instance (owner : Tgid) (inode : Inode) (token : UInt64) (events : List Event) :
    Decidable (SessionEnds owner inode token events) :=
  decideSessionEnds owner inode token events

/-! Calls to try the guard with: all of them name one inode. -/

def sampleInode : Inode where
  dev := 1
  ino := 2

def samplePath : Bytes pathMax := ⟨115 :: zeros 4095, congrArg (· + 1) (length_zeros 4095)⟩

def sampleCall (current : Tgid) (cmd : UInt32) (token : UInt64)
    (drawn : { token : UInt64 // token ≠ 0 }) (copyToUser : Bool) : Call where
  current
  cmd
  copyFromUser := some
    { path := samplePath, start := 4096, length := 64, token, flags := 0, reserved := 0 }
  kernPath _ := some (some sampleInode)
  token := drawn
  copyToUser

def firstToken : { token : UInt64 // token ≠ 0 } := ⟨1, by decide⟩
def secondToken : { token : UInt64 // token ≠ 0 } := ⟨2, by decide⟩
def thirdToken : { token : UInt64 // token ≠ 0 } := ⟨3, by decide⟩

def sampleHash (_ : UInt64) : Bucket := 0

def sampleRegister (current : Tgid) : Call :=
  sampleCall current ioctlRegister 0 firstToken true

def sampleBegin (current : Tgid) (drawn : { token : UInt64 // token ≠ 0 }) (copyToUser : Bool) :
    Call :=
  sampleCall current ioctlBeginWrite 0 drawn copyToUser

/-- A request whose buffer does not end in a NUL. -/
def unterminatedRequest : Request where
  path := ⟨115 :: (zeros 4094 ++ [1]),
    congrArg (· + 1) (by rw [List.length_append, length_zeros]; rfl)⟩
  start := 0
  length := 0
  token := 0
  flags := 0
  reserved := 0

def sampleEnd (current : Tgid) (token : UInt64) : Call :=
  sampleCall current ioctlEndWrite token firstToken true

/-! ### Sessions on the map -/

section Sessions

variable {registry : Registry} {call : Call} {inode : Inode} {owner : Tgid} {token : UInt64}

/-- A session lasts through every call that does not end it. -/
theorem session_step (session : registry.session inode = some (owner, token))
    (copies : call.current = owner → registry.Grants call inode → call.copyToUser = true)
    (notEnded : ¬ Ends owner inode token (call, (registry.ioctl call).1))
    (notRegistered : ¬ Registers inode (call, (registry.ioctl call).1)) :
    (registry.ioctl call).2.session inode =
      some (owner, (begunToken owner inode (call, (registry.ioctl call).1)).getD token) := by
  cases effect registry call inode with
  | registration names command after reply =>
    exact absurd ⟨command, names, by rw [reply]⟩ notRegistered
  | begun request granted after reply =>
    have own : call.current = owner := (granted.free _ session).symm
    rw [copies own granted, if_pos rfl] at reply
    have conditions : call.current = owner ∧ call.command = some .beginWrite ∧
        call.names = some inode ∧ (registry.ioctl call).1.result = 0 :=
      ⟨own, granted.command, granted.names, by rw [reply]⟩
    rw [after, begunToken, if_pos conditions, reply, own]
    rfl
  | ended request names command received owned after reply =>
    rw [session, Option.some.injEq, Prod.mk.injEq] at owned
    refine absurd ⟨owned.1.symm, command, names, ?_, by rw [reply]⟩ notEnded
    rw [received, Option.map_some, owned.2]
  | idle after refused =>
    have notBegun : begunToken owner inode (call, (registry.ioctl call).1) = none := by
      refine if_neg fun begun => ?_
      obtain ⟨-, command, names, succeeded⟩ := begun
      exact refused names (by rw [command]; decide) succeeded
    rw [notBegun, Registry.session, after]
    exact session

/-- A session lasts through every run with no event that ends it. -/
theorem session_run {calls : List Call} (session : registry.session inode = some (owner, token))
    (copies : ∀ early call late, calls = early ++ call :: late → call.current = owner →
      (Machine.run Registry.ioctl registry early).2.Grants call inode → call.copyToUser = true)
    (lasts : ¬ SessionEnds owner inode token (Machine.trace Registry.ioctl registry calls)) :
    ∃ latest,
      (Machine.run Registry.ioctl registry calls).2.session inode = some (owner, latest) := by
  induction calls generalizing registry token with
  | nil => exact ⟨token, session⟩
  | cons call rest inductionHypothesis =>
    rw [Machine.trace_cons, SessionEnds, not_or, not_or] at lasts
    obtain ⟨notEnded, notRegistered, later⟩ := lasts
    have next := session_step session (copies [] call rest rfl) notEnded notRegistered
    refine inductionHypothesis next (fun early other late split => ?_) later
    exact copies (call :: early) other late (by rw [split, List.cons_append])

/-- A begin that succeeds leaves its session, and finds none of another owner. -/
theorem session_of_begun
    (begun : begunToken owner inode (call, (registry.ioctl call).1) = some token) :
    (registry.ioctl call).2.session inode = some (owner, token) ∧
      ∀ session ∈ registry.session inode, session.1 = owner := by
  unfold begunToken at begun
  split at begun
  · rename_i conditions
    obtain ⟨own, isBegin, names, succeeded⟩ := conditions
    dsimp only at own isBegin names succeeded begun
    cases effect registry call inode with
    | registration _ command _ _ =>
      rw [isBegin] at command
      obtain contradiction | contradiction := command <;> cases contradiction
    | begun request granted after reply =>
      have free := granted.free
      rw [own] at free after
      refine ⟨?_, free⟩
      cases copied : call.copyToUser with
      | true =>
        rw [copied, if_pos rfl] at reply
        rw [reply] at begun
        rw [after, ← Option.some.inj begun]
      | false =>
        rw [copied, if_neg Bool.false_ne_true] at reply
        rw [reply] at succeeded
        cases succeeded
    | ended _ _ command _ _ _ _ =>
      rw [isBegin] at command
      cases command
    | idle _ refused =>
      exact absurd succeeded (refused names (by rw [isBegin]; decide))
  · cases begun

end Sessions

/-! ### Runs of the guard -/

section Runs

variable (hash : UInt64 → Bucket)

/-- The guard after some calls. -/
def stateAfter (calls : List Call) : State := (Machine.run (ioctl hash) State.initial calls).2

/-- The reply to a call after some calls. -/
def replyTo (calls : List Call) (call : Call) : Reply := (ioctl hash (stateAfter hash calls) call).1

/-- The events of further calls after some calls. -/
def eventsAfter (calls later : List Call) : List Event :=
  Machine.trace (ioctl hash) (stateAfter hash calls) later

theorem eventsAfter_concat (calls later : List Call) (call : Call) :
    eventsAfter hash calls (later ++ [call]) =
      eventsAfter hash calls later ++ [(call, replyTo hash (calls ++ later) call)] := by
  unfold eventsAfter replyTo stateAfter
  rw [Machine.trace_append, Machine.run_append]
  rfl

/-- The map after some calls. -/
def registryAfter (calls : List Call) : Registry := (Machine.run Registry.ioctl ∅ calls).2

theorem registryAfter_append (calls later : List Call) :
    registryAfter (calls ++ later) =
      (Machine.run Registry.ioctl (registryAfter calls) later).2 := by
  rw [registryAfter, Machine.run_append]
  rfl

theorem registryAfter_concat (calls : List Call) (call : Call) :
    registryAfter (calls ++ [call]) = ((registryAfter calls).ioctl call).2 :=
  registryAfter_append calls [call]

theorem represents_after (calls : List Call) :
    Represents hash (stateAfter hash calls) (registryAfter calls) :=
  (Machine.run_alike (ioctl hash) Registry.ioctl
    (fun _ _ call represents (_ : True) => represents.ioctl call)
    (Represents.initial : Represents hash State.initial ∅)
    (fun call (_ : call ∈ calls) => trivial)).2

theorem replyTo_eq (calls : List Call) (call : Call) :
    replyTo hash calls call = ((registryAfter calls).ioctl call).1 :=
  ((represents_after hash calls).ioctl call).1

theorem eventsAfter_eq (calls later : List Call) :
    eventsAfter hash calls later = Machine.trace Registry.ioctl (registryAfter calls) later := by
  unfold eventsAfter Machine.trace
  rw [(Machine.run_alike (ioctl hash) Registry.ioctl
    (fun _ _ call represents (_ : True) => represents.ioctl call) (represents_after hash calls)
    (fun call (_ : call ∈ later) => trivial)).1]

/-- The probes on an inode with a session let its owner pass and no one else. -/
theorem denied_iff_not_owner {calls : List Call} {inode : Inode} {owner : Tgid} {token : UInt64}
    (session : (registryAfter calls).session inode = some (owner, token)) {hook : Hook}
    (inspects : hook.inspects = some inode) {returnAddress : UInt64} (called : returnAddress ≠ 0)
    (current : Tgid) :
    hook.denied hash (stateAfter hash calls) current returnAddress ↔ current ≠ owner := by
  obtain ⟨record, found, isSession⟩ := Option.bind_eq_some_iff.mp session
  have holds : (registryAfter calls).Holds current inode ↔ current = owner := by
    constructor
    · rintro ⟨other, itsToken, otherFound, its⟩
      rw [found] at otherFound
      obtain rfl := Option.some.inj otherFound
      rw [isSession, Option.some.injEq, Prod.mk.injEq] at its
      exact its.1.symm
    · rintro rfl
      exact ⟨record, token, found, isSession⟩
  rw [(represents_after hash calls).denied_iff, Registry.Denies, inspects]
  simp only [Option.some.injEq, exists_eq_left', ne_eq, called, not_false_eq_true, true_and, holds,
    Finmap.mem_of_lookup_eq_some found]

/-- The session on an inode, as the entries have it. -/
def sessionOf (state : State) (inode : Inode) : Option (Tgid × UInt64) :=
  (recordAt hash state inode).bind Record.session

theorem sessionOf_stateAfter (calls : List Call) (inode : Inode) :
    sessionOf hash (stateAfter hash calls) inode = (registryAfter calls).session inode := by
  rw [sessionOf, Registry.session, (represents_after hash calls).lookup]

/-- The guard in this state grants a begin of a session on an inode: its path is not empty and leads
to the inode, which is registered and has no session of another owner. -/
structure Granted (state : State) (call : Call) (inode : Inode) : Prop where
  command : call.command = some .beginWrite
  names : call.names = some inode
  nonempty : ∃ request, call.copyFromUser = some request ∧ request.path.toList.getD 0 0 ≠ 0
  registered : findLocked hash state inode ≠ none
  free : ∀ session ∈ sessionOf hash state inode, session.1 = call.current

/-- After some calls, each of the next ones that begins a session on the inode for this owner, and
that the guard grants, gets its answer copied back. -/
def CopiesBack (before : List Call) (owner : Tgid) (inode : Inode) (calls : List Call) : Prop :=
  ∀ early call late, calls = early ++ call :: late → call.current = owner →
    Granted hash (stateAfter hash (before ++ early)) call inode → call.copyToUser = true

variable {hash} {owner : Tgid} {inode : Inode} {token : UInt64} {before : List Call} {first : Call}

theorem registered_iff (calls : List Call) (inode : Inode) :
    findLocked hash (stateAfter hash calls) inode ≠ none ↔ inode ∈ registryAfter calls := by
  have represents := represents_after hash calls
  rw [represents.mem_iff, Option.ne_none_iff_exists']
  exact exists_congr fun slot => represents.wellFormed.findLocked_eq_some_iff

theorem granted_of_grants {calls : List Call} {call : Call}
    (grants : (registryAfter calls).Grants call inode) :
    Granted hash (stateAfter hash calls) call inode where
  command := grants.command
  names := grants.names
  nonempty := grants.nonempty
  registered := (registered_iff calls inode).mpr grants.member
  free := by
    rw [sessionOf_stateAfter]
    exact grants.free

/-- After a begin a session lasts until an event that ends it. -/
theorem session_lasts
    (begun : begunToken owner inode (first, replyTo hash before first) = some token)
    {later : List Call} (copies : CopiesBack hash (before ++ [first]) owner inode later)
    (lasts : ¬ SessionEnds owner inode token (eventsAfter hash (before ++ [first]) later)) :
    ∃ latest, (registryAfter (before ++ first :: later)).session inode = some (owner, latest) := by
  rw [replyTo_eq] at begun
  rw [eventsAfter_eq] at lasts
  obtain ⟨session, -⟩ := session_of_begun begun
  rw [← registryAfter_concat] at session
  have split : before ++ first :: later = (before ++ [first]) ++ later := by
    rw [List.append_assoc, List.singleton_append]
  rw [split, registryAfter_append]
  refine session_run session (fun early call late parts own grants => ?_) lasts
  rw [← registryAfter_append] at grants
  exact copies early call late parts own (granted_of_grants grants)

/-- Write sessions are exclusive over whole runs in which the owner's own begins, where the guard
grants them, get their tokens copied back. Once a thread group has begun a session on an inode,
another one can begin a session on it only after an event that ends the first: the owner ends it
with its last token, or the inode is registered or removed. Until then every probe on the inode
denies everyone else and lets the owner pass. -/
theorem sessions_exclude (hash : UInt64 → Bucket) (before between : List Call) (first : Call)
    {owner : Tgid} {inode : Inode} {token : UInt64}
    (begun : begunToken owner inode (first, replyTo hash before first) = some token)
    (copies : CopiesBack hash (before ++ [first]) owner inode between) :
    (∀ second other otherToken, other ≠ owner →
      begunToken other inode (second, replyTo hash (before ++ first :: between) second) =
        some otherToken →
      SessionEnds owner inode token (eventsAfter hash (before ++ [first]) between)) ∧
    ∀ early late, between = early ++ late →
      ¬ SessionEnds owner inode token (eventsAfter hash (before ++ [first]) early) →
      ∀ hook : Hook, hook.inspects = some inode → ∀ returnAddress, returnAddress ≠ 0 → ∀ current,
        hook.denied hash (stateAfter hash (before ++ first :: early)) current returnAddress ↔
          current ≠ owner := by
  constructor
  · intro second other otherToken different otherBegun
    by_contra lasts
    obtain ⟨latest, session⟩ := session_lasts begun copies lasts
    rw [replyTo_eq] at otherBegun
    obtain ⟨-, free⟩ := session_of_begun otherBegun
    exact different (free _ session).symm
  · intro early late split lasts hook inspects returnAddress called current
    have copiesEarly : CopiesBack hash (before ++ [first]) owner inode early := by
      intro front call back parts
      refine copies front call (back ++ late) ?_
      rw [split, parts, List.append_assoc, List.cons_append]
    obtain ⟨latest, session⟩ := session_lasts begun copiesEarly lasts
    exact denied_iff_not_owner hash session inspects called current

theorem sessions_exclude_sample :
    SessionEnds 100 sampleInode 1
        (eventsAfter sampleHash ([sampleRegister 100] ++ [sampleBegin 100 firstToken true])
          [sampleBegin 200 secondToken true, sampleEnd 100 1]) ∧
      (Hook.pathUnlink (some (some sampleInode))).denied sampleHash
        (stateAfter sampleHash
          ([sampleRegister 100] ++ sampleBegin 100 firstToken true ::
            [sampleBegin 200 secondToken true])) 200 1 := by
  have copies : CopiesBack sampleHash ([sampleRegister 100] ++ [sampleBegin 100 firstToken true])
      100 sampleInode [sampleBegin 200 secondToken true, sampleEnd 100 1] := by
    have all : ∀ call ∈ [sampleBegin 200 secondToken true, sampleEnd 100 1],
        call.copyToUser = true := by decide +kernel
    intro early call late split _ _
    refine all call ?_
    rw [split]
    exact List.mem_append_right _ List.mem_cons_self
  obtain ⟨exclusive, probes⟩ := sessions_exclude sampleHash [sampleRegister 100]
    [sampleBegin 200 secondToken true, sampleEnd 100 1] (sampleBegin 100 firstToken true)
    (by decide +kernel : begunToken 100 sampleInode (sampleBegin 100 firstToken true,
      replyTo sampleHash [sampleRegister 100] (sampleBegin 100 firstToken true)) = some 1)
    copies
  refine ⟨exclusive (sampleBegin 200 thirdToken true) 200 3 (by decide) (by decide +kernel), ?_⟩
  exact (probes [sampleBegin 200 secondToken true] [sampleEnd 100 1] rfl (by decide +kernel)
    (.pathUnlink (some (some sampleInode))) rfl 1 (by decide) 200).mpr (by decide)

/-- A begin whose token is not copied back replaces the token all the same. With the new token the
owner ends the session, and another thread group begins one, with no end under the last token that
a successful begin has returned. -/
theorem session_ended_with_uncopied_token :
    begunToken 100 sampleInode (sampleBegin 100 firstToken true,
        replyTo sampleHash [sampleRegister 100] (sampleBegin 100 firstToken true)) = some 1 ∧
      begunToken 200 sampleInode (sampleBegin 200 thirdToken true,
        replyTo sampleHash
          ([sampleRegister 100] ++ sampleBegin 100 firstToken true ::
            [sampleBegin 100 secondToken false, sampleEnd 100 2])
          (sampleBegin 200 thirdToken true)) = some 3 ∧
      ¬ SessionEnds 100 sampleInode 1
        (eventsAfter sampleHash ([sampleRegister 100] ++ [sampleBegin 100 firstToken true])
          [sampleBegin 100 secondToken false, sampleEnd 100 2]) := by
  decide +kernel

/-! ### Registration under a session -/

/-- A session is as its owner needs it: the inode is registered and locked, the session is open
with its token, and the probes let the owner pass and no one else. -/
structure SessionKept (hash : UInt64 → Bucket) (state : State) (inode : Inode) (owner : Tgid)
    (token : UInt64) : Prop where
  registered : ∃ slot, findLocked hash state inode = some slot ∧ (state.entries slot).locked = true
  session : sessionOf hash state inode = some (owner, token)
  probes : ∀ hook : Hook, hook.inspects = some inode → ∀ returnAddress, returnAddress ≠ 0 →
    ∀ current, hook.denied hash state current returnAddress ↔ current ≠ owner

theorem sessionKept_of_session {calls : List Call}
    (session : (registryAfter calls).session inode = some (owner, token)) :
    SessionKept hash (stateAfter hash calls) inode owner token := by
  have represents := represents_after hash calls
  refine ⟨?_, by rw [sessionOf_stateAfter, session], ?_⟩
  · obtain ⟨record, found, -⟩ := Option.bind_eq_some_iff.mp session
    obtain ⟨slot, located⟩ := represents.mem_iff.mp (Finmap.mem_of_lookup_eq_some found)
    exact ⟨slot, represents.wellFormed.findLocked_eq_some_iff.mpr located,
      (represents.wellFormed.sound slot located.1).locked⟩
  · intro hook inspects returnAddress called current
    exact denied_iff_not_owner hash session inspects called current

/-- Registering an inode anew, or removing it, does not look at its session: whoever makes the
call, the session survives it exactly when the call is a registration that is refused for a path
without a NUL at the end of its buffer. -/
theorem registration_keeps_session_iff (hash : UInt64 → Bucket) (calls : List Call) (call : Call)
    {inode : Inode} {owner : Tgid} {token : UInt64} {request : Request}
    (session : sessionOf hash (stateAfter hash calls) inode = some (owner, token))
    (isCommand : call.command = some .register ∨ call.command = some .unregister)
    (received : call.copyFromUser = some request) (resolves : call.target request = some inode) :
    SessionKept hash (stateAfter hash (calls ++ [call])) inode owner token ↔
      call.command = some .register ∧ request.path.toList.getD (pathMax - 1) 0 ≠ 0 := by
  rw [sessionOf_stateAfter] at session
  constructor
  · intro kept
    have still := kept.session
    rw [sessionOf_stateAfter, registryAfter_concat] at still
    obtain isRegister | isUnregister := isCommand
    · refine ⟨isRegister, fun terminated => ?_⟩
      obtain ⟨record, found, -⟩ := Option.bind_eq_some_iff.mp session
      have member := Finmap.mem_of_lookup_eq_some found
      rw [Registry.ioctl_next _ isRegister received, Registry.perform,
        if_neg (not_not.mpr terminated), resolves] at still
      dsimp only at still
      rw [if_neg fun full => full.1 member, Registry.session_insert] at still
      cases still
    · rw [Registry.ioctl_next _ isUnregister received, Registry.perform, resolves] at still
      dsimp only at still
      rw [Registry.session, Finmap.lookup_erase] at still
      cases still
  · rintro ⟨isRegister, long⟩
    refine sessionKept_of_session ?_
    rw [registryAfter_concat, Registry.ioctl_next _ isRegister received, Registry.perform,
      if_pos long]
    exact session

/-- A registration that is refused leaves the session alone. -/
theorem registration_keeps_session_sample :
    SessionKept sampleHash
      (stateAfter sampleHash ([sampleRegister 100, sampleBegin 100 firstToken true] ++
        [{ sampleRegister 200 with copyFromUser := some unterminatedRequest }]))
      sampleInode 100 1 :=
  (registration_keeps_session_iff sampleHash [sampleRegister 100, sampleBegin 100 firstToken true]
    { sampleRegister 200 with copyFromUser := some unterminatedRequest } (by decide +kernel)
    (.inl rfl) rfl (by decide +kernel)).mpr ⟨rfl, by decide +kernel⟩

/-- A registration by another thread group ends a session. -/
theorem registration_breaks_session :
    sessionOf sampleHash
        (stateAfter sampleHash [sampleRegister 100, sampleBegin 100 firstToken true]) sampleInode =
        some (100, 1) ∧
      (sampleRegister 200).names = some sampleInode ∧
      ¬ SessionKept sampleHash
        (stateAfter sampleHash ([sampleRegister 100, sampleBegin 100 firstToken true] ++
          [sampleRegister 200])) sampleInode 100 1 :=
  ⟨by decide +kernel, by decide +kernel, fun kept => absurd kept.session (by decide +kernel)⟩

end Runs

end Padlock.Guard
