/-
This file says what the guard is for: a finite map from inodes to records, each
with at most one session, and what every command does to it. The array and the
hash table refine this map: over whole runs every reply is that of the map, and
every probe decides as the map says.
-/

import Mathlib.Data.Finmap
import Mathlib.Data.Fintype.Card
import Padlock.Guard.Table
import Padlock.Library.Machine

namespace Padlock.Guard

/-! ### The map -/

/-- The registered inodes and their records. -/
abbrev Registry := Finmap fun _ : Inode => Record

inductive Command where
  | register
  | unregister
  | beginWrite
  | endWrite
  | query
  deriving DecidableEq

/-- The command of a number. -/
def Command.ofNumber (cmd : UInt32) : Option Command :=
  if cmd = ioctlRegister then some .register
  else if cmd = ioctlUnregister then some .unregister
  else if cmd = ioctlBeginWrite then some .beginWrite
  else if cmd = ioctlEndWrite then some .endWrite
  else if cmd = ioctlQuery then some .query
  else none

/-- The inode a request names at the moment of a call. -/
def Call.target (call : Call) (request : Request) : Option Inode :=
  (call.kernPath.lookup request.path).join

namespace Registry

/-- The record a request is about; an empty path and an inode without a record are errors. -/
def named (registry : Registry) (call : Call) (request : Request) :
    Except Int (Inode × Record) :=
  if request.path.toList.getD 0 0 = 0 then .error einval
  else
    match call.target request with
    | none => .error enoent
    | some inode =>
      match registry.lookup inode with
      | none => .error enoent
      | some record => .ok (inode, record)

/-- The answer to a command, an error number or what is copied back, and the map after it. -/
def perform (registry : Registry) (call : Call) (request : Request) :
    Command → Except Int (Option Request) × Registry
  | .register =>
    if request.path.toList.getD (pathMax - 1) 0 ≠ 0 then (.error enametoolong, registry)
    else
      match call.target request with
      | none => (.error enoent, registry)
      | some inode =>
        if inode ∉ registry ∧ registry.keys.card = maxEntries then (.error enospc, registry)
        else
          (.ok none,
            registry.insert inode
              { start := request.start, length := request.length, session := none })
  | .unregister =>
    match call.target request with
    | none => (.ok none, registry)
    | some inode => (.ok none, registry.erase inode)
  | .beginWrite =>
    match registry.named call request with
    | .error errno => (.error errno, registry)
    | .ok (inode, record) =>
      if ∃ owner ∈ record.session, owner.1 ≠ call.current then (.error ebusy, registry)
      else
        (.ok (some { request with token := call.token, flags := flagLocked ||| flagSession }),
          registry.insert inode { record with session := some (call.current, call.token) })
  | .endWrite =>
    match registry.named call request with
    | .error errno => (.error errno, registry)
    | .ok (inode, record) =>
      if record.session = some (call.current, request.token) then
        (.ok none, registry.insert inode { record with session := none })
      else (.error eperm, registry)
  | .query =>
    match registry.named call request with
    | .error errno => (.error errno, registry)
    | .ok (_, record) =>
      (.ok (some { request with
        start := record.start
        length := record.length
        token := (record.session.map Prod.snd).getD 0
        flags := flagLocked ||| if record.session.isSome then flagSession else 0 }), registry)

/-- A call on the map. -/
def ioctl (registry : Registry) (call : Call) : Reply × Registry :=
  if iocType call.cmd ≠ ioctlMagic then (⟨-enotty, none⟩, registry)
  else
    match call.copyFromUser with
    | none => (⟨-efault, none⟩, registry)
    | some request =>
      match Command.ofNumber call.cmd with
      | none => (⟨-enotty, none⟩, registry)
      | some command =>
        match registry.perform call request command with
        | (.error errno, next) => (⟨-errno, none⟩, next)
        | (.ok none, next) => (⟨0, none⟩, next)
        | (.ok (some response), next) =>
          if call.copyToUser then (⟨0, some response⟩, next) else (⟨-efault, none⟩, next)

/-- A process has a session on an inode. -/
def Holds (registry : Registry) (current : Tgid) (inode : Inode) : Prop :=
  ∃ record token, registry.lookup inode = some record ∧ record.session = some (current, token)

/-- The map denies a call of a probed function: the inode is registered, and the process has no
session on it. -/
def Denies (registry : Registry) (current : Tgid) (hook : Hook) : Prop :=
  ∃ inode, hook.inspects = some inode ∧ inode ∈ registry ∧ ¬ registry.Holds current inode

end Registry

/-! ### The array and the table refine the map -/

section Refinement

variable {hash : UInt64 → Bucket}

/-- A state of the guard stands for a map. -/
structure Represents (hash : UInt64 → Bucket) (state : State) (registry : Registry) : Prop where
  wellFormed : WellFormed hash state
  lookup : ∀ inode, registry.lookup inode = recordAt hash state inode

variable {state : State} {registry : Registry} {inode : Inode} {slot : Slot}

theorem Represents.initial : Represents hash State.initial ∅ :=
  ⟨.initial hash, fun _ => rfl⟩

/-- A changed record of the state is a changed record of the map. -/
theorem Represents.insert (represents : Represents hash state registry) {next : State}
    {record : Record}
    (changed : WellFormed hash next ∧
      recordAt hash next = Function.update (recordAt hash state) inode (some record)) :
    Represents hash next (registry.insert inode record) := by
  refine ⟨changed.1, fun other => ?_⟩
  rw [changed.2]
  by_cases same : other = inode
  · subst same
    rw [Finmap.lookup_insert, Function.update_self]
  · rw [Finmap.lookup_insert_of_ne _ same, Function.update_of_ne same, represents.lookup]

theorem Represents.erase (represents : Represents hash state registry) {next : State}
    (changed : WellFormed hash next ∧
      recordAt hash next = Function.update (recordAt hash state) inode none) :
    Represents hash next (registry.erase inode) := by
  refine ⟨changed.1, fun other => ?_⟩
  rw [changed.2]
  by_cases same : other = inode
  · subst same
    rw [Finmap.lookup_erase, Function.update_self]
  · rw [Finmap.lookup_erase_ne same, Function.update_of_ne same, represents.lookup]

theorem Represents.mem_iff (represents : Represents hash state registry) :
    inode ∈ registry ↔
      ∃ slot, (state.entries slot).inUse = true ∧ (state.entries slot).inode = inode := by
  rw [Finmap.mem_iff]
  constructor
  · rintro ⟨record, found⟩
    rw [represents.lookup, recordAt, Option.map_eq_some_iff] at found
    obtain ⟨slot, located, -⟩ := found
    exact ⟨slot, represents.wellFormed.findLocked_eq_some_iff.mp located⟩
  · rintro ⟨slot, located⟩
    rw [represents.lookup,
      recordAt_of_found (represents.wellFormed.findLocked_eq_some_iff.mpr located)]
    exact ⟨_, rfl⟩

/-- The map has as many inodes as there are slots exactly when every slot is in use. -/
theorem Represents.full_iff (represents : Represents hash state registry) :
    registry.keys.card = maxEntries ↔ firstFree state = none := by
  have keys : registry.keys =
      (Finset.univ.filter fun slot => (state.entries slot).inUse = true).image
        fun slot => (state.entries slot).inode := by
    refine Finset.ext fun inode => ?_
    rw [Finmap.mem_keys, represents.mem_iff, Finset.mem_image]
    simp only [Finset.mem_filter, Finset.mem_univ, true_and]
  have injective : Set.InjOn (fun slot => (state.entries slot).inode)
      (Finset.univ.filter fun slot => (state.entries slot).inUse = true) := by
    intro first firstUsed second secondUsed same
    rw [Finset.coe_filter, Set.mem_ofPred_eq] at firstUsed secondUsed
    exact represents.wellFormed.indexes.unique first second firstUsed.2 secondUsed.2 same
  rw [keys, Finset.card_image_of_injOn injective, firstFree, List.find?_eq_none]
  constructor
  · intro all slot _
    have whole := Finset.eq_univ_of_card _ (all.trans (Fintype.card_fin maxEntries).symm)
    have member := Finset.mem_univ slot
    rw [← whole, Finset.mem_filter] at member
    rw [member.2]
    decide
  · intro all
    rw [Finset.filter_true_of_mem fun slot _ => ?_, Finset.card_univ, Fintype.card_fin]
    simpa using all slot (List.mem_finRange slot)

variable {call : Call} {request : Request}

/-- The entry a request is about, and its record in the map. -/
theorem Represents.requestedSlot_cases (represents : Represents hash state registry) :
    (∃ errno, errno ≠ 0 ∧
      requestedSlot hash state call.kernPath request = .error (-errno) ∧
      registry.named call request = .error errno) ∨
    ∃ slot inode, findLocked hash state inode = some slot ∧
      requestedSlot hash state call.kernPath request = .ok slot ∧
      registry.named call request = .ok (inode, (state.entries slot).record) ∧
      call.target request = some inode := by
  unfold requestedSlot Registry.named findPathLocked Call.target
  by_cases empty : request.path.toList.getD 0 0 = 0
  · exact .inl ⟨einval, by decide, by rw [if_pos empty], by rw [if_pos empty]⟩
  rw [if_neg empty, if_neg empty]
  cases call.kernPath.lookup request.path with
  | none => exact .inl ⟨enoent, by decide, rfl, rfl⟩
  | some dentry =>
    cases dentry with
    | none => exact .inl ⟨enoent, by decide, rfl, rfl⟩
    | some inode =>
      simp only [Option.join_some]
      rw [represents.lookup, recordAt]
      cases found : findLocked hash state inode with
      | none => exact .inl ⟨enoent, by decide, rfl, rfl⟩
      | some slot => exact .inr ⟨slot, inode, found, rfl, rfl, rfl⟩

/-- The result of the switch and the request it has filled in, against the answer of the map. -/
def Agrees (cmd : UInt32) (result : Int) (filled : Option Request) :
    Except Int (Option Request) → Prop
  | .error errno => errno ≠ 0 ∧ result = -errno
  | .ok response => result = 0 ∧ ∃ request, filled = some request ∧
    response = if iocDirection cmd &&& iocRead ≠ 0 then some request else none

/-- A part of the switch does what a command does on the map. -/
def Performs (hash : UInt64 → Bucket) (cmd : UInt32) (registry : Registry) (call : Call)
    (request : Request) (command : Command) (output : Int × Option Request × State) : Prop :=
  Agrees cmd output.1 output.2.1 (registry.perform call request command).1 ∧
    Represents hash output.2.2 (registry.perform call request command).2

/-- What registering a path does. -/
theorem Represents.registerEntry_cases (represents : Represents hash state registry)
    (kernPath : KernPath) (path : Bytes pathMax) (start length : UInt64) :
    (kernPath.lookup path).join = none ∧
        registerEntry hash state kernPath path start length = (-enoent, state) ∨
      ∃ inode, (kernPath.lookup path).join = some inode ∧
        ((inode ∉ registry ∧ registry.keys.card = maxEntries) ∧
            registerEntry hash state kernPath path start length = (-enospc, state) ∨
          ¬ (inode ∉ registry ∧ registry.keys.card = maxEntries) ∧
            ∃ next, registerEntry hash state kernPath path start length = (0, next) ∧
              Represents hash next
                (registry.insert inode { start, length, session := none })) := by
  unfold registerEntry
  cases kernPath.lookup path with
  | none => exact .inl ⟨rfl, rfl⟩
  | some dentry =>
    cases dentry with
    | none => exact .inl ⟨rfl, rfl⟩
    | some inode =>
      refine .inr ⟨inode, rfl, ?_⟩
      simp only [findInodeLocked]
      cases found : findLocked hash state inode with
      | some slot =>
        have located := represents.wellFormed.findLocked_eq_some_iff.mp found
        have member : inode ∈ registry := represents.mem_iff.mpr ⟨slot, located⟩
        refine .inr ⟨fun full => full.1 member, _, rfl, represents.insert ?_⟩
        exact represents.wellFormed.setEntry found
          (Entry.sound_reset located.1 path start length) located.2
      | none =>
        have absent : inode ∉ registry := by
          rw [represents.mem_iff]
          rintro ⟨slot, used, isInode⟩
          exact represents.wellFormed.findLocked_eq_none_iff.mp found slot used isInode
        cases free : firstFree state with
        | none => exact .inl ⟨⟨absent, represents.full_iff.mpr free⟩, rfl⟩
        | some slot =>
          refine .inr ⟨fun full => ?_, _, rfl, represents.insert ?_⟩
          · rw [represents.full_iff.mp full.2] at free
            cases free
          · have unused : (state.entries slot).inUse = false := by
              simpa using List.find?_some free
            refine represents.wellFormed.take found unused
              (Entry.sound_reset ?_ path start length) ?_
            · rw [State.entries_take_self]
            · rw [Entry.inode_reset, State.entries_take_self]
              rfl

theorem Represents.register (represents : Represents hash state registry) :
    Performs hash ioctlRegister registry call request .register
      (if request.path.toList.getD (pathMax - 1) 0 ≠ 0 then (-enametoolong, none, state)
      else
        let (result, next) :=
          registerEntry hash state call.kernPath request.path request.start request.length
        (result, some { request with flags := if result = 0 then flagLocked else 0 }, next)) := by
  unfold Performs Registry.perform Call.target
  by_cases long : request.path.toList.getD (pathMax - 1) 0 ≠ 0
  · rw [if_pos long, if_pos long]
    exact ⟨⟨by decide, rfl⟩, represents⟩
  rw [if_neg long, if_neg long]
  obtain ⟨lost, done⟩ | ⟨inode, isTarget, ⟨full, done⟩ | ⟨notFull, next, done, nextRepresents⟩⟩ :=
    represents.registerEntry_cases call.kernPath request.path request.start request.length
  · rw [done, lost]
    exact ⟨⟨by decide, rfl⟩, represents⟩
  · rw [done, isTarget]
    dsimp only
    rw [if_pos full]
    exact ⟨⟨by decide, rfl⟩, represents⟩
  · rw [done, isTarget]
    dsimp only
    rw [if_neg notFull]
    exact ⟨⟨rfl, _, rfl, rfl⟩, nextRepresents⟩

theorem Represents.unregister (represents : Represents hash state registry) :
    Performs hash ioctlUnregister registry call request .unregister
      (0, some request, unregisterEntry hash state call.kernPath request.path) := by
  unfold Performs Registry.perform Call.target unregisterEntry
  cases call.kernPath.lookup request.path with
  | none => exact ⟨⟨rfl, _, rfl, rfl⟩, represents⟩
  | some dentry =>
    cases dentry with
    | none => exact ⟨⟨rfl, _, rfl, rfl⟩, represents⟩
    | some inode =>
      simp only [Option.join_some, findInodeLocked]
      refine ⟨⟨rfl, _, rfl, rfl⟩, ?_⟩
      cases found : findLocked hash state inode with
      | some slot => exact represents.erase (represents.wellFormed.giveBack found)
      | none =>
        refine represents.erase ⟨represents.wellFormed, ?_⟩
        rw [Function.eq_update_self_iff]
        rw [recordAt, found, Option.map_none]

/-- A session of an entry in use, as its record has it. -/
theorem Entry.session_record (entry : Entry) :
    entry.record.session =
      if entry.sessionActive then some (entry.writerTgid, entry.token) else none := rfl

theorem Represents.beginWrite (represents : Represents hash state registry) :
    Performs hash ioctlBeginWrite registry call request .beginWrite
      (let (result, filled, next) := beginSession hash state call request
      (result, some filled, next)) := by
  unfold Performs Registry.perform beginSession
  obtain ⟨errno, nonzero, refused, named⟩ | ⟨slot, inode, found, located, named, -⟩ :=
    represents.requestedSlot_cases
  · rw [refused, named]
    exact ⟨⟨nonzero, rfl⟩, represents⟩
  rw [located, named]
  dsimp only
  obtain ⟨used, isInode⟩ := represents.wellFormed.findLocked_eq_some_iff.mp found
  have sound := represents.wellFormed.sound slot used
  have busy : (∃ owner ∈ (state.entries slot).record.session, owner.1 ≠ call.current) ↔
      ((state.entries slot).sessionActive &&
        (state.entries slot).writerTgid != call.current) = true := by
    rw [Entry.session_record]
    cases (state.entries slot).sessionActive <;> simp
  by_cases other : ∃ owner ∈ (state.entries slot).record.session, owner.1 ≠ call.current
  · rw [if_pos other, if_pos (busy.mp other)]
    exact ⟨⟨by decide, rfl⟩, represents⟩
  · rw [if_neg other, if_neg (mt busy.mpr other)]
    refine ⟨⟨rfl, _, rfl, rfl⟩, represents.insert (represents.wellFormed.setEntry found ?_ isInode)⟩
    exact ⟨used, sound.locked, rfl, ⟨fun zero => absurd zero call.token.2, nofun⟩, nofun⟩

theorem Represents.endWrite (represents : Represents hash state registry) :
    Performs hash ioctlEndWrite registry call request .endWrite
      (let (result, filled, next) := endSession hash state call request
      (result, some filled, next)) := by
  unfold Performs Registry.perform endSession
  obtain ⟨errno, nonzero, refused, named⟩ | ⟨slot, inode, found, located, named, -⟩ :=
    represents.requestedSlot_cases
  · rw [refused, named]
    exact ⟨⟨nonzero, rfl⟩, represents⟩
  rw [located, named]
  dsimp only
  obtain ⟨used, isInode⟩ := represents.wellFormed.findLocked_eq_some_iff.mp found
  have sound := represents.wellFormed.sound slot used
  have owned : (state.entries slot).record.session = some (call.current, request.token) ↔
      ¬ (!(state.entries slot).sessionActive || (state.entries slot).writerTgid != call.current ||
        (state.entries slot).token != request.token) = true := by
    rw [Entry.session_record]
    cases (state.entries slot).sessionActive <;> simp
  by_cases own : (state.entries slot).record.session = some (call.current, request.token)
  · rw [if_pos own, if_neg (owned.mp own)]
    refine ⟨⟨rfl, _, rfl, rfl⟩, represents.insert (represents.wellFormed.setEntry found ?_ isInode)⟩
    exact ⟨used, sound.locked, rfl, ⟨fun _ => rfl, fun _ => rfl⟩, fun _ => rfl⟩
  · rw [if_neg own, if_pos (not_not.mp (mt owned.mpr own))]
    exact ⟨⟨by decide, rfl⟩, represents⟩

theorem Represents.query (represents : Represents hash state registry) :
    Performs hash ioctlQuery registry call request .query
      (let (result, filled, next) := query hash state call request
      (result, some filled, next)) := by
  unfold Performs Registry.perform Guard.query
  obtain ⟨errno, nonzero, refused, named⟩ | ⟨slot, inode, found, located, named, -⟩ :=
    represents.requestedSlot_cases
  · rw [refused, named]
    exact ⟨⟨nonzero, rfl⟩, represents⟩
  rw [located, named]
  dsimp only
  obtain ⟨used, -⟩ := represents.wellFormed.findLocked_eq_some_iff.mp found
  have sound := represents.wellFormed.sound slot used
  have token : ((state.entries slot).record.session.map Prod.snd).getD 0 =
      (state.entries slot).token := by
    rw [Entry.session_record]
    cases active : (state.entries slot).sessionActive with
    | true => rfl
    | false => exact (sound.token.mpr active).symm
  have flags :
      (flagLocked ||| if (state.entries slot).record.session.isSome then flagSession else 0) =
      (if (state.entries slot).locked then flagLocked else 0) |||
        (if (state.entries slot).sessionActive then flagSession else 0) := by
    rw [Entry.session_record, sound.locked]
    cases (state.entries slot).sessionActive <;> rfl
  refine ⟨⟨rfl, _, rfl, ?_⟩, represents⟩
  have reads : iocDirection ioctlQuery &&& iocRead ≠ 0 := by decide
  rw [token, flags, if_pos reads]
  rfl

/-- The switch does what the command of its number does on the map. -/
theorem Represents.dispatch (represents : Represents hash state registry) (call : Call)
    (request : Request) :
    (Command.ofNumber call.cmd = none ∧ dispatch hash state call request = (-enotty, none, state)) ∨
      ∃ command, Command.ofNumber call.cmd = some command ∧
        Performs hash call.cmd registry call request command
          (dispatch hash state call request) := by
  unfold Command.ofNumber Guard.dispatch
  by_cases isRegister : call.cmd = ioctlRegister
  · simp only [if_pos isRegister]
    rw [isRegister]
    exact .inr ⟨_, rfl, represents.register⟩
  by_cases isUnregister : call.cmd = ioctlUnregister
  · simp only [if_neg isRegister, if_pos isUnregister]
    rw [isUnregister]
    exact .inr ⟨_, rfl, represents.unregister⟩
  by_cases isBegin : call.cmd = ioctlBeginWrite
  · simp only [if_neg isRegister, if_neg isUnregister, if_pos isBegin]
    rw [isBegin]
    exact .inr ⟨_, rfl, represents.beginWrite⟩
  by_cases isEnd : call.cmd = ioctlEndWrite
  · simp only [if_neg isRegister, if_neg isUnregister, if_neg isBegin, if_pos isEnd]
    rw [isEnd]
    exact .inr ⟨_, rfl, represents.endWrite⟩
  by_cases isQuery : call.cmd = ioctlQuery
  · simp only [if_neg isRegister, if_neg isUnregister, if_neg isBegin, if_neg isEnd,
      if_pos isQuery]
    rw [isQuery]
    exact .inr ⟨_, rfl, represents.query⟩
  · simp only [if_neg isRegister, if_neg isUnregister, if_neg isBegin, if_neg isEnd,
      if_neg isQuery]
    exact .inl ⟨trivial, trivial⟩

/-- Every call replies as the map does, and leaves a state that stands for the map after it. -/
theorem Represents.ioctl (represents : Represents hash state registry) (call : Call) :
    (ioctl hash state call).1 = (registry.ioctl call).1 ∧
      Represents hash (ioctl hash state call).2 (registry.ioctl call).2 := by
  unfold Guard.ioctl Registry.ioctl
  by_cases foreign : iocType call.cmd ≠ ioctlMagic
  · rw [if_pos foreign, if_pos foreign]
    exact ⟨rfl, represents⟩
  rw [if_neg foreign, if_neg foreign]
  cases call.copyFromUser with
  | none => exact ⟨rfl, represents⟩
  | some request =>
    dsimp only
    obtain ⟨unknown, switched⟩ | ⟨command, known, performs⟩ := represents.dispatch call request
    · rw [unknown, switched]
      exact ⟨rfl, represents⟩
    · rw [known]
      dsimp only
      obtain ⟨agrees, nextRepresents⟩ := performs
      generalize registry.perform call request command = answered at agrees nextRepresents ⊢
      obtain ⟨answer, nextRegistry⟩ := answered
      generalize Guard.dispatch hash state call request = switched at agrees nextRepresents ⊢
      obtain ⟨result, filled, next⟩ := switched
      cases answer with
      | error errno =>
        obtain ⟨nonzero, rfl : result = -errno⟩ := agrees
        cases filled with
        | none => exact ⟨rfl, nextRepresents⟩
        | some filled =>
          dsimp only
          rw [if_pos (neg_ne_zero.mpr nonzero)]
          exact ⟨rfl, nextRepresents⟩
      | ok response =>
        obtain ⟨rfl : result = 0, request, rfl : filled = some request, rfl⟩ := agrees
        dsimp only
        rw [if_neg (not_not.mpr rfl)]
        by_cases reads : iocDirection call.cmd &&& iocRead ≠ 0
        · rw [if_pos reads, if_pos reads]
          cases call.copyToUser <;> exact ⟨rfl, nextRepresents⟩
        · rw [if_neg reads, if_neg reads]
          exact ⟨rfl, nextRepresents⟩

theorem Represents.denyObject_iff (represents : Represents hash state registry) (current : Tgid)
    (object : Object) :
    denyObject hash state current object = true ↔
      ∃ inode, object.join = some inode ∧ inode ∈ registry ∧ ¬ registry.Holds current inode := by
  cases object with
  | none => exact ⟨nofun, nofun⟩
  | some contents =>
    cases contents with
    | none => exact ⟨nofun, nofun⟩
    | some inode =>
      have lookup := represents.lookup inode
      simp only [denyObject, findInodeLocked, Option.join_some, Option.some.injEq,
        exists_eq_left', Finmap.mem_iff, Registry.Holds]
      rw [lookup, recordAt]
      cases found : findLocked hash state inode with
      | none => simp
      | some slot =>
        obtain ⟨used, -⟩ := represents.wellFormed.findLocked_eq_some_iff.mp found
        simp only [(represents.wellFormed.sound slot used).locked, isAuthorized, Option.map_some,
          Option.some.injEq, exists_eq', true_and, exists_and_left, exists_eq_left',
          Entry.session_record]
        cases (state.entries slot).sessionActive <;> simp

/-- A probe denies as the map does. -/
theorem Represents.denied_iff (represents : Represents hash state registry) (current : Tgid)
    (returnAddress : UInt64) (hook : Hook) :
    hook.denied hash state current returnAddress ↔
      returnAddress ≠ 0 ∧ registry.Denies current hook := by
  have kprobe (object : Object) :
      (if !denyObject hash state current object then none else kprobeDeny returnAddress) =
          some (-eperm) ↔
        returnAddress ≠ 0 ∧
          ∃ inode, object.join = some inode ∧ inode ∈ registry ∧
            ¬ registry.Holds current inode := by
    rw [← represents.denyObject_iff, kprobeDeny]
    cases denyObject hash state current object <;> simp
  unfold Hook.denied Registry.Denies
  cases hook with
  | filePermission file mask =>
    simp only [Hook.verdict, kprobeFilePermission, Hook.inspects]
    split
    · simp
    · exact kprobe file
  | fileTruncate file => exact kprobe file
  | pathUnlink dentry => exact kprobe dentry
  | pathRename oldDentry newDentry => exact kprobe oldDentry
  | pathTruncate path =>
    cases path with
    | none => exact kprobe none
    | some dentry => exact kprobe dentry

end Refinement

/-- The guard refines the map: over every run of calls, whatever the callers, the paths, the
tokens and the copies, the replies are those of the map; and after every run a probe denies a call
exactly when the map does. -/
theorem guard_refines_registry (hash : UInt64 → Bucket) (calls : List Call) :
    (Machine.run (ioctl hash) State.initial calls).1 = (Machine.run Registry.ioctl ∅ calls).1 ∧
      ∀ current returnAddress hook,
        hook.denied hash (Machine.run (ioctl hash) State.initial calls).2 current returnAddress ↔
          returnAddress ≠ 0 ∧ (Machine.run Registry.ioctl ∅ calls).2.Denies current hook := by
  obtain ⟨replies, represents⟩ := Machine.run_alike (ioctl hash) Registry.ioctl
    (fun _ _ call represents (_ : True) => represents.ioctl call)
    (Represents.initial : Represents hash State.initial ∅) (fun call (_ : call ∈ calls) => trivial)
  exact ⟨replies, represents.denied_iff⟩

end Padlock.Guard
