/-
This file says once what a call can do to one inode of the map, with its reply:
register it anew or give it up, begin a session or replace the caller's own, end
the caller's session, or leave it alone. What a call has done does not depend on
whether its answer can be copied back.
-/

import Padlock.Guard.Registry

namespace Padlock.Guard

/-- The command of a call. -/
def Call.command (call : Call) : Option Command := Command.ofNumber call.cmd

/-- The inode that a call names: the one its path leads to. -/
def Call.names (call : Call) : Option Inode := call.copyFromUser.bind call.target

/-- The session on an inode. -/
def Registry.session (registry : Registry) (inode : Inode) : Option (Tgid × UInt64) :=
  (registry.lookup inode).bind Record.session

/-- A begin of a session on an inode that is granted: its path is not empty and leads to the inode,
which is registered and has no session of another owner. -/
structure Registry.Grants (registry : Registry) (call : Call) (inode : Inode) : Prop where
  command : call.command = some .beginWrite
  names : call.names = some inode
  nonempty : ∃ request, call.copyFromUser = some request ∧ request.path.toList.getD 0 0 ≠ 0
  member : inode ∈ registry
  free : ∀ owner ∈ registry.session inode, owner.1 = call.current

/-- What a call does to the session on an inode: it registers the inode anew or gives it up, it
begins a session or replaces the caller's own, it ends the caller's session, or it leaves the
inode alone. -/
inductive Effect (registry : Registry) (call : Call) (inode : Inode) : Prop
  | registration (names : call.names = some inode)
      (command : call.command = some .register ∨ call.command = some .unregister)
      (after : (registry.ioctl call).2.session inode = none)
      (reply : (registry.ioctl call).1 = ⟨0, none⟩)
  | begun (request : Request) (granted : registry.Grants call inode)
      (after : (registry.ioctl call).2.session inode = some (call.current, call.token.1))
      (reply : (registry.ioctl call).1 =
        if call.copyToUser then
          ⟨0, some { request with token := call.token, flags := flagLocked ||| flagSession }⟩
        else ⟨-efault, none⟩)
  | ended (request : Request) (names : call.names = some inode)
      (command : call.command = some .endWrite) (received : call.copyFromUser = some request)
      (owned : registry.session inode = some (call.current, request.token))
      (after : (registry.ioctl call).2.session inode = none)
      (reply : (registry.ioctl call).1 = ⟨0, none⟩)
  | idle (after : (registry.ioctl call).2.lookup inode = registry.lookup inode)
      (refused : call.names = some inode → call.command ≠ some .query →
        (registry.ioctl call).1.result ≠ 0)

section Effects

variable {registry : Registry} {call : Call} {request : Request} {inode : Inode}

/-- The number of a command. -/
def Command.number : Command → UInt32
  | .register => ioctlRegister
  | .unregister => ioctlUnregister
  | .beginWrite => ioctlBeginWrite
  | .endWrite => ioctlEndWrite
  | .query => ioctlQuery

theorem Command.number_of_ofNumber {cmd : UInt32} {command : Command}
    (known : Command.ofNumber cmd = some command) : cmd = command.number := by
  unfold Command.ofNumber at known
  split_ifs at known <;> cases known <;> assumption

/-- A call with a known command and a request that was copied. -/
theorem Registry.ioctl_of_command (registry : Registry) {command : Command}
    (isCommand : call.command = some command)
    (received : call.copyFromUser = some request) :
    registry.ioctl call =
      match registry.perform call request command with
      | (.error errno, next) => (⟨-errno, none⟩, next)
      | (.ok none, next) => (⟨0, none⟩, next)
      | (.ok (some response), next) =>
        if call.copyToUser then (⟨0, some response⟩, next) else (⟨-efault, none⟩, next) := by
  have number := Command.number_of_ofNumber isCommand
  have magic : iocType call.cmd = ioctlMagic := by
    rw [number]
    cases command <;> decide
  unfold Call.command at isCommand
  rw [Registry.ioctl, if_neg (not_not.mpr magic), received]
  dsimp only
  generalize Command.ofNumber call.cmd = found at isCommand
  subst isCommand
  rfl

/-- Whether the answer can be copied back does not change what the call has done. -/
theorem Registry.ioctl_next (registry : Registry) {command : Command}
    (isCommand : call.command = some command) (received : call.copyFromUser = some request) :
    (registry.ioctl call).2 = (registry.perform call request command).2 := by
  rw [registry.ioctl_of_command isCommand received]
  obtain ⟨_ | _ | response, next⟩ := registry.perform call request command
  · rfl
  · rfl
  · dsimp only
    split <;> rfl

/-- A call without a command or without a request changes nothing. -/
theorem Registry.ioctl_of_no_command (registry : Registry)
    (unknown : call.command = none ∨ call.copyFromUser = none) :
    (registry.ioctl call).2 = registry ∧ (registry.ioctl call).1.result ≠ 0 := by
  have noTerminal : -enotty ≠ 0 := by decide
  have noAddress : -efault ≠ 0 := by decide
  unfold Registry.ioctl
  split
  · exact ⟨rfl, noTerminal⟩
  split
  · exact ⟨rfl, noAddress⟩
  · rename_i request received
    rw [received] at unknown
    rw [show Command.ofNumber call.cmd = none from unknown.resolve_right nofun]
    exact ⟨rfl, noTerminal⟩

/-- The record a request names. -/
theorem Registry.named_cases (registry : Registry) (call : Call) (request : Request) :
    (∃ errno, errno ≠ 0 ∧ registry.named call request = .error errno) ∨
      ∃ inode record, request.path.toList.getD 0 0 ≠ 0 ∧ call.target request = some inode ∧
        registry.lookup inode = some record ∧
        registry.named call request = .ok (inode, record) := by
  unfold Registry.named
  split
  · exact .inl ⟨einval, by decide, rfl⟩
  · rename_i nonempty
    cases call.target request with
    | none => exact .inl ⟨enoent, by decide, rfl⟩
    | some inode =>
      dsimp only
      cases found : registry.lookup inode with
      | none => exact .inl ⟨enoent, by decide, rfl⟩
      | some record => exact .inr ⟨inode, record, nonempty, rfl, found, rfl⟩

theorem Registry.session_of_lookup {record : Record} (found : registry.lookup inode = some record) :
    registry.session inode = record.session := by
  rw [Registry.session, found, Option.bind_some]

theorem Registry.session_insert (registry : Registry) (inode : Inode) (record : Record) :
    Registry.session (registry.insert inode record) inode = record.session :=
  Registry.session_of_lookup (Finmap.lookup_insert registry)

/-- A command that fails, or that is about another inode, leaves an inode alone. -/
theorem effect_of_error {errno : Int} (nonzero : errno ≠ 0)
    (ran : registry.ioctl call = (⟨-errno, none⟩, registry)) : Effect registry call inode := by
  refine .idle (by rw [ran]) fun _ _ => ?_
  rw [ran]
  exact neg_ne_zero.mpr nonzero

theorem effect_of_beginWrite (isCommand : call.command = some .beginWrite)
    (received : call.copyFromUser = some request) : Effect registry call inode := by
  have names : call.names = call.target request := by rw [Call.names, received, Option.bind_some]
  have ran := registry.ioctl_of_command isCommand received
  rw [Registry.perform] at ran
  obtain ⟨errno, nonzero, named⟩ | ⟨named, record, nonempty, isTarget, found, isNamed⟩ :=
    registry.named_cases call request
  · rw [named] at ran
    exact effect_of_error nonzero ran
  rw [isNamed] at ran
  dsimp only at ran
  by_cases busy : ∃ owner ∈ record.session, owner.1 ≠ call.current
  · rw [if_pos busy] at ran
    exact effect_of_error (by decide) ran
  rw [if_neg busy] at ran
  dsimp only at ran
  have next : (registry.ioctl call).2 =
      registry.insert named { record with session := some (call.current, call.token) } := by
    rw [ran]
    split <;> rfl
  by_cases same : named = inode
  · subst same
    have free : ∀ owner ∈ registry.session named, owner.1 = call.current := by
      rw [Registry.session_of_lookup found]
      intro owner owns
      by_contra other
      exact busy ⟨owner, owns, other⟩
    refine .begun request ⟨isCommand, names.trans isTarget, ⟨request, received, nonempty⟩,
      Finmap.mem_of_lookup_eq_some found, free⟩ ?_ ?_
    · rw [next, Registry.session_insert]
    · rw [ran]
      split <;> rfl
  · refine .idle ?_ fun itself _ => ?_
    · rw [next, Finmap.lookup_insert_of_ne _ (Ne.symm same)]
    · rw [names, isTarget] at itself
      exact absurd (Option.some.inj itself) same

theorem effect_of_endWrite (isCommand : call.command = some .endWrite)
    (received : call.copyFromUser = some request) : Effect registry call inode := by
  have names : call.names = call.target request := by rw [Call.names, received, Option.bind_some]
  have ran := registry.ioctl_of_command isCommand received
  rw [Registry.perform] at ran
  obtain ⟨errno, nonzero, named⟩ | ⟨named, record, -, isTarget, found, isNamed⟩ :=
    registry.named_cases call request
  · rw [named] at ran
    exact effect_of_error nonzero ran
  rw [isNamed] at ran
  dsimp only at ran
  by_cases own : record.session = some (call.current, request.token)
  · rw [if_pos own] at ran
    dsimp only at ran
    by_cases same : named = inode
    · subst same
      refine .ended request (names.trans isTarget) isCommand received ?_ ?_ ?_
      · rw [Registry.session_of_lookup found, own]
      · rw [ran, Registry.session_insert]
      · rw [ran]
    · refine .idle ?_ fun itself _ => ?_
      · rw [ran, Finmap.lookup_insert_of_ne _ (Ne.symm same)]
      · rw [names, isTarget] at itself
        exact absurd (Option.some.inj itself) same
  · rw [if_neg own] at ran
    exact effect_of_error (by decide) ran

theorem effect_of_register (isCommand : call.command = some .register)
    (received : call.copyFromUser = some request) : Effect registry call inode := by
  have names : call.names = call.target request := by rw [Call.names, received, Option.bind_some]
  have ran := registry.ioctl_of_command isCommand received
  rw [Registry.perform] at ran
  by_cases long : request.path.toList.getD (pathMax - 1) 0 ≠ 0
  · rw [if_pos long] at ran
    exact effect_of_error (by decide) ran
  rw [if_neg long] at ran
  cases isTarget : call.target request with
  | none =>
    rw [isTarget] at ran
    exact effect_of_error (by decide) ran
  | some named =>
    rw [isTarget] at ran
    dsimp only at ran
    by_cases full : named ∉ registry ∧ registry.keys.card = maxEntries
    · rw [if_pos full] at ran
      exact effect_of_error (by decide) ran
    rw [if_neg full] at ran
    by_cases same : named = inode
    · subst same
      refine .registration (names.trans isTarget) (.inl isCommand) ?_ ?_
      · rw [ran, Registry.session_insert]
      · rw [ran]
    · refine .idle ?_ fun itself _ => ?_
      · rw [ran, Finmap.lookup_insert_of_ne _ (Ne.symm same)]
      · rw [names, isTarget] at itself
        exact absurd (Option.some.inj itself) same

theorem effect_of_unregister (isCommand : call.command = some .unregister)
    (received : call.copyFromUser = some request) : Effect registry call inode := by
  have names : call.names = call.target request := by rw [Call.names, received, Option.bind_some]
  have ran := registry.ioctl_of_command isCommand received
  rw [Registry.perform] at ran
  cases isTarget : call.target request with
  | none =>
    rw [isTarget] at ran
    refine .idle (by rw [ran]) fun itself _ => ?_
    rw [names, isTarget] at itself
    cases itself
  | some named =>
    rw [isTarget] at ran
    by_cases same : named = inode
    · subst same
      refine .registration (names.trans isTarget) (.inr isCommand) ?_ ?_
      · rw [ran, Registry.session, Finmap.lookup_erase, Option.bind_none]
      · rw [ran]
    · refine .idle ?_ fun itself _ => ?_
      · rw [ran, Finmap.lookup_erase_ne (Ne.symm same)]
      · rw [names, isTarget] at itself
        exact absurd (Option.some.inj itself) same

theorem effect_of_query (isCommand : call.command = some .query)
    (received : call.copyFromUser = some request) : Effect registry call inode := by
  refine .idle ?_ fun _ other => absurd isCommand other
  rw [registry.ioctl_next isCommand received, Registry.perform]
  cases registry.named call request <;> rfl

/-- What any call does to any inode. -/
theorem effect (registry : Registry) (call : Call) (inode : Inode) :
    Effect registry call inode := by
  cases received : call.copyFromUser with
  | none =>
    obtain ⟨same, failed⟩ := registry.ioctl_of_no_command (.inr received)
    exact .idle (by rw [same]) fun _ _ => failed
  | some request =>
    cases isCommand : call.command with
    | none =>
      obtain ⟨same, failed⟩ := registry.ioctl_of_no_command (.inl isCommand)
      exact .idle (by rw [same]) fun _ _ => failed
    | some command =>
      cases command with
      | register => exact effect_of_register isCommand received
      | unregister => exact effect_of_unregister isCommand received
      | beginWrite => exact effect_of_beginWrite isCommand received
      | endWrite => exact effect_of_endWrite isCommand received
      | query => exact effect_of_query isCommand received

end Effects

end Padlock.Guard
